import DiddiGo.Projections.Capabilities
import DiddiGo.Projections.Proofs.LedgerProofs
import DiddiGo.Transactions.Proofs.SequentialProofs

/-!
# When the reconciliation agrees with publications

Both sides decide alike about the same vehicle, but an inactive vehicle is seen by one of them only.
-/

namespace DiddiGo.Projections

open Data (Keyed Table)
open Dossiers (DriverDossier KycStatus)
open Rides (Vehicle VehicleVerificationStatus)
open Transactions Prog

variable {vehicles : List RegisteredVehicle} {profile : DriverDossier} {driverId userId : UUID}
  {status : String} {actions : List String} {ask : Query → Delivery}

/-! ## The vehicles -/

theorem findActive_eq_some {v : RegisteredVehicle} (h : findActiveForDriver vehicles driverId = some v) :
    v ∈ vehicles ∧ v.driverId = driverId ∧ v.active := by
  have hv := List.find?_some h
  simp only [decide_eq_true_eq] at hv
  exact ⟨List.mem_of_find?_eq_some h, hv⟩

theorem findActive_eq_none :
    findActiveForDriver vehicles driverId = none ↔ ∀ v ∈ vehicles, v.driverId = driverId → v.active = false := by
  unfold findActiveForDriver
  rw [List.find?_eq_none]
  simp

theorem before_trans (a b c : RegisteredVehicle) (hab : a.before b) (hbc : b.before c) : a.before c := by
  unfold RegisteredVehicle.before at *
  grind

theorem before_total (a b : RegisteredVehicle) : (a.before b || b.before a) = true := by
  unfold RegisteredVehicle.before
  grind

theorem latest_eq_none :
    latestVehicle vehicles driverId = none ↔ ∀ v ∈ vehicles, v.driverId ≠ driverId := by
  unfold latestVehicle
  rw [List.head?_eq_none_iff, ← List.length_eq_zero_iff, List.length_mergeSort, List.length_eq_zero_iff,
    List.filter_eq_nil_iff]
  simp

theorem latest_eq_some {w : RegisteredVehicle} (h : latestVehicle vehicles driverId = some w) :
    w ∈ vehicles ∧ w.driverId = driverId ∧ ∀ v ∈ vehicles, v.driverId = driverId → v.active → w.active := by
  unfold latestVehicle at h
  set own := vehicles.filter fun v => v.driverId = driverId
  have hmem := fun {v} => (List.mergeSort_perm own RegisteredVehicle.before).mem_iff (a := v)
  obtain ⟨rest, hrest⟩ := List.head?_eq_some_iff.mp h
  obtain ⟨hw, hdriver⟩ := List.mem_filter.mp (hmem.mp (hrest ▸ List.mem_cons_self))
  refine ⟨hw, of_decide_eq_true hdriver, fun v hv hvd hactive => ?_⟩
  have hsorted := List.pairwise_mergeSort before_trans before_total own
  have hin : v ∈ w :: rest := hrest ▸ hmem.mpr (List.mem_filter.mpr ⟨hv, decide_eq_true hvd⟩)
  rw [hrest] at hsorted
  rcases List.mem_cons.mp hin with rfl | hv'
  · exact hactive
  · have hbefore := List.rel_of_pairwise_cons hsorted hv'
    unfold RegisteredVehicle.before at hbefore
    grind

/-- A page of candidates consists of rows of profiles. -/
theorem mem_listCandidates {profiles : List DriverDossier} {limit offset : Nat}
    {candidate : DriverProjectionCandidate} (h : candidate ∈ listCandidates vehicles profiles limit offset) :
    ∃ profile ∈ profiles, candidateOf vehicles profile = candidate := by
  obtain ⟨profile, hmem, hcandidate⟩ := List.mem_map.mp h
  refine ⟨profile, ?_, hcandidate⟩
  exact (List.mergeSort_perm profiles _).mem_iff.mp (List.mem_of_mem_drop (List.mem_of_mem_take hmem))

/-! ## The status of a driver -/

theorem not_decided : ¬ Decided profile ↔
    profile.kycStatus ≠ .rejected ∧ profile.status ≠ .pendingVerification ∧ profile.status ≠ .suspended := by
  unfold Decided
  simp only [not_or, ne_eq]

/-- Both sides decide alike from a profile, whatever the vehicles are. -/
theorem statusAgrees_of_decided (h : Decided profile) : StatusAgrees vehicles profile := by
  unfold StatusAgrees candidateStatus publishedStatus operationalStatus candidateOf
  unfold Decided at h
  cases hk : profile.kycStatus <;> cases hs : profile.status <;> simp_all [kycStatusText, Rides.DriverStatus.value]

/-- What the reconciliation says about a driver whose profile is in order. -/
theorem candidateStatus_of_active (h : ¬ Decided profile) :
    candidateStatus (candidateOf vehicles profile) =
      operationalStatus profile ((latestVehicle vehicles profile.id).map RegisteredVehicle.toVehicle) := by
  obtain ⟨hkyc, hpending, hsuspended⟩ := not_decided.mp h
  have hkyc' : kycStatusText profile.kycStatus ≠ "rejected" := by
    cases hk : profile.kycStatus <;> simp_all [kycStatusText]
  have hpending' : profile.status.value ≠ "pending_verification" := by
    cases hs : profile.status <;> simp_all [Rides.DriverStatus.value]
  have hsuspended' : profile.status.value ≠ "suspended" := by
    cases hs : profile.status <;> simp_all [Rides.DriverStatus.value]
  unfold candidateStatus operationalStatus candidateOf
  simp only [if_neg hkyc, if_neg hpending, if_neg hsuspended, if_neg hkyc', if_neg hpending', if_neg hsuspended']
  cases latestVehicle vehicles profile.id with
  | none => rfl
  | some w =>
    obtain ⟨⟨_, _, _, _, status, active⟩, _⟩ := w
    cases status <;> cases active <;> rfl

/-- If the profile is in order, a driver with a vehicle does not miss one. -/
theorem operationalStatus_of_active (h : ¬ Decided profile) (v : Vehicle) :
    (operationalStatus profile (some v)).1 ≠ "vehicle_missing" := by
  obtain ⟨hkyc, hpending, hsuspended⟩ := not_decided.mp h
  unfold operationalStatus
  simp only [if_neg hkyc, if_neg hpending, if_neg hsuspended]
  split_ifs <;> decide

theorem operationalStatus_none (h : ¬ Decided profile) :
    operationalStatus profile none = ("vehicle_missing", ["add_vehicle"]) := by
  obtain ⟨hkyc, hpending, hsuspended⟩ := not_decided.mp h
  unfold operationalStatus
  simp only [if_neg hkyc, if_neg hpending, if_neg hsuspended]

/-- Active vehicles with different verification statuses are reported differently. -/
theorem operationalStatus_inj (h : ¬ Decided profile) {v w : Vehicle} (hv : v.active) (hw : w.active) :
    operationalStatus profile (some v) = operationalStatus profile (some w) ↔
      v.verificationStatus = w.verificationStatus := by
  obtain ⟨hkyc, hpending, hsuspended⟩ := not_decided.mp h
  unfold operationalStatus
  simp only [if_neg hkyc, if_neg hpending, if_neg hsuspended, hv, hw]
  cases v.verificationStatus <;> cases w.verificationStatus <;> decide

theorem statusAgrees_iff : StatusAgrees vehicles profile ↔ SameView vehicles profile := by
  unfold SameView
  by_cases hdecided : Decided profile
  · exact iff_of_true (statusAgrees_of_decided hdecided) (Or.inl hdecided)
  rw [or_iff_right hdecided]
  unfold StatusAgrees publishedStatus
  rw [candidateStatus_of_active hdecided]
  cases hlatest : latestVehicle vehicles profile.id with
  | none =>
    have hnone := latest_eq_none.mp hlatest
    have hfind : findActiveForDriver vehicles profile.id = none :=
      findActive_eq_none.mpr fun v hv hd => absurd hd (hnone v hv)
    rw [hfind]
    exact iff_of_true rfl (Or.inl hnone)
  | some w =>
    obtain ⟨hw, hdriver, hactive⟩ := latest_eq_some hlatest
    rw [or_iff_right fun h => h w hw hdriver]
    cases hfind : findActiveForDriver vehicles profile.id with
    | none =>
      -- the reconciliation has found a vehicle, the publication has not
      refine iff_of_false (fun h => ?_) fun ⟨v, _, hv, _⟩ => nomatch hv
      rw [Option.map_none, operationalStatus_none hdecided] at h
      exact operationalStatus_of_active hdecided w.toVehicle (congrArg Prod.fst h)
    | some v =>
      obtain ⟨hv, hvd, hvactive⟩ := findActive_eq_some hfind
      rw [Option.map_some, Option.map_some,
        operationalStatus_inj hdecided (hactive v hv hvd hvactive) hvactive]
      constructor
      · intro h
        exact ⟨v, w, rfl, rfl, h.symm⟩
      · rintro ⟨v', w', hv', hw', h⟩
        obtain rfl := Option.some.inj hv'
        obtain rfl := Option.some.inj hw'
        exact h.symm

/-! ## Reconciling after a publication -/

/-- The outbox wants the identity service to know this. -/
def OutboxDb.Wants (db : OutboxDb) (userId : UUID) (status : String) (actions : List String) : Prop :=
  ∃ state, db.states.find? userId = some state ∧ state.desiredOperationalStatus = some status ∧
    state.desiredActions = actions.eraseDups ∧ state.lastEventId.getD "" ≠ ""

theorem find?_flushState {db : OutboxDb} {loaded new : ProjectionState}
    (h : db.states.find? loaded.userId = some loaded) (hnew : new.userId = loaded.userId) :
    (db.flushState loaded new).states.find? loaded.userId = some new := by
  unfold OutboxDb.flushState
  rw [Table.find?_update, if_pos rfl, h, Option.map_some, ProjectionState.flush_self _ _ hnew]

/-- After `enqueue`, this is what is wanted. -/
theorem ensures_enqueue (requestId : Option String) (id : UUID) (now : DateTime) :
    Ensures ask (fun _ => True) (enqueue userId status actions requestId id now) fun _ (db : OutboxDb) =>
      db.Wants userId status actions := by
  unfold enqueue
  refine Ensures.bind (Q := fun _ _ => True) (.insertOnce fun _ _ => trivial) fun _ => ?_
  refine Ensures.bind (Q := fun o (db : OutboxDb) => o = db.states.find? userId) (.selectForUpdate fun _ _ => rfl) fun o => ?_
  cases o with
  | none => exact .raise
  | some state =>
    dsimp only
    split_ifs with hsame
    · exact .ret fun db h => ⟨state, h.symm, hsame⟩
    · refine Ensures.bind (Q := fun _ (db : OutboxDb) => some state = db.states.find? userId)
        (.writeOrRaise fun _ h _ => h) fun _ => ?_
      refine Ensures.bind (Q := fun _ (db : OutboxDb) => db.Wants userId status actions) (.update fun db h => ?_) fun _ =>
        .ret fun _ h => h
      have huser : state.userId = userId := Table.key_of_find? h.symm
      subst huser
      exact ⟨_, find?_flushState h.symm rfl, rfl, rfl, eventIdOf_ne_empty _ _ _⟩

/-- What is wanted already is not enqueued again. -/
theorem ensures_enqueue_again (requestId : Option String) (id : UUID) (now : DateTime) :
    Ensures ask (fun db : OutboxDb => db.Wants userId status actions) (enqueue userId status actions requestId id now)
      fun event _ => event = none := by
  unfold enqueue
  refine Ensures.bind (Q := fun _ (db : OutboxDb) => db.Wants userId status actions) (.insertOnce fun db h => ?_) fun _ => ?_
  · obtain ⟨state, hstate, hwants⟩ := h
    rw [if_pos (by rw [hstate]; rfl)]
    exact ⟨state, hstate, hwants⟩
  refine Ensures.bind (Q := fun o (db : OutboxDb) => o = db.states.find? userId ∧ db.Wants userId status actions)
    (.selectForUpdate fun _ h => ⟨rfl, h⟩) fun o => ?_
  cases o with
  | none => exact .raise
  | some state =>
    dsimp only
    split_ifs with hsame
    · exact .ret fun _ _ => rfl
    · refine fun base db h => absurd ?_ hsame
      obtain ⟨hstate, state', hstate', hwants⟩ := h
      obtain rfl := Option.some.inj (hstate.trans hstate')
      exact hwants

theorem reconcilesSilently_of_agrees (h : StatusAgrees vehicles profile) :
    ReconcilesSilently vehicles profile := by
  intro ask requestId id now online refreshBefore now' batchSize free id' at' hoffline
  have hdesired : desiredStatus (candidateOf vehicles profile) online = publishedStatus vehicles profile := by
    unfold desiredStatus
    rw [if_neg fun hon => ?_]
    · exact h
    · exact Bool.false_ne_true (hoffline.symm.trans hon.2)
  refine (ensures_enqueue requestId id now).mono (fun _ h => h) fun _ db hwants => ?_
  unfold reconcile enqueueAll
  dsimp only
  rw [hdesired]
  refine Ensures.bind (Q := fun enqueued _ => enqueued = 0) ?_ fun enqueued => ?_
  · refine Ensures.bind (Q := fun event _ => event = none)
      ((ensures_enqueue_again _ _ _).mono (fun _ h => h ▸ hwants) fun _ _ h => h) fun event => ?_
    refine Ensures.bind (Q := fun rest _ => event = none ∧ rest = 0) (.ret fun _ h => ⟨h, rfl⟩) fun rest => ?_
    refine .ret fun _ ⟨hevent, hrest⟩ => ?_
    rw [hevent, hrest]
    rfl
  · refine Ensures.bind (Q := fun _ _ => enqueued = 0) (fun base db henqueued _ _ => henqueued) fun refreshed => ?_
    exact .ret fun _ henqueued => henqueued

/-- The reconciliation agrees with the publication exactly if the profile decides, the driver has no vehicle, or
the active vehicle that is found has the verification status of the active one created last. -/
theorem reconciliationAgrees_iff (vehicles : List RegisteredVehicle) (profile : DriverDossier) :
    StatusAgrees vehicles profile ∧ ReconcilesSilently vehicles profile ↔ SameView vehicles profile := by
  constructor
  · rintro ⟨h, -⟩
    exact statusAgrees_iff.mp h
  · intro h
    have hagrees := statusAgrees_iff.mpr h
    exact ⟨hagrees, reconcilesSilently_of_agrees hagrees⟩

namespace Sample

/-- A verified driver. -/
def driver : DriverDossier where
  id := 20
  userId := 2
  status := .active
  licenseNumber := "CI-20"
  kycStatus := .approved

/-- His only vehicle was withdrawn. -/
def withdrawnVehicle : RegisteredVehicle where
  id := 40
  driverId := 20
  verificationStatus := .active
  active := false
  createdAt := 0

end Sample

/-- The publication says that a vehicle is missing, the reconciliation that it is unavailable. -/
theorem reconciliationDisagrees_inactive :
    ¬ (StatusAgrees [Sample.withdrawnVehicle] Sample.driver ∧
      ReconcilesSilently [Sample.withdrawnVehicle] Sample.driver) := by
  rintro ⟨h, -⟩
  revert h
  unfold StatusAgrees
  decide +kernel

end DiddiGo.Projections
