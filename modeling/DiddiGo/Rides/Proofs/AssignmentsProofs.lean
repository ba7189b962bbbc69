import DiddiGo.Rides.Assignments
import DiddiGo.Rides.Proofs.ConcurrencyProofs
import DiddiGo.Rides.Proofs.RideRulesProofs

/-!
# One driver for a ride, one ride for a driver

As long as the holder of a claim has not ended, the row is the one that was offered: any other writer would
hold the claim. So what the holder read before it had the claim is still true when it commits.
-/

namespace DiddiGo.Rides

open Data (Json Keyed Table)
open Transactions Prog RelyGuarantee

variable {Proc World : Type} {σ : Scenario Proc World} {claims : ClaimStore σ} {db₀ db : RideDb} {i j : Proc}
  {id rideId d : UUID} {row ride : Ride} {q : Query} {P : Point σ.machine} {J : Point σ.machine → Prop}
  {s s' : Shared σ.machine} {α : Type}

/-! ## The invariant -/

theorem HasWon.congr (h : HasWon claims db₀ j id s)
    (hlog : (j, Except.ok ()) ∈ s.log → (j, Except.ok ()) ∈ s'.log)
    (hholder : claims.holder s.world id = some j → claims.holder s'.world id = some j)
    (hrow : s'.db.rides.find? id = s.db.rides.find? id) : HasWon claims db₀ j id s' where
  accepts := h.accepts
  logged := hlog h.logged
  holds := hholder h.holds
  row := by
    obtain ⟨row, row', hrow₀, hrow', hassigns⟩ := h.row
    exact ⟨row, row', hrow₀, hrow.trans hrow', hassigns⟩

namespace AcceptInv

/-- Whoever holds the claim of a ride and has not ended finds it as it was. -/
theorem row_of_holds (h : AcceptInv claims db₀ s) (hholds : claims.holder s.world id = some i)
    (hrunning : ∀ r, (i, r) ∉ s.log) : s.db.rides.find? id = db₀.rides.find? id := by
  rcases h.rows id with hrow | ⟨j, hj⟩
  · exact hrow
  · obtain rfl : j = i := Option.some.inj (hj.holds.symm.trans hholds)
    exact absurd hj.logged (hrunning _)

/-- A ride that still waits for a driver is as it was. -/
theorem row_of_requested (h : AcceptInv claims db₀ s) (hrow : s.db.rides.find? id = some row)
    (hstatus : row.status = .requested) : db₀.rides.find? id = some row := by
  rcases h.rows id with hsame | ⟨j, hj⟩
  · exact hsame.symm.trans hrow
  · obtain ⟨row₀, row', -, hrow', hassigns⟩ := hj.row
    obtain rfl := Option.some.inj (hrow.symm.trans hrow')
    obtain ⟨profile, vehicle, -, -, -, -, -, -, rfl⟩ := hassigns.assigned
    cases hstatus

/-- The invariant when rides, drivers and claims stay and more requests have ended. -/
theorem congr (h : AcceptInv claims db₀ s) (hdb : s'.db = s.db)
    (hlog : ∀ j, (j, Except.ok ()) ∈ s'.log ↔ (j, Except.ok ()) ∈ s.log)
    (hholder : ∀ j id, HasWon claims db₀ j id s → claims.holder s'.world id = some j) :
    AcceptInv claims db₀ s' := by
  have hwon {j : Proc} {id : UUID} (hj : HasWon claims db₀ j id s) : HasWon claims db₀ j id s' :=
    hj.congr (hlog j).mpr (fun _ => hholder j id hj) (by rw [hdb])
  refine ⟨fun id => ?_, fun j id hj haccepts => ?_, ?_, ?_, ?_⟩
  · rw [hdb]
    exact (h.rows id).imp_right fun ⟨j, hj⟩ => ⟨j, hwon hj⟩
  · exact hwon (h.successes j id ((hlog j).mp hj) haccepts)
  · rw [hdb]
    exact h.sole
  · rw [hdb]
    exact h.profiles
  · rw [hdb]
    exact h.vehicles

end AcceptInv

/-- A claim that a request has won is left to it by the others, and by itself after it ended. -/
theorem HasWon.claimStep (h : HasWon claims db₀ j id s)
    (hstep : ClaimStep i q (claims.holder s.world) (claims.holder s'.world) id)
    (hq : q = .releaseClaim id ∨ q = .clear id →
      claims.holder s.world id = some i ∧ ∀ r, (i, r) ∉ s.log) : claims.holder s'.world id = some j := by
  cases hstep with
  | kept hsame => exact hsame.trans h.holds
  | taken _ hfree _ => cases hfree.symm.trans h.holds
  | released hrelease _ =>
    obtain ⟨hholds, hrunning⟩ := hq hrelease
    obtain rfl : j = i := Option.some.inj (h.holds.symm.trans hholds)
    exact absurd h.logged (hrunning _)

/-! ## Steps that write nothing -/

/-- A command to Redis; a claim is given up only by its holder. -/
theorem permits_of_claimStep {held : Row → Prop} (hinv : AcceptInv claims db₀ s) (hdb : s'.db = s.db)
    (hlog : s'.log = s.log)
    (hstep : ∀ id, ClaimStep i q (claims.holder s.world) (claims.holder s'.world) id)
    (hq : ∀ id, q = .releaseClaim id ∨ q = .clear id →
      claims.holder s.world id = some i ∧ ∀ r, (i, r) ∉ s.log) :
    (acceptDiscipline claims db₀).Permits i held s s' where
  inv := hinv.congr hdb (fun _ => by rw [hlog]) fun _ id hj => hj.claimStep (hstep id) (hq id)
  guar := by
    refine ⟨fun id => ⟨fun _ => by rw [hdb], ?_⟩, fun _ _ _ => by rw [hlog]⟩
    cases hstep id with
    | kept hsame => exact Or.inl hsame
    | taken _ hfree htaken => exact Or.inr (Or.inl ⟨hfree, htaken⟩)
    | released hrelease hnone => exact Or.inr (Or.inr ⟨(hq id hrelease).1, hnone⟩)
  frame k _ := by
    rw [hdb]
    exact (acceptDiscipline claims db₀).same_refl k _

/-- A step that nobody notices. -/
theorem permits_of_silent {held : Row → Prop} (hinv : AcceptInv claims db₀ s) (hdb : s'.db = s.db)
    (hlog : s'.log = s.log) (hholder : ∀ id, claims.holder s'.world id = claims.holder s.world id) :
    (acceptDiscipline claims db₀).Permits i held s s' :=
  permits_of_claimStep (q := .speed 0) hinv hdb hlog (fun id => .kept (hholder id)) fun _ hq => by
    rcases hq with hq | hq <;> cases hq

theorem interferes_of_silent (hs : (acceptDiscipline claims db₀).Interferes i P s) (hdb : s'.db = s.db)
    (hlog : s'.log = s.log) (hholder : ∀ id, claims.holder s'.world id = claims.holder s.world id) :
    (acceptDiscipline claims db₀).Interferes i P s' where
  same k hk := by
    rw [hdb]
    exact hs.same k hk
  rely := ⟨fun id hid => by rw [hdb]; exact hs.rely.row id hid, fun id => by rw [hholder]; exact hs.rely.claim id,
    fun r => by rw [hlog]; exact hs.rely.log r⟩
  inv := hs.inv.congr hdb (fun _ => by rw [hlog]) fun _ id hj => (hholder id).trans hj.holds

/-- The command leaves claims alone. -/
def Query.KeepsClaims (q : Query) : Prop :=
  ∀ rideId userId, q ≠ .claim rideId userId ∧ q ≠ .releaseClaim rideId ∧ q ≠ .clear rideId

theorem holder_receives (hq : q.KeepsClaims) (w : World) (id : UUID) :
    claims.holder (σ.receives w i q) id = claims.holder w id := by
  cases claims.receives w i q id with
  | kept h => exact h
  | taken h _ _ => exact absurd h (hq _ _).1
  | released h _ => exact (h.elim (hq id 0).2.1 (hq id 0).2.2).elim

theorem accept_stays_ask {harmless : (RideDb → RideDb) → Prop}
    (hJ : (acceptDiscipline claims db₀).Stage i harmless J) (hq : q.KeepsClaims) :
    (acceptDiscipline claims db₀).Stays i J (Prog.ask q) := by
  refine fun P hP => wpOk_ask fun s hs => ⟨permits_of_silent hs.inv rfl rfl (holder_receives hq s.world), ?_⟩
  have hsent : (acceptDiscipline claims db₀).Interferes i P (s.send i q) :=
    interferes_of_silent hs rfl rfl (holder_receives hq s.world)
  refine fun s' hs' a w ha => ⟨permits_of_silent hs'.inv rfl rfl (claims.answers _ _ _ _ _ ha), ?_⟩
  have hP' : J (P.withShared (s.send i q)) := hJ.interfere hP hsent
  have hs'' : (acceptDiscipline claims db₀).Interferes i (P.withShared (s.send i q)) (s'.reply i q a w) :=
    interferes_of_silent hs' rfl rfl (claims.answers _ _ _ _ _ ha)
  exact show J ((P.withShared (s.send i q)).withShared (s'.reply i q a w)) from hJ.interfere hP' hs''

theorem accept_stays_askFor {harmless : (RideDb → RideDb) → Prop}
    (hJ : (acceptDiscipline claims db₀).Stage i harmless J) (hq : q.KeepsClaims) (read : Reply → Option α) :
    (acceptDiscipline claims db₀).Stays i J (askFor read q) := by
  refine (accept_stays_ask hJ hq).bind fun answer => ?_
  cases answer with
  | error e => exact .raise _
  | ok reply =>
    dsimp only
    cases read reply with
    | some a => exact .ret _
    | none => exact .raise _
/-! ## Stages -/

theorem stage_looksOn : (acceptDiscipline claims db₀).Stage i (fun _ => False) (LooksOn i) where
  interfere hP hs := ⟨hP.unchanged, fun r hr => hP.running r ((hs.rely.log r).mp hr)⟩
  hold hP _ := ⟨hP.unchanged, hP.running⟩
  write _ hf := hf.elim

theorem HoldsClaim.interfere (hP : HoldsClaim claims i rideId P)
    (hs : (acceptDiscipline claims db₀).Interferes i P s) : HoldsClaim claims i rideId (P.withShared s) :=
  ⟨(hs.rely.claim rideId).mpr hP.holds, fun r hr => hP.running r ((hs.rely.log r).mp hr)⟩

/-- The status changes and nothing else are recorded. -/
def RecordsOnly (f : RideDb → RideDb) : Prop :=
  ∀ db, (f db).rides = db.rides ∧ (f db).profiles = db.profiles ∧ (f db).vehicles = db.vehicles

theorem stage_hasAssigned :
    (acceptDiscipline claims db₀).Stage i RecordsOnly (HasAssigned claims i row ride d) where
  interfere hP hs :=
    { toHoldsClaim := hP.toHoldsClaim.interfere hs
      heldRide := hP.heldRide
      heldDriver := hP.heldDriver
      free := fun id hid hd => hP.free id hid ((hs.same (.activeDriver d) hP.heldDriver id).mpr hd)
      rides := hP.rides
      profiles := hP.profiles
      vehicles := hP.vehicles }
  hold hP h := { hP with heldRide := h _ hP.heldRide, heldDriver := h _ hP.heldDriver }
  write hP hf :=
    { hP with
      rides := fun db => (hf _).1.trans (hP.rides db)
      profiles := fun db => (hf _).2.1.trans (hP.profiles db)
      vehicles := fun db => (hf _).2.2.trans (hP.vehicles db) }

/-! ## Before the claim -/

/-- The ride of the request was offered when the run began. -/
theorem wp_loadActiveRide (hP : LooksOn i P) :
    (acceptDiscipline claims db₀).wpOk i (loadActiveRide rideId) (fun ride P' => LooksOn i P' ∧
      ∃ row, db₀.rides.find? rideId = some row ∧ row.status = .requested ∧ ride = row.toDomain) P := by
  refine wpOk_bind (Q := fun ride P' => LooksOn i P' ∧ (ride.status = .requested →
    ∃ row, db₀.rides.find? rideId = some row ∧ row.status = .requested ∧ ride = row.toDomain)) ?_ ?_
  · refine wpOk_bind (Q := fun o P' => LooksOn i P' ∧ ∀ ride, o = some ride → ride.status = .requested →
      ∃ row, db₀.rides.find? rideId = some row ∧ row.status = .requested ∧ ride = row.toDomain)
      (wpOk_select fun s hs => ⟨stage_looksOn.interfere hP hs, fun ride hride hstatus => ?_⟩) ?_
    · rw [hP.unchanged] at hride
      obtain ⟨row, hrow, rfl⟩ := Option.map_eq_some_iff.mp hride
      exact ⟨row, hs.inv.row_of_requested hrow hstatus, hstatus, rfl⟩
    · rintro o P ⟨hP, ho⟩
      cases o with
      | some ride => exact wpOk_ret ⟨hP, ho ride rfl⟩
      | none => exact wpOk_raise
  · rintro ride P ⟨hP, hride⟩
    exact wpOk_raiseIf_bind fun _ => wpOk_raiseIf_bind fun hstatus => wpOk_ret ⟨hP, hride (not_not.mp hstatus)⟩

theorem wp_currentOffers {nth : Nat} (hP : LooksOn i P) :
    (acceptDiscipline claims db₀).wpOk i (currentOffers rideId nth) (fun _ => LooksOn i) P := by
  have htype : (acceptDiscipline claims db₀).Stays i (LooksOn i) (askFor Reply.keyType? (.offerType rideId nth)) :=
    accept_stays_askFor (q := .offerType rideId nth) stage_looksOn (fun _ _ => ⟨nofun, nofun, nofun⟩) _
  have hmembers : (acceptDiscipline claims db₀).Stays i (LooksOn i)
      (askFor Reply.users? (.offerMembers rideId nth)) :=
    accept_stays_askFor (q := .offerMembers rideId nth) stage_looksOn (fun _ _ => ⟨nofun, nofun, nofun⟩) _
  refine Stays.bind htype (fun type => ?_) P hP
  cases type with
  | none => exact .ret _
  | string => exact hmembers
  | set => exact hmembers

theorem wp_findProfileByUserId {userId : UUID} (hP : LooksOn i P) :
    (acceptDiscipline claims db₀).wpOk i (findProfileByUserId userId)
      (fun o P' => LooksOn i P' ∧ o = db₀.profileOf userId) P := by
  refine wpOk_select fun s hs => ⟨stage_looksOn.interfere hP hs, ?_⟩
  rw [hP.unchanged]
  unfold RideDb.profileOf
  rw [hs.inv.profiles]

theorem wp_findActiveVehicle {driverId : UUID} (hP : LooksOn i P) :
    (acceptDiscipline claims db₀).wpOk i (findActiveVehicle driverId) (fun o P' => LooksOn i P' ∧
      ∀ v, o = some v → v ∈ db₀.vehicles.rows ∧ v.driverId = driverId ∧ v.active = true) P := by
  refine wpOk_select fun s hs => ⟨stage_looksOn.interfere hP hs, fun v hv => ?_⟩
  rw [hP.unchanged, hs.inv.vehicles] at hv
  have hchosen : v.driverId = driverId ∧ v.active = true := by simpa using List.find?_some hv
  exact ⟨List.mem_of_find?_eq_some hv, hchosen⟩

/-- The winner has the claim; it still has written nothing. -/
theorem wp_claim {userId : UUID} (hP : LooksOn i P) :
    (acceptDiscipline claims db₀).wpOk i (askFor Reply.flag? (.claim rideId userId))
      (fun won P' => LooksOn i P' ∧ (won = true → HoldsClaim claims i rideId P')) P := by
  refine wpOk_bind (Q := fun answer P' => LooksOn i P' ∧
    (answer = .ok (.flag true) → HoldsClaim claims i rideId P')) (wpOk_ask fun s hs => ⟨?_, ?_⟩) ?_
  · exact permits_of_claimStep hs.inv rfl rfl (claims.receives s.world i _) fun _ hq => by
      rcases hq with hq | hq <;> cases hq
  · intro s' hs' a w ha
    have hrunning (r : Except Err Unit) : (i, r) ∉ s'.log := fun hr =>
      hP.running r ((hs.rely.log r).mp ((hs'.rely.log r).mp hr))
    refine ⟨permits_of_silent hs'.inv rfl rfl (claims.answers _ _ _ _ _ ha), ⟨hP.unchanged, hrunning⟩, ?_⟩
    rintro rfl
    refine ⟨?_, hrunning⟩
    change claims.holder w rideId = some i
    rw [claims.answers _ _ _ _ _ ha]
    exact claims.won _ _ _ _ _ ha
  · rintro answer P ⟨hP, hwon⟩
    cases answer with
    | error e => exact wpOk_raise
    | ok reply =>
      dsimp only
      cases hreply : reply.flag? with
      | none => exact wpOk_raise
      | some won =>
        refine wpOk_ret ⟨hP, ?_⟩
        rintro rfl
        unfold Reply.flag? at hreply
        split at hreply
        · rw [Option.some.inj hreply] at hwon
          exact hwon rfl
        · cases hreply
/-! ## The assignment -/

theorem activeDriver_matched {r : Ride} {driverId vehicleId : UUID} {now : DateTime} :
    ((r.assign driverId vehicleId).enter .matched now).activeDriver = some driverId := rfl

theorem activeDriver_storedOver (r row : Ride) : (r.storedOver row).activeDriver = r.activeDriver := rfl

/-- A check of the unique keys that finds nothing: no other ride keeps the driver. -/
theorem free_of_conflict (hfound : db.rides.find? row.id = some row) (hdriver : ride.activeDriver = some d)
    (hid : ride.id = row.id) (h : db.conflict (db.flushed row ride) = false) (hne : id ≠ row.id) :
    ¬ db.Drives d id := by
  rintro ⟨x, hx, hxd⟩
  have hflushed : db.flushed row ride = ride.storedOver row := by
    unfold RideDb.flushed
    rw [hid, hfound, Option.getD_some, Ride.flush_self]
  rw [hflushed] at h
  have hxid : x.id = id := Table.key_of_find? hx
  have hnone := List.any_eq_false.mp h x (Table.mem_of_find? hx)
  refine hnone (decide_eq_true ⟨?_, Or.inl ⟨?_, ?_⟩⟩)
  · change x.id ≠ row.id
    rw [hxid]
    exact hne
  · rw [activeDriver_storedOver, hdriver]
    rfl
  · rw [activeDriver_storedOver, hdriver, hxd]

theorem wpOr_save (read ride : Ride) (hrow : db₀.rides.find? row.id = some row)
    (hdriver : ride.activeDriver = some d) (hid : ride.id = row.id) (hP : HoldsClaim claims i row.id P)
    (hunchanged : ∀ db, P.pending db = db) :
    (acceptDiscipline claims db₀).wpOr i (HoldsClaim claims i row.id) (save read ride)
      (fun _ => HasAssigned claims i row ride d) P := by
  have hfound {P : Point σ.machine} (hP : HoldsClaim claims i row.id P) {s : Shared σ.machine}
      (hs : (acceptDiscipline claims db₀).Interferes i P s) : s.db.rides.find? row.id = some row :=
    (hs.inv.row_of_holds (hP.interfere hs).holds (hP.interfere hs).running).trans hrow
  refine wpOr_bind (I := fun o P' => o = some row ∧ HoldsClaim claims i row.id P' ∧ ∀ db, P'.pending db = db)
    (wpOr_selectAs fun s hs => ⟨permits_of_silent hs.inv rfl rfl fun _ => rfl, ?_, ?_, hunchanged⟩) ?_
  · rw [hunchanged, hid]
    exact hfound hP hs
  · exact { hP.interfere hs with }
  rintro _ P ⟨rfl, hP, hunchanged⟩
  refine wpOr_writeOrRaiseAs fun s hs => ⟨permits_of_silent hs.inv rfl rfl fun _ => rfl, fun _ => ?_,
    fun hconflict => ?_⟩
  · exact { hP.interfere hs with }
  rw [hunchanged] at hconflict
  have hpending (db : RideDb) : P.pending db = db := hunchanged db
  have hfree (id : UUID) (hne : id ≠ row.id) : ¬ RideDb.Drives s.db d id :=
    free_of_conflict (hfound hP hs) hdriver hid hconflict hne
  exact
    { hP.interfere hs with
      heldRide := Or.inl (by unfold Ride.keys; rw [hid]; simp)
      heldDriver := Or.inl (by unfold Ride.keys; rw [hdriver]; simp)
      free := hfree
      rides := fun db => by simp only [Function.comp_apply, hpending]
      profiles := fun db => by simp only [Function.comp_apply, hpending]; rfl
      vehicles := fun db => by simp only [Function.comp_apply, hpending]; rfl }

theorem wpOr_recordStatusTransitions (ts : List RideStatusTransition) (hP : HasAssigned claims i row ride d P) :
    (acceptDiscipline claims db₀).wpOr i (HoldsClaim claims i row.id) (recordStatusTransitions ts)
      (fun _ => HasAssigned claims i row ride d) P := by
  induction ts generalizing P with
  | nil => exact wpOr_ret hP
  | cons t ts ih =>
    have hJ : (acceptDiscipline claims db₀).Stage i RecordsOnly (HasAssigned claims i row ride d) :=
      stage_hasAssigned
    refine wpOr_bind (I := fun _ => HasAssigned claims i row ride d) (wpOr_update fun s hs => ?_) fun _ P hP => ih hP
    exact hJ.write (hJ.hold (hJ.interfere hP hs) fun _ => Or.inr) fun _ => ⟨rfl, rfl, rfl⟩

theorem wpOr_assignDriver {driverId vehicleId : UUID} {now : DateTime} (hrow : db₀.rides.find? row.id = some row)
    (hstatus : row.status = .requested) (hP : HoldsClaim claims i row.id P) (hunchanged : ∀ db, P.pending db = db) :
    (acceptDiscipline claims db₀).wpOr i (HoldsClaim claims i row.id)
      (assignDriver row.toDomain driverId vehicleId now) (fun _ => HasAssigned claims i row
        ((row.toDomain.assign driverId vehicleId).enter .matched now) driverId) P := by
  refine wpOr_bind (I := fun r P' => r = (row.toDomain.assign driverId vehicleId).enter .matched now ∧
    HoldsClaim claims i row.id P' ∧ ∀ db, P'.pending db = db) ?_ ?_
  · unfold transitionOrRaise
    cases ht : (row.toDomain.assign driverId vehicleId).transition .matched now with
    | none => exact wpOr_raise hP
    | some r =>
      have hne : RideStatus.matched ≠ (row.toDomain.assign driverId vehicleId).status := by
        change _ ≠ row.status
        rw [hstatus]
        decide
      exact wpOr_ret ⟨(Ride.transition_eq_some ht hne).2, hP, hunchanged⟩
  · rintro _ P ⟨rfl, hP, hunchanged⟩
    refine wpOr_bind (wpOr_save row.toDomain ((row.toDomain.assign driverId vehicleId).enter .matched now) hrow
      activeDriver_matched rfl hP hunchanged) fun _ P hP => ?_
    exact wpOr_bind (wpOr_recordStatusTransitions _ hP) fun _ P hP => wpOr_ret hP

/-- The claim is given up, and the request fails. -/
theorem wp_releaseClaim {e : Err} {Q : Ride → Point σ.machine → Prop} (hP : HoldsClaim claims i rideId P) :
    (acceptDiscipline claims db₀).wpOk i (do
      tell (.releaseClaim rideId)
      if e = .integrity then
        apiError 409 "DRIVER_ALREADY_ON_ACTIVE_RIDE" "Ce chauffeur est deja affecte a une course active."
      else throw e) Q P := by
  refine wpOk_bind (Q := fun _ _ => True) (wpOk_bind (Q := fun _ _ => True) (wpOk_ask fun s hs => ⟨?_, ?_⟩) ?_) ?_
  · refine permits_of_claimStep hs.inv rfl rfl (claims.receives s.world i _) fun id hq => ?_
    rcases hq with hq | hq
    · obtain rfl := Query.releaseClaim.inj hq
      exact ⟨(hP.interfere hs).holds, (hP.interfere hs).running⟩
    · cases hq
  · exact fun s' hs' a w ha => ⟨permits_of_silent hs'.inv rfl rfl (claims.answers _ _ _ _ _ ha), trivial⟩
  · rintro answer P -
    cases answer with
    | error e => exact wpOk_raise
    | ok reply => exact wpOk_ret trivial
  · rintro _ P -
    split_ifs
    · exact wpOk_raise
    · exact wpOk_raise

theorem wp_accept (hop : (σ.call i).op = .accept rideId) (hP : LooksOn i P) :
    (acceptDiscipline claims db₀).wpOk i (accept rideId (σ.call i).actor.userId (σ.call i).clock.now)
      (fun _ P' => ∃ row ride d, db₀.rides.find? rideId = some row ∧
        Assigns (σ.call i) db₀ row (ride.storedOver row) ∧ ride.id = row.id ∧ ride.activeDriver = some d ∧
        HasAssigned claims i row ride d P') P := by
  refine wpOk_bind (wp_loadActiveRide hP) ?_
  rintro _ P ⟨hP, row, hrow, hstatus, rfl⟩
  obtain rfl : row.id = rideId := Table.key_of_find? hrow
  refine wpOk_bind (wp_currentOffers hP) fun holders P hP => wpOk_raiseIf_bind fun _ => wpOk_raiseIf_bind fun _ =>
    wpOk_bind (wp_findProfileByUserId hP) ?_
  rintro o P ⟨hP, ho⟩
  cases hprofile : o.filter fun p => p.status = .active with
  | none => exact wpOk_raise
  | some profile =>
    obtain ⟨hfound, hactive⟩ := Option.filter_eq_some_iff.mp hprofile
    refine wpOk_raiseIf_bind fun hreview => wpOk_bind (wp_findActiveVehicle hP) ?_
    rintro o' P ⟨hP, ho'⟩
    cases o' with
    | none => exact wpOk_raise
    | some vehicle =>
      obtain ⟨hvehicle, hdriver, hused⟩ := ho' vehicle rfl
      refine wpOk_bind (wp_claim hP) ?_
      rintro won P ⟨hP, hwon⟩
      refine wpOk_raiseIf_bind fun hlost => ?_
      have hclaim := hwon (Bool.eq_true_of_not_eq_false hlost)
      have hassigns : Assigns (σ.call i) db₀ row
          (((row.toDomain.assign profile.id vehicle.id).enter .matched (σ.call i).clock.now).storedOver row) :=
        ⟨hstatus, profile, vehicle, ho.symm.trans hfound, of_decide_eq_true hactive, not_not.mp hreview,
          hvehicle, hdriver, hused, rfl⟩
      refine wpOk_bind (Q := fun _ => HasAssigned claims i row _ profile.id)
        (wpOk_tryCatch_of_wpOr (wpOr_assignDriver hrow hstatus hclaim hP.unchanged) fun e P hP => wp_releaseClaim hP)
        fun matched P hP => ?_
      have hoffers : (acceptDiscipline claims db₀).Stays i (HasAssigned claims i row
          ((row.toDomain.assign profile.id vehicle.id).enter .matched (σ.call i).clock.now) profile.id)
          (tell (.deleteOffers row.id)) :=
        accept_stays_askFor (q := .deleteOffers row.id) stage_hasAssigned (fun _ _ => ⟨nofun, nofun, nofun⟩) _
      have havailable : (acceptDiscipline claims db₀).Stays i (HasAssigned claims i row
          ((row.toDomain.assign profile.id vehicle.id).enter .matched (σ.call i).clock.now) profile.id)
          (tell (.setAvailable (σ.call i).actor.userId false)) :=
        accept_stays_askFor (q := .setAvailable (σ.call i).actor.userId false) stage_hasAssigned
          (fun _ _ => ⟨nofun, nofun, nofun⟩) _
      refine wpOk_bind (hoffers P hP) fun _ P hP => wpOk_bind (havailable P hP) fun _ P hP => wpOk_ret ?_
      exact ⟨row, _, profile.id, hrow, hassigns, rfl, activeDriver_matched, hP⟩
/-! ## Runs -/

theorem find?_flushRide (ride' : Ride) (id : UUID) : (db.flushRide row ride').rides.find? id =
    if id = ride'.id then (db.rides.find? id).map fun current => Ride.flush row ride' current
    else db.rides.find? id :=
  Table.find?_update db.rides ride'.id (fun current => Ride.flush row ride' current) (fun _ => rfl) id

/-- What the assignment leaves in the tables when it is committed. -/
theorem HasAssigned.find? (hP : HasAssigned claims i row ride d P)
    (hrow : P.shared.db.rides.find? row.id = some row) (hid : ride.id = row.id) (id : UUID) :
    (P.pending P.shared.db).rides.find? id =
      if id = row.id then some (ride.storedOver row) else P.shared.db.rides.find? id := by
  rw [hP.rides, find?_flushRide, hid]
  by_cases h : id = row.id
  · rw [if_pos h, if_pos h, h, hrow, Option.map_some, Ride.flush_self]
  · rw [if_neg h, if_neg h]

theorem ends_of_assigned (haccepts : (σ.call i).acceptedRide = some row.id)
    (hrow : db₀.rides.find? row.id = some row) (hid : ride.id = row.id)
    (hassigns : Assigns (σ.call i) db₀ row (ride.storedOver row)) (hdriver : ride.activeDriver = some d)
    (hP : HasAssigned claims i row ride d P) : (acceptDiscipline claims db₀).Ends i (.ok ()) P := by
  intro s hs
  have hP' : HasAssigned claims i row ride d (P.withShared s) := stage_hasAssigned.interfere hP hs
  have hfound : s.db.rides.find? row.id = some row :=
    (hs.inv.row_of_holds hP'.holds hP'.running).trans hrow
  have hfind (id : UUID) : (P.pending s.db).rides.find? id =
      if id = row.id then some (ride.storedOver row) else s.db.rides.find? id := hP'.find? hfound hid id
  have hother {id : UUID} (hne : id ≠ row.id) : (P.pending s.db).rides.find? id = s.db.rides.find? id := by
    rw [hfind, if_neg hne]
  have hself : (P.pending s.db).rides.find? row.id = some (ride.storedOver row) := by
    rw [hfind, if_pos rfl]
  have hdrives {d' id : UUID} : RideDb.Drives (P.pending s.db) d' id ↔
      (id = row.id ∧ d' = d ∨ id ≠ row.id ∧ s.db.Drives d' id) := by
    unfold RideDb.Drives
    by_cases hne : id = row.id
    · subst hne
      rw [hself]
      refine ⟨?_, ?_⟩
      · rintro ⟨r, hr, hd⟩
        obtain rfl := Option.some.inj hr
        exact Or.inl ⟨rfl, Option.some.inj (hd.symm.trans hdriver)⟩
      · rintro (⟨-, rfl⟩ | ⟨hne, -⟩)
        · exact ⟨_, rfl, hdriver⟩
        · exact absurd rfl hne
    · rw [hother hne]
      exact ⟨fun h => Or.inr ⟨hne, h⟩, fun h => (h.resolve_left fun h => hne h.1).2⟩
  have hwon : HasWon claims db₀ i row.id (s.finish i (.ok ()) (P.pending s.db)) :=
    ⟨haccepts, List.mem_append_right _ (List.mem_singleton.mpr rfl), hP'.holds, row, _, hrow, hself, hassigns⟩
  have hkept {j : Proc} {id : UUID} (hj : HasWon claims db₀ j id s) :
      HasWon claims db₀ j id (s.finish i (.ok ()) (P.pending s.db)) := by
    refine hj.congr (List.mem_append_left _) (fun h => h) (hother ?_)
    rintro rfl
    obtain rfl : j = i := Option.some.inj (hj.holds.symm.trans hP'.holds)
    exact hP'.running _ hj.logged
  refine ⟨⟨fun id => ?_, fun j id hj hid => ?_, ?_, ?_, ?_⟩, ⟨fun id => ⟨fun hne => ?_, Or.inl rfl⟩, ?_⟩,
    fun k hk => ?_⟩
  · by_cases hne : id = row.id
    · exact Or.inr ⟨i, hne ▸ hwon⟩
    · rcases hs.inv.rows id with hsame | ⟨j, hj⟩
      · exact Or.inl ((hother hne).trans hsame)
      · exact Or.inr ⟨j, hkept hj⟩
  · rcases List.mem_append.mp hj with hj | hj
    · exact hkept (hs.inv.successes j id hj hid)
    · obtain ⟨rfl, -⟩ := Prod.mk.inj (List.mem_singleton.mp hj)
      obtain rfl := Option.some.inj (haccepts.symm.trans hid)
      exact hwon
  · intro d' id id' hd hd'
    rcases hdrives.mp hd with ⟨rfl, rfl⟩ | ⟨hne, hd⟩
    · rcases hdrives.mp hd' with ⟨rfl, -⟩ | ⟨hne', hd'⟩
      · rfl
      · exact absurd hd' (hP'.free _ hne')
    · rcases hdrives.mp hd' with ⟨rfl, rfl⟩ | ⟨-, hd'⟩
      · exact absurd hd (hP'.free _ hne)
      · exact hs.inv.sole d' id id' hd hd'
  · exact (hP.profiles s.db).trans hs.inv.profiles
  · exact (hP.vehicles s.db).trans hs.inv.vehicles
  · refine hother ?_
    rintro rfl
    exact hne hP'.holds
  · intro j r hji
    refine ⟨fun hmem => ?_, List.mem_append_left _⟩
    rcases List.mem_append.mp hmem with hmem | hmem
    · exact hmem
    · exact absurd (Prod.mk.inj (List.mem_singleton.mp hmem)).1 hji
  · cases k with
    | ride id =>
      refine (hother ?_).symm
      rintro rfl
      exact hk hP.heldRide
    | activeDriver d' =>
      have hne : d' ≠ d := by
        rintro rfl
        exact hk hP.heldDriver
      intro id
      have hrequested : ¬ s.db.Drives d' row.id := by
        rintro ⟨r, hr, hd⟩
        obtain rfl := Option.some.inj (hfound.symm.trans hr)
        unfold Ride.activeDriver at hd
        rw [hassigns.offered] at hd
        cases hd
      refine Iff.trans ⟨fun h => Or.inr ⟨?_, h⟩, fun h => (h.resolve_left fun h => hne h.2).2⟩ hdrives.symm
      rintro rfl
      exact hrequested h
    | _ => trivial

theorem accept_verified_of_wpOk {p : Action Unit} {sh : Shared σ.machine}
    (h : (acceptDiscipline claims db₀).wpOk i p (fun _ P => (acceptDiscipline claims db₀).Ends i (.ok ()) P)
      (Point.start sh)) : (acceptDiscipline claims db₀).Verified i p sh := by
  refine wp_mono (wpOk_iff.mp h) fun result P hP => ?_
  cases result with
  | ok a => exact hP a rfl
  | error e =>
    refine fun s hs => ⟨?_, ⟨fun id => ⟨fun _ => rfl, Or.inl rfl⟩, fun j r hji => ?_⟩, fun k _ => ?_⟩
    · exact hs.inv.congr rfl (fun j => ok_mem_log_append fun _ => nofun) fun _ _ hj => hj.holds
    · refine ⟨fun hmem => ?_, List.mem_append_left _⟩
      rcases List.mem_append.mp hmem with hmem | hmem
      · exact hmem
      · exact absurd (Prod.mk.inj (List.mem_singleton.mp hmem)).1 hji
    · exact (acceptDiscipline claims db₀).same_refl k _

theorem accept_verified {sh : Shared σ.machine} (haccepts : (σ.call i).acceptedRide = some rideId)
    (hlog : sh.log = []) : (acceptDiscipline claims db₀).Verified i ((σ.call i).action σ.env) sh := by
  have hop : (σ.call i).op = .accept rideId := by
    unfold RideCall.acceptedRide at haccepts
    split at haccepts
    · next hop => rw [hop, Option.some.inj haccepts]
    · cases haccepts
  have hstart : LooksOn i (Point.start sh) := by
    refine ⟨fun _ => rfl, fun r hr => ?_⟩
    change (i, r) ∈ sh.log at hr
    rw [hlog] at hr
    cases hr
  refine accept_verified_of_wpOk ?_
  unfold RideCall.action
  rw [hop]
  refine wpOk_bind (stays_requireBusinessDriver stage_looksOn _ _ hstart) fun _ P hP => ?_
  refine wpOk_bind (wp_accept hop hP) ?_
  rintro _ P ⟨row, ride, d, hrow, hassigns, hid, hdriver, hP⟩
  obtain rfl : row.id = rideId := Table.key_of_find? hrow
  exact wpOk_ret (ends_of_assigned haccepts hrow hid hassigns hdriver hP)

/-- Drivers accept at the same time: a ride goes to one of them, and none of them gets two rides. -/
theorem accepts_agree [DecidableEq Proc] {db : RideDb} {w : World} {c' : Config σ.machine}
    (claims : ClaimStore σ) (haccepts : ∀ i, ∃ id, (σ.call i).acceptedRide = some id) (hsole : db.SoleDrivers)
    (ms : List (Move σ.machine)) (hrun : (σ.initial db w).run ms = some c') :
    AcceptsAgree (σ.initial db w) c' := by
  have hinv : (acceptDiscipline claims db).inv (σ.initial db w).shared :=
    { rows := fun _ => Or.inl rfl
      successes := fun _ _ hj => by cases hj
      sole := hsole
      profiles := rfl
      vehicles := rfl }
  have hsound : (acceptDiscipline claims db).Sound (σ.initial db w) := by
    refine sound_initial hinv fun i => ?_
    obtain ⟨id, hid⟩ := haccepts i
    exact accept_verified hid rfl
  have hend : AcceptInv claims db c'.shared := (hsound.run hrun).inv
  refine ⟨fun i j id hi hj haccepts haccepts' => ?_, fun i id hi hid => ?_, fun id hid => ?_, hend.sole⟩
  · exact Option.some.inj ((hend.successes i id hi haccepts).holds.symm.trans (hend.successes j id hj haccepts').holds)
  · exact (hend.successes i id hi hid).row
  · rcases hend.rows id with hsame | ⟨j, hj⟩
    · exact hsame
    · exact absurd hj.accepts (hid j hj.logged)
/-- The driver 2 accepts the ride 50 twice; Redis is the table of claims. -/
def acceptedTwiceAtOnce : Scenario Bool (UUID → Option Bool) where
  env := Sample.env
  call i :=
    { op := .accept 50, actor := ⟨2, "driver"⟩, config := dispatchConfigFromSettings Sample.env.settings
      clock := { now := if i then 11 else 10 } }
  receives w i q :=
    match q with
    | .claim rideId _ => if w rideId = none then Function.update w rideId (some i) else w
    | .releaseClaim rideId => Function.update w rideId none
    | .clear rideId => Function.update w rideId none
    | _ => w
  answers w i q a :=
    match q with
    | .claim rideId _ => if a = .ok (.flag (decide (w rideId = some i))) then some w else none
    | q => if a = Sample.ask q then some w else none

/-- Its claims. -/
def acceptedTwiceAtOnceClaims : ClaimStore acceptedTwiceAtOnce where
  holder w := w
  receives w i q id := by
    cases q with
    | claim rideId userId =>
      by_cases hid : id = rideId
      · subst hid
        by_cases hfree : w id = none
        · refine .taken rfl hfree ?_
          change (if w id = none then Function.update w id (some i) else w) id = some i
          rw [if_pos hfree, Function.update_self]
        · refine .kept ?_
          change (if w id = none then Function.update w id (some i) else w) id = w id
          rw [if_neg hfree]
      · refine .kept ?_
        change (if w rideId = none then Function.update w rideId (some i) else w) id = w id
        split_ifs
        · exact Function.update_of_ne hid ..
        · rfl
    | releaseClaim rideId =>
      by_cases hid : id = rideId
      · exact .released (Or.inl (by rw [hid])) (by subst hid; exact Function.update_self ..)
      · exact .kept (Function.update_of_ne hid ..)
    | clear rideId =>
      by_cases hid : id = rideId
      · exact .released (Or.inr (by rw [hid])) (by subst hid; exact Function.update_self ..)
      · exact .kept (Function.update_of_ne hid ..)
    | _ => exact .kept rfl
  answers w i q a w' h rideId := by
    cases q with
    | claim _ _ => exact congrFun (Option.some.inj (Option.ite_none_right_eq_some.mp h).2).symm rideId
    | _ => exact congrFun (Option.some.inj (Option.ite_none_right_eq_some.mp h).2).symm rideId
  won w i rideId _ _ h := by
    have hflag := (Option.ite_none_right_eq_some.mp h).1
    exact of_decide_eq_true (Reply.flag.inj (Except.ok.inj hflag)).symm

/-- The ride 50 waits for a driver. -/
def offeredRide : RideDb :=
  { Sample.db with rides := .insert .empty { id := 50, passengerUserId := 1, requestedAt := some 0 } }

/-- Both requests get as far as the claim; then the second one fails and the first one goes on. -/
def acceptedTwiceAtOnceMoves : List (Move acceptedTwiceAtOnce.machine) :=
  ([false, true].flatMap fun i => [.go i, .go i, .go i, .reply i (.ok (.keyType .set)), .go i,
    .reply i (.ok (.users [2])), .go i, .go i, .go i]) ++ [.reply true (.ok (.flag false)), .go true,
    .reply false (.ok (.flag true)), .go false, .go false, .go false, .go false, .reply false (.ok .done), .go false,
    .reply false (.ok .done), .go false]

theorem accepts_agree_acceptedTwiceAtOnce :
    ∃ c', (acceptedTwiceAtOnce.initial offeredRide fun _ => none).run acceptedTwiceAtOnceMoves = some c' ∧
      (c'.shared.db.rides.find? 50).map Ride.driverId = some (some 20) ∧
      AcceptsAgree (acceptedTwiceAtOnce.initial offeredRide fun _ => none) c' := by
  have hsole : offeredRide.SoleDrivers := by
    rintro d id id' ⟨r, hr, hd⟩ -
    have hmem := Table.mem_of_find? hr
    rw [List.mem_singleton.mp hmem] at hd
    cases hd
  exact ⟨_, rfl, rfl, accepts_agree acceptedTwiceAtOnceClaims (fun _ => ⟨50, rfl⟩) hsole
    acceptedTwiceAtOnceMoves rfl⟩

end DiddiGo.Rides
