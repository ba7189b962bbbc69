import DiddiGo.Rides.Contracts
import DiddiGo.Rides.Proofs.ConcurrencyProofs
import DiddiGo.Rides.Proofs.RideRulesProofs

/-!
# Contracts are kept

Every request writes a ride object that has the terms it was read with, so a flush leaves the columns of
the terms alone, whatever was committed in between. Only a request for a new ride adds terms, and it holds
the lock on the quote from before its checks until it ends.
-/

namespace DiddiGo.Rides

open Data (Json Keyed Table)
open Transactions Prog RelyGuarantee

variable {Proc World : Type} {σ : Scenario Proc World} {db₀ : RideDb} {hfresh : FreshRides σ db₀} {i : Proc}
  {db db' db'' : RideDb} {ride loaded row : Ride} {t : RideTerms} {quote : RideQuote} {now : DateTime}
  {P : Point σ.machine} {J : Point σ.machine → Prop} {α : Type}

/-! ## Terms -/

@[simp] theorem id_terms (r : Ride) : r.terms.id = r.id := rfl

@[simp] theorem terms_toDomain (r : Ride) : r.toDomain.terms = r.terms := rfl

theorem terms_transition {r r' : Ride} {newStatus : RideStatus} {metadata : Option Json}
    (h : r.transition newStatus now metadata = some r') : r'.terms = r.terms := by
  rcases Ride.transition_cases h with ⟨-, rfl⟩ | ⟨-, -, rfl⟩
  · rfl
  · rfl

theorem terms_applyAnalysis (env : Env) (a : RouteTraceAnalysis) (r : Ride) :
    (r.applyAnalysis env a).1.terms = r.terms := by
  unfold Ride.applyAnalysis
  dsimp only
  split_ifs
  · rfl
  · split
    · rfl
    · rfl

theorem column_of_eq {β : Type} [DecidableEq β] {loaded new : β} (current : β) (h : loaded = new) :
    column loaded new current = current := if_pos h.symm

/-- An object with the terms it was loaded with leaves the terms of the row alone. -/
theorem terms_flush (h : loaded.terms = ride.terms) : (Ride.flush loaded ride row).terms = row.terms := by
  have hcolumns := RideTerms.mk.inj h
  obtain ⟨-, h₁, h₂, h₃, h₄, h₅, h₆, h₇, h₈, h₉, h₁₀, h₁₁, h₁₂, h₁₃, h₁₄, h₁₅, h₁₆, h₁₇, h₁₈, h₁₉, h₂₀, h₂₁,
    h₂₂⟩ := hcolumns
  unfold Ride.flush Ride.terms
  simp only [← h₅, ← h₇, Option.or_self, column_of_eq _ h₁, column_of_eq _ h₂, column_of_eq _ h₃,
    column_of_eq _ h₄, column_of_eq _ h₆, column_of_eq _ h₈, column_of_eq _ h₉, column_of_eq _ h₁₀,
    column_of_eq _ h₁₁, column_of_eq _ h₁₂, column_of_eq _ h₁₃, column_of_eq _ h₁₄, column_of_eq _ h₁₅,
    column_of_eq _ h₁₆, column_of_eq _ h₁₇, column_of_eq _ h₁₈, column_of_eq _ h₁₉, column_of_eq _ h₂₀,
    column_of_eq _ h₂₁, column_of_eq _ h₂₂, column_of_eq _ (rfl : loaded.pickupLocation = _),
    column_of_eq _ (rfl : loaded.dropoffLocation = _)]

theorem terms?_eq_some {id : UUID} :
    db.terms? id = some t ↔ ∃ row, db.rides.find? id = some row ∧ row.terms = t := Option.map_eq_some_iff

theorem id_of_terms? {id : UUID} (h : db.terms? id = some t) : t.id = id := by
  obtain ⟨row, hrow, rfl⟩ := terms?_eq_some.mp h
  exact Table.key_of_find? hrow

namespace SameTerms

theorem refl (db : RideDb) : SameTerms db db := ⟨fun _ => rfl, fun _ => rfl⟩

theorem trans (h : SameTerms db db') (h' : SameTerms db' db'') : SameTerms db db'' :=
  ⟨fun id => (h'.terms id).trans (h.terms id), fun q => (h'.quotes q).trans (h.quotes q)⟩

theorem kept (h : SameTerms db db') : TermsKept db db' :=
  ⟨fun id _ ht => (h.terms id).trans ht, fun q => Or.inl (h.quotes q)⟩

/-- Rides and quotes are not written. -/
theorem of_eq (hrides : db'.rides = db.rides) (hquotes : db'.quotes = db.quotes) : SameTerms db db' :=
  ⟨fun id => by unfold RideDb.terms?; rw [hrides], fun q => by rw [hquotes]⟩

theorem honoured (h : SameTerms db db') (hdb : db.Honoured) : db'.Honoured where
  ofRide id t q ht hq := by
    rw [h.terms] at ht
    rw [h.quotes]
    exact hdb.ofRide id t q ht hq
  ofQuote q quote id hquote hid := by
    rw [h.quotes] at hquote
    rw [h.terms]
    exact hdb.ofQuote q quote id hquote hid
  consumed q quote hquote := by
    rw [h.quotes] at hquote
    exact hdb.consumed q quote hquote

end SameTerms

theorem KeepsTerms.comp {f g : RideDb → RideDb} (hf : KeepsTerms f) (hg : KeepsTerms g) :
    KeepsTerms (f ∘ g) := fun db => (hg db).trans (hf (g db))

theorem keepsTerms_of_eq {f : RideDb → RideDb} (hrides : ∀ db, (f db).rides = db.rides)
    (hquotes : ∀ db, (f db).quotes = db.quotes) : KeepsTerms f := fun db => .of_eq (hrides db) (hquotes db)

theorem keepsTerms_flushRide (h : loaded.terms = ride.terms) : KeepsTerms fun db => db.flushRide loaded ride :=
  fun db => {
    terms := fun id => by
      have hfind : (db.flushRide loaded ride).rides.find? id = if id = ride.id then
          (db.rides.find? id).map fun row => Ride.flush loaded ride row else db.rides.find? id :=
        Table.find?_update db.rides ride.id (fun row => Ride.flush loaded ride row) (fun _ => rfl) id
      unfold RideDb.terms?
      rw [hfind]
      split_ifs
      · cases db.rides.find? id with
        | none => rfl
        | some row => exact congrArg some (terms_flush h)
      · rfl
    quotes := fun _ => rfl }

/-! ## A new ride -/

theorem terms?_createRide {q : UUID} (hnone : db.terms? ride.id = none) (id : UUID) :
    (db.createRide ride q now).terms? id = if id = ride.id then some ride.terms else db.terms? id := by
  have hfind : db.rides.find? ride.id = none := Option.map_eq_none_iff.mp hnone
  change ((db.rides.insert ride.toDomain).find? id).map Ride.terms = _
  by_cases hid : id = ride.id
  · have hself : (db.rides.insert ride.toDomain).find? ride.id = some ride.toDomain :=
      Table.find?_insert_self hfind
    rw [if_pos hid, hid, hself]
    rfl
  · have hne : Keyed.key ride.toDomain ≠ id := fun h => hid h.symm
    rw [if_neg hid, Table.find?_insert_of_ne _ hne]
    rfl

theorem find?_quotes_createRide {q : UUID} (q' : UUID) :
    (db.createRide ride q now).quotes.find? q' =
      if q' = q then (db.quotes.find? q').map fun quote => quote.use ride.id now else db.quotes.find? q' :=
  Table.find?_update db.quotes q (fun quote => quote.use ride.id now) (fun _ => rfl) q'
/-! ## Stages -/

theorem interferes_of_db {s : Shared σ.machine} (hinv : (contractDiscipline σ db₀ hfresh).inv s)
    (hdb : s.db = P.shared.db) : (contractDiscipline σ db₀ hfresh).Interferes i P s where
  same k _ := by
    rw [hdb]
    exact (contractDiscipline σ db₀ hfresh).same_refl k _
  rely := by
    change TermsKept P.shared.db s.db ∧ _
    rw [hdb]
    exact ⟨.refl _, fun _ _ h => h⟩
  inv := hinv

/-- A step that keeps all terms and ends no request for a ride may be taken. -/
theorem permits_of_sameTerms {held : Row → Prop} {s s' : Shared σ.machine}
    (hinv : (contractDiscipline σ db₀ hfresh).inv s) (hdb : SameTerms s.db s'.db)
    (hlog : ∀ j id, (σ.call j).newRide = some id → ((j, Except.ok ()) ∈ s'.log ↔ (j, Except.ok ()) ∈ s.log)) :
    (contractDiscipline σ db₀ hfresh).Permits i held s s' where
  inv := by
    obtain ⟨hhonoured, haccounted, hall, hkept⟩ := hinv
    refine ⟨hdb.honoured hhonoured, fun id t ht => ?_, fun j id hid => ?_, hkept.trans hdb.kept⟩
    · rw [hdb.terms] at ht
      exact haccounted id t ht
    · rw [hdb.terms, hlog j id hid]
      exact hall j id hid
  guar := ⟨hdb.kept, fun id hnone => Or.inl ((hdb.terms id).trans hnone)⟩
  frame k _ := by
    cases k with
    | quote q => exact (hdb.quotes q).symm
    | _ => trivial

theorem permits_of_unwritten {held : Row → Prop} {s s' : Shared σ.machine}
    (hinv : (contractDiscipline σ db₀ hfresh).inv s) (hdb : s'.db = s.db) (hlog : s'.log = s.log) :
    (contractDiscipline σ db₀ hfresh).Permits i held s s' :=
  permits_of_sameTerms hinv (.of_eq (by rw [hdb]) (by rw [hdb])) fun _ _ _ => by rw [hlog]

theorem stage_atRest : (contractDiscipline σ db₀ hfresh).Stage i KeepsTerms AtRest where
  interfere hP _ := hP
  hold hP _ := hP
  write hP hf := hf.comp hP

theorem follows_sawTerms : FollowsTerms hfresh i t (SawTerms (σ := σ) t) where
  stage :=
    { interfere := fun hP hs => ⟨hP.rest, hs.rely.1.terms _ _ hP.row⟩
      hold := fun hP _ => ⟨hP.rest, hP.row⟩
      write := fun hP hf => ⟨hf.comp hP.rest, hP.row⟩ }
  row P hP := ((hP.rest P.shared.db).terms t.id).trans hP.row

theorem HasQuote.interfere {id : UUID} {s : Shared σ.machine} (hid : (σ.call i).newRide = some id)
    (hP : HasQuote quote id P) (hs : (contractDiscipline σ db₀ hfresh).Interferes i P s) :
    HasQuote quote id (P.withShared s) where
  held := hP.held
  found := (hs.same (.quote quote.id) hP.held).symm.trans hP.found
  unused := hP.unused
  absent := hs.rely.2 id hid hP.absent

theorem HasQuote.hold {id : UUID} {held : Row → Prop} {pending : RideDb → RideDb} (hP : HasQuote quote id P)
    (h : ∀ k, P.held k → held k) : HasQuote quote id { shared := P.shared, held := held, pending := pending } :=
  { hP with held := h _ hP.held }

theorem follows_hasAgreed (hid : (σ.call i).newRide = some ride.id) :
    FollowsTerms hfresh i ride.terms (HasAgreed quote ride now) where
  stage :=
    { interfere := fun hP hs => ⟨hP.toHasQuote.interfere hid hs, hP.created⟩
      hold := fun hP h => ⟨hP.toHasQuote.hold h, hP.created⟩
      write := fun hP hf => ⟨hP.toHasQuote.hold fun _ h => h, fun db hnone =>
        (hP.created db hnone).trans (hf (_ : RideDb))⟩ }
  row P hP := by
    have hterms := (hP.created P.shared.db hP.absent).terms ride.id
    rw [terms?_createRide hP.absent, if_pos rfl] at hterms
    exact hterms

/-! ## Statements -/

section

variable (hJ : (contractDiscipline σ db₀ hfresh).Stage i KeepsTerms J)

include hJ

/-- What is only noted, sent or received leaves the stage alone. -/
theorem stage_recorded {s s' : Shared σ.machine} (hP : J P)
    (hs : (contractDiscipline σ db₀ hfresh).Interferes i P s) (hdb : s'.db = s.db) (hlog : s'.log = s.log) :
    J (P.withShared s') :=
  have hP' : J (P.withShared s) := hJ.interfere hP hs
  have hstep : (contractDiscipline σ db₀ hfresh).Permits i P.held s s' := permits_of_unwritten hs.inv hdb hlog
  have hs' : (contractDiscipline σ db₀ hfresh).Interferes i (P.withShared s) s' :=
    interferes_of_db hstep.inv hdb
  show J ((P.withShared s).withShared s') from hJ.interfere hP' hs'

theorem stays_ask (q : Query) : (contractDiscipline σ db₀ hfresh).Stays i J (Prog.ask q) := by
  refine fun P hP => wpOk_ask fun s hs => ⟨permits_of_unwritten hs.inv rfl rfl, fun s' hs' a w _ => ⟨?_, ?_⟩⟩
  · exact permits_of_unwritten hs'.inv rfl rfl
  · exact stage_recorded hJ (stage_recorded hJ hP hs rfl rfl) hs' rfl rfl

theorem stays_askFor (read : Reply → Option α) (q : Query) :
    (contractDiscipline σ db₀ hfresh).Stays i J (askFor read q) := by
  refine (stays_ask hJ q).bind fun answer => ?_
  cases answer with
  | error e => exact .raise _
  | ok reply =>
    dsimp only
    cases read reply with
    | some a => exact .ret _
    | none => exact .raise _

theorem stays_tell (q : Query) : (contractDiscipline σ db₀ hfresh).Stays i J (tell q) := stays_askFor hJ _ q

theorem stays_askMap (read : Reply → Option α) (q : Query) :
    (contractDiscipline σ db₀ hfresh).Stays i J (askMap read q) := by
  refine (stays_ask hJ q).bind fun answer => ?_
  cases answer with
  | error e => cases e <;> first | exact .ret _ | exact .raise _
  | ok reply =>
    dsimp only
    cases read reply with
    | some a => exact .ret _
    | none => exact .raise _

theorem stays_selectAs (l : Label) (f : RideDb → α) :
    (contractDiscipline σ db₀ hfresh).Stays i J (Prog.selectAs l f) :=
  fun _ hP => wpOk_selectAs fun _ hs => ⟨permits_of_unwritten hs.inv rfl rfl, stage_recorded hJ hP hs rfl rfl⟩

theorem stays_mark (l : Label) : (contractDiscipline σ db₀ hfresh).Stays i J (Prog.mark l) :=
  stays_selectAs hJ l fun _ => ()

theorem stays_recordStatusTransition (x : RideStatusTransition) :
    (contractDiscipline σ db₀ hfresh).Stays i J (recordStatusTransition x) :=
  .update hJ (keepsTerms_of_eq (fun _ => rfl) fun _ => rfl)

theorem stays_recordStatusTransitions (xs : List RideStatusTransition) :
    (contractDiscipline σ db₀ hfresh).Stays i J (recordStatusTransitions xs) := by
  induction xs with
  | nil => exact .ret _
  | cons x xs ih => exact (stays_recordStatusTransition hJ x).bind fun _ => ih

theorem stays_recordLastTransition (ride : Ride) :
    (contractDiscipline σ db₀ hfresh).Stays i J (recordLastTransition ride) := by
  unfold recordLastTransition
  cases ride.statusHistory.getLast? with
  | some x => exact stays_recordStatusTransition hJ x
  | none => exact .raise _

theorem stays_recordRideOutcome (cfg : DispatchConfig) (ride : Ride) :
    (contractDiscipline σ db₀ hfresh).Stays i J (recordRideOutcome cfg ride) := by
  unfold recordRideOutcome
  split
  · exact .update hJ (keepsTerms_of_eq (fun _ => rfl) fun _ => rfl)
  · exact .ret _

end

/-- A ride object with the terms of its row is written. -/
theorem stays_save (hJ : FollowsTerms hfresh i t J) (hride : ride.terms = t) (read : Ride) :
    (contractDiscipline σ db₀ hfresh).Stays i J (save read ride) := by
  subst hride
  refine (Yields.bind_stays (I := fun o : Option Ride => o.map Ride.terms = some ride.terms)
    (fun P hP => wpOk_selectAs fun s hs => ⟨permits_of_unwritten hs.inv rfl rfl, ?_, ?_⟩) fun o ho => ?_)
  · exact hJ.row (P.withShared s) (hJ.stage.interfere hP hs)
  · exact stage_recorded hJ.stage hP hs rfl rfl
  obtain ⟨loaded, rfl, hloaded⟩ := Option.map_eq_some_iff.mp ho
  refine fun P hP => wpOk_iff.mpr fun s hs => ⟨fun _ _ => permits_of_unwritten hs.inv rfl rfl, ?_⟩
  dsimp only
  split_ifs with hconflict
  · exact nofun
  rintro _ -
  have hnoted : J (P.withShared (s.note i (some (.save read)) (P.withShared s).view)) :=
    stage_recorded hJ.stage hP hs rfl rfl
  exact hJ.stage.write (hJ.stage.hold hnoted fun _ => Or.inr) (keepsTerms_flushRide hloaded)
/-! ## Parts of requests -/

section

variable (hJ : (contractDiscipline σ db₀ hfresh).Stage i KeepsTerms J)

include hJ

theorem stays_currentOffers (rideId : UUID) (nth : Nat) :
    (contractDiscipline σ db₀ hfresh).Stays i J (currentOffers rideId nth) := by
  refine (stays_askFor hJ _ _).bind fun type => ?_
  cases type with
  | none => exact .ret _
  | string => exact stays_askFor hJ _ _
  | set => exact stays_askFor hJ _ _

theorem stays_declineOffer (rideId driverUserId : UUID) :
    (contractDiscipline σ db₀ hfresh).Stays i J (declineOffer rideId driverUserId) := by
  refine (stays_askFor hJ _ _).bind fun type => ?_
  cases type with
  | none => exact .ret _
  | string => exact (stays_tell hJ _).bind fun _ => .ret _
  | set =>
    refine (stays_tell hJ _).bind fun _ => (stays_askFor hJ _ _).bind fun remaining => ?_
    dsimp only
    split_ifs
    · exact (stays_tell hJ _).bind fun _ => .ret _
    · exact .ret _

theorem stays_searchDrivers (location : GeoPoint) (radiusKm : ℚ) (limit : Nat) (requireAvailable : Bool) :
    (contractDiscipline σ db₀ hfresh).Stays i J (searchDrivers location radiusKm limit requireAvailable) := by
  refine (stays_askFor hJ _ _).bind fun members => ?_
  by_cases hmembers : members = []
  · rw [if_pos hmembers]
    exact .ret _
  · rw [if_neg hmembers]
    exact (stays_askFor hJ _ _).bind fun _ => .ret _

theorem stays_canTakeRide (env : Env) (userId : UUID) (ride : Ride) :
    (contractDiscipline σ db₀ hfresh).Stays i J (canTakeRide env userId ride) := by
  refine (Stays.select hJ _).bind fun o => ?_
  cases o with
  | none => exact .ret _
  | some profile =>
    dsimp only
    split_ifs
    · exact .ret _
    · exact .ret _
    refine (Stays.select hJ _).bind fun o => ?_
    cases o with
    | none => exact .ret _
    | some vehicle =>
      refine (stays_askFor hJ _ _).bind fun blocked => ?_
      by_cases hblocked : blocked = true
      · rw [if_pos hblocked]
        exact .ret _
      rw [if_neg hblocked]
      refine (stays_askFor hJ _ _).bind fun balance => ?_
      split_ifs
      · exact .ret _
      · exact .ret _
      · exact .ret _

theorem stays_eligibleDrivers (env : Env) (ride : Ride) (tried : List UUID) (size : Nat) (nearby : List UUID)
    (eligible : List UUID) :
    (contractDiscipline σ db₀ hfresh).Stays i J (eligibleDrivers env ride tried size nearby eligible) := by
  induction nearby generalizing eligible with
  | nil => exact .ret _
  | cons userId nearby ih =>
    unfold eligibleDrivers
    by_cases htried : userId ∈ tried
    · rw [if_pos htried]
      exact ih eligible
    rw [if_neg htried]
    refine (stays_canTakeRide hJ env userId ride).bind fun can => ?_
    split_ifs
    · exact .ret _
    · exact ih _
    · exact ih _

theorem stays_driverEtas (pickup : GeoPoint) (positions : List (UUID × GeoPoint)) (userIds : List UUID) :
    (contractDiscipline σ db₀ hfresh).Stays i J (driverEtas pickup positions userIds) := by
  induction userIds with
  | nil => exact .ret _
  | cons userId rest ih =>
    refine Stays.bind ?_ fun eta => ih.bind fun etas => .ret _
    unfold driverEta
    cases positions.lookup userId with
    | none => exact .ret _
    | some origin =>
      refine (stays_ask hJ _).bind fun answer => ?_
      split
      · exact .ret _
      · exact .ret _

theorem stays_priorityBonuses (m : Matching) (userIds : List UUID) (now : DateTime) :
    (contractDiscipline σ db₀ hfresh).Stays i J (priorityBonuses m userIds now) := by
  unfold priorityBonuses
  split_ifs
  · exact .ret _
  refine (Stays.select hJ _).bind fun profileIds => (stays_ask hJ _).bind fun answer => ?_
  split
  · exact .ret _
  · exact .ret _

theorem stays_rankByEta (env : Env) (m : Matching) (ride : Ride) (eligible : List UUID) (now : DateTime) :
    (contractDiscipline σ db₀ hfresh).Stays i J (rankByEta env m ride eligible now) := by
  unfold rankByEta
  cases ride.pickupLocation with
  | none => exact .ret _
  | some pickup =>
    dsimp only
    split_ifs
    · exact .ret _
    refine (stays_ask hJ _).bind fun answer => ?_
    split
    · refine (stays_driverEtas hJ pickup _ eligible).bind fun etas => ?_
      split_ifs
      · exact .ret _
      · exact (stays_priorityBonuses hJ m _ now).bind fun _ => .ret _
    · exact .ret _

theorem stays_nextCandidates (env : Env) (m : Matching) (ride : Ride) (clock : Clock) :
    (contractDiscipline σ db₀ hfresh).Stays i J (nextCandidates env m ride clock) := by
  unfold nextCandidates
  cases ride.pickupLocation with
  | none => exact .ret _
  | some pickup =>
    refine (stays_askFor hJ _ _).bind fun tried => (stays_searchDrivers hJ _ _ _ _).bind fun nearby => ?_
    split_ifs
    · exact .ret _
    · exact (stays_eligibleDrivers hJ _ _ _ _ _ _).bind fun eligible => (stays_rankByEta hJ _ _ _ _ _).bind fun _ => .ret _

theorem stays_releaseDriver (ride : Ride) :
    (contractDiscipline σ db₀ hfresh).Stays i J (releaseDriver ride) := by
  refine (stays_tell hJ _).bind fun _ => ?_
  cases ride.driverId with
  | none => exact .ret _
  | some driverId =>
    refine (Stays.select hJ _).bind fun o => ?_
    cases o with
    | none => exact .ret _
    | some profile => exact stays_tell hJ _

theorem stays_releaseDriverOf (rideId : UUID) :
    (contractDiscipline σ db₀ hfresh).Stays i J (releaseDriverOf rideId) :=
  (stays_loadRide hJ rideId).bind fun ride => stays_releaseDriver hJ ride

theorem stays_analyzeTrace (traceId : String) (points : List RideRoutePoint) (finishedAt : DateTime) :
    (contractDiscipline σ db₀ hfresh).Stays i J (analyzeTrace traceId points finishedAt) := by
  refine (stays_askMap hJ _ _).bind fun answer => ?_
  cases answer with
  | error e => exact .ret _
  | ok u =>
    refine (stays_askMap hJ _ _).bind fun answer => ?_
    cases answer with
    | error e => exact .ret _
    | ok u => exact stays_askMap hJ _ _

end

section

variable (hJ : FollowsTerms hfresh i t J)

include hJ

omit hJ in
theorem yields_transitionOrRaise {ride : Ride} (hride : ride.terms = t) (newStatus : RideStatus)
    (metadata : Option Json := none) : (contractDiscipline σ db₀ hfresh).Yields i J (fun r => r.terms = t)
      (transitionOrRaise ride newStatus now metadata) := by
  unfold transitionOrRaise
  cases ht : ride.transition newStatus now metadata with
  | none => exact .raise _
  | some r => exact .ret ((terms_transition ht).trans hride)

theorem yields_loadRide {rideId : UUID} (hid : t.id = rideId) :
    (contractDiscipline σ db₀ hfresh).Yields i J (fun r => r.terms = t) (loadRide rideId) := by
  subst hid
  refine Yields.bind (I := fun o => ∀ r, o = some r → r.terms = t) (fun P hP => wpOk_select fun s hs =>
    ⟨fun r hr => ?_, hJ.stage.interfere hP hs⟩) fun o ho => ?_
  · obtain ⟨row, hrow, rfl⟩ := Option.map_eq_some_iff.mp hr
    obtain ⟨row', hrow', hterms⟩ := terms?_eq_some.mp (hJ.row _ (hJ.stage.interfere hP hs))
    obtain rfl := Option.some.inj (hrow.symm.trans hrow')
    exact hterms
  · cases o with
    | some r => exact .ret (ho r rfl)
    | none => exact .raise _

theorem stays_giveUp {ride : Ride} (hride : ride.terms = t) (now : DateTime) :
    (contractDiscipline σ db₀ hfresh).Stays i J (giveUp ride now) :=
  (yields_transitionOrRaise hride _).bind_stays fun _ hlost => (stays_save hJ hlost _).bind fun _ =>
    (stays_recordStatusTransitions hJ.stage _).bind fun _ => (stays_tell hJ.stage _).bind fun _ => .ret _

theorem stays_tryMatch {ride : Ride} (hride : ride.terms = t) (env : Env) (m : Matching) (clock : Clock) :
    (contractDiscipline σ db₀ hfresh).Stays i J (tryMatch env m ride clock) := by
  unfold tryMatch
  split_ifs
  · exact .ret _
  · exact stays_giveUp hJ hride _
  · exact stays_giveUp hJ hride _
  refine (stays_currentOffers hJ.stage _ _).bind fun outstanding => ?_
  split_ifs
  · exact .ret _
  refine (stays_nextCandidates hJ.stage env m ride clock).bind fun candidates => ?_
  split_ifs
  · exact stays_giveUp hJ hride _
  · exact (stays_tell hJ.stage _).bind fun _ => .ret _

theorem yields_finishWaiting {ride : Ride} (hride : ride.terms = t) (env : Env) (reason : String)
    (now : DateTime) : (contractDiscipline σ db₀ hfresh).Yields i J (fun r => r.terms = t)
      (finishWaiting env ride reason now) := by
  unfold finishWaiting
  split
  · exact (yields_transitionOrRaise (by exact hride) _ _).bind fun resumed hresumed =>
      .after (stays_save hJ hresumed _) fun _ => .ret hresumed
  · exact .raise _

theorem stays_stopWaiting {rideId : UUID} (hid : t.id = rideId) (env : Env) (actor : Actor) (reason : String)
    (now : DateTime) : (contractDiscipline σ db₀ hfresh).Stays i J (stopWaiting env rideId actor reason now) :=
  (yields_loadRide hJ hid).bind_stays fun ride hride => (stays_checkDriver hJ.stage ride actor _).bind fun _ =>
    (yields_finishWaiting hJ hride env reason now).stays

theorem yields_closeWait {ride : Ride} (hride : ride.terms = t) (env : Env) (actor : Actor) (reason : String)
    (now : DateTime) : (contractDiscipline σ db₀ hfresh).Yields i J (fun r => r.terms = t)
      (closeWait env ride actor reason now) := by
  have hid : t.id = ride.id := by rw [← hride]; rfl
  unfold closeWait
  split_ifs
  · exact .after (stays_stopWaiting hJ hid env actor reason now) fun _ => yields_loadRide hJ hid
  · exact .ret hride

theorem yields_ensureMapTraceStarted {ride : Ride} (hride : ride.terms = t) :
    (contractDiscipline σ db₀ hfresh).Yields i J (fun answer => ∀ r, answer = .ok r → r.terms = t)
      (ensureMapTraceStarted ride) := by
  unfold ensureMapTraceStarted
  split_ifs
  · refine .ret fun r hr => ?_
    rw [← Except.ok.inj hr]
    exact hride
  split
  · refine .after (stays_askMap hJ.stage _ _) fun answer => ?_
    cases answer with
    | error e => exact .ret fun _ hr => by cases hr
    | ok traceId =>
      refine .ret fun r hr => ?_
      rw [← Except.ok.inj hr]
      exact hride
  · exact .ret fun _ hr => by cases hr

theorem yields_applyActualPricingIfPossible {ride : Ride} (hride : ride.terms = t) (env : Env)
    (finishedAt : DateTime) : (contractDiscipline σ db₀ hfresh).Yields i J (fun result => result.1.terms = t)
      (applyActualPricingIfPossible env ride finishedAt) := by
  refine .after (Stays.select hJ.stage _) fun points => ?_
  split_ifs
  · exact .ret (by exact hride)
  refine (yields_ensureMapTraceStarted hJ hride).bind fun answer hanswer => ?_
  cases answer with
  | error e => exact .ret hride
  | ok traced =>
    have htraced := hanswer traced rfl
    dsimp only
    cases traced.mapTraceId with
    | none => exact .ret htraced
    | some traceId =>
      refine .after (stays_analyzeTrace hJ.stage traceId points finishedAt) fun answer => ?_
      cases answer with
      | error e => exact .ret htraced
      | ok a => exact .ret ((terms_applyAnalysis env a traced).trans htraced)

end

/-! ## Requests about a ride -/

theorem wp_loadRide_atRest {rideId : UUID} (hP : AtRest P) :
    (contractDiscipline σ db₀ hfresh).wpOk i (loadRide rideId) (fun ride => SawTerms ride.terms) P := by
  refine wpOk_bind (Q := fun o P' => ∀ ride, o = some ride → SawTerms ride.terms P') (wpOk_select fun s hs => ?_) ?_
  · intro ride hride
    obtain ⟨row, hrow, rfl⟩ := Option.map_eq_some_iff.mp hride
    obtain rfl : row.id = rideId := Table.key_of_find? hrow
    exact ⟨hP, ((hP s.db).terms row.id).symm.trans (terms?_eq_some.mpr ⟨row, hrow, rfl⟩)⟩
  · intro o P hP
    cases o with
    | some ride => exact wpOk_ret (hP ride rfl)
    | none => exact wpOk_raise

/-- A request that loads a ride and writes it with its terms. -/
theorem stays_of_loadRide {rideId : UUID} {f : Ride → Action α}
    (hf : ∀ ride, (contractDiscipline σ db₀ hfresh).Stays i (SawTerms ride.terms) (f ride)) :
    (contractDiscipline σ db₀ hfresh).Stays i AtRest (loadRide rideId >>= f) :=
  fun _ hP => wpOk_bind (wp_loadRide_atRest hP) fun ride P hP =>
    wpOk_mono (hf ride P hP) fun _ _ h => h.rest

theorem terms_completeIf (r : Ride) (newStatus : RideStatus) : (r.completeIf newStatus).terms = r.terms := by
  unfold Ride.completeIf
  split_ifs
  · rfl
  · rfl

theorem stays_updateStatus (env : Env) (cfg : DispatchConfig) (rideId : UUID) (newStatus : RideStatus)
    (actor : Actor) (clock : Clock) :
    (contractDiscipline σ db₀ hfresh).Stays i AtRest (updateStatus env cfg rideId newStatus actor clock) := by
  refine stays_of_loadRide fun ride => ?_
  have hJ : FollowsTerms hfresh i ride.terms (SawTerms ride.terms) := follows_sawTerms
  refine (stays_checkDriver hJ.stage ride actor _).bind fun _ => ?_
  by_cases hdone : ride.status = .completed ∧ newStatus = .completed
  · rw [if_pos hdone]
    exact .ret _
  rw [if_neg hdone]
  refine (Stays.raiseIf _ _).bind fun _ => (Stays.raiseIf _ _).bind fun _ => ?_
  refine Yields.bind_stays (I := fun r => r.terms = ride.terms) ?_ fun closed hclosed => ?_
  · unfold closeWaitIf
    split_ifs
    · exact yields_closeWait hJ rfl env actor _ _
    · exact .ret rfl
  refine Yields.bind_stays (I := fun r => r.terms = ride.terms) ?_ fun priced hpriced => ?_
  · unfold priceIf
    split_ifs
    · refine (yields_applyActualPricingIfPossible hJ hclosed env _).bind fun result hresult => ?_
      obtain ⟨r, e⟩ := result
      cases e with
      | none => exact .ret hresult
      | some e => exact .ret hresult
    · exact .ret hclosed
  cases htransition : priced.transition newStatus clock.doneAt with
  | none => exact .raise _
  | some moved =>
    have hmoved : (moved.completeIf newStatus).terms = ride.terms :=
      (terms_completeIf moved newStatus).trans ((terms_transition htransition).trans hpriced)
    exact (stays_save hJ hmoved _).bind fun _ => (stays_recordStatusTransitions hJ.stage _).bind fun _ =>
      (stays_recordRideOutcome hJ.stage cfg moved).bind fun _ => .ret _

theorem stays_requestEarlyStop (env : Env) (rideId passengerUserId : UUID) (clock : Clock) :
    (contractDiscipline σ db₀ hfresh).Stays i AtRest (requestEarlyStop env rideId passengerUserId clock) := by
  refine stays_of_loadRide fun ride => ?_
  have hJ : FollowsTerms hfresh i ride.terms (SawTerms ride.terms) := follows_sawTerms
  refine (Stays.raiseIf _ _).bind fun _ => (Stays.raiseIf _ _).bind fun _ =>
    (stays_save hJ (by rfl) _).bind fun _ => ?_
  exact Stays.bind ((Stays.select hJ.stage _).bind fun _ => .ret _) fun _ => .ret _

theorem stays_confirmEarlyStop (env : Env) (cfg : DispatchConfig) (rideId : UUID) (actor : Actor)
    (clock : Clock) :
    (contractDiscipline σ db₀ hfresh).Stays i AtRest (confirmEarlyStop env cfg rideId actor clock) := by
  refine stays_of_loadRide fun ride => ?_
  have hJ : FollowsTerms hfresh i ride.terms (SawTerms ride.terms) := follows_sawTerms
  refine (stays_checkDriver hJ.stage ride actor _).bind fun _ => (Stays.raiseIf _ _).bind fun _ => ?_
  refine Stays.bind ?_ fun _ => ?_
  · unfold checkEarlyStopRequest
    split
    · exact .raiseIf _ _
    · exact .raise _
  refine (yields_closeWait hJ rfl env actor _ _).bind_stays fun closed hclosed => ?_
  refine (yields_applyActualPricingIfPossible hJ hclosed env _).bind_stays fun result hresult => ?_
  obtain ⟨priced, e⟩ := result
  have hpriced : priced.terms = ride.terms := hresult
  cases e with
  | some e => exact .raise _
  | none =>
    dsimp only
    split
    · refine (yields_transitionOrRaise (by exact hpriced) _ _).bind_stays fun stopped hstopped => ?_
      exact (stays_save hJ hstopped _).bind fun _ => (stays_recordStatusTransitions hJ.stage _).bind fun _ =>
        (stays_recordRideOutcome hJ.stage cfg stopped).bind fun _ => .ret _
    · exact .raise _

theorem stays_markArrived (env : Env) (rideId : UUID) (actor : Actor) (position : Option GeoPoint)
    (clock : Clock) :
    (contractDiscipline σ db₀ hfresh).Stays i AtRest (markArrived env rideId actor position clock) := by
  refine stays_of_loadRide fun ride => ?_
  have hJ : FollowsTerms hfresh i ride.terms (SawTerms ride.terms) := follows_sawTerms
  refine (stays_checkDriver hJ.stage ride actor _).bind fun _ => ?_
  split_ifs
  · exact .ret _
  refine (Stays.raiseIf _ _).bind fun _ => ?_
  split
  · refine (Stays.raiseIf _ _).bind fun _ => ?_
    refine (yields_transitionOrRaise (t := ride.terms) (by rfl) _ _).bind_stays fun arrived harrived => ?_
    exact (stays_save hJ harrived _).bind fun _ => (stays_recordLastTransition hJ.stage arrived).bind fun _ =>
      .ret _
  · exact .raise _

/-- A wrong code is counted and committed. -/
theorem stays_rejectCode {ride : Ride} (s : Settings) (now : DateTime) :
    (contractDiscipline σ db₀ hfresh).Stays i (SawTerms ride.terms) (rejectCode (α := α) s ride now) := by
  have hJ : FollowsTerms hfresh i ride.terms (SawTerms ride.terms) := follows_sawTerms
  refine (stays_mark hJ.stage _).bind fun _ => (stays_save hJ (by rfl) _).bind fun _ => fun P hP => ?_
  refine wpOk_bind (Q := fun _ _ => True)
    (wpOk_commitNow fun s hs => ⟨permits_of_sameTerms hs.inv (hP.rest s.db) fun _ _ _ => Iff.rfl, trivial⟩) fun _ P _ => ?_
  dsimp only
  split_ifs
  · exact wpOk_raise
  · exact wpOk_raise

theorem stays_startRideWithCode (env : Env) (rideId : UUID) (actor : Actor) (code : String) (clock : Clock) :
    (contractDiscipline σ db₀ hfresh).Stays i AtRest (startRideWithCode env rideId actor code clock) := by
  refine stays_of_loadRide fun ride => ?_
  have hJ : FollowsTerms hfresh i ride.terms (SawTerms ride.terms) := follows_sawTerms
  refine (stays_checkDriver hJ.stage ride actor _).bind fun _ => (Stays.raiseIf _ _).bind fun _ =>
    (Stays.raiseIf _ _).bind fun _ => (Stays.raiseIf _ _).bind fun _ => ?_
  split_ifs
  · exact stays_rejectCode _ _
  refine (yields_transitionOrRaise (t := ride.terms) (by rfl) _ _).bind_stays fun started hstarted => ?_
  refine (yields_ensureMapTraceStarted hJ hstarted).bind_stays fun answer hanswer => ?_
  cases answer with
  | error e => exact .raise _
  | ok traced =>
    exact (stays_save hJ (hanswer traced rfl) _).bind fun _ =>
      (stays_recordLastTransition hJ.stage traced).bind fun _ => .ret _

theorem stays_markPassengerNoShow (env : Env) (rideId : UUID) (actor : Actor) (clock : Clock) :
    (contractDiscipline σ db₀ hfresh).Stays i AtRest (markPassengerNoShow env rideId actor clock) := by
  refine stays_of_loadRide fun ride => ?_
  have hJ : FollowsTerms hfresh i ride.terms (SawTerms ride.terms) := follows_sawTerms
  refine (stays_checkDriver hJ.stage ride actor _).bind fun _ => ?_
  split
  · refine (Stays.raiseIf _ _).bind fun _ => ?_
    refine (yields_transitionOrRaise (t := ride.terms) (by rfl) _ _).bind_stays fun absent habsent => ?_
    exact (stays_save hJ habsent _).bind fun _ => (stays_recordLastTransition hJ.stage absent).bind fun _ =>
      .ret _
  · exact .raise _

theorem stays_startWaiting (env : Env) (rideId : UUID) (actor : Actor) (speed : Option ℚ) (clock : Clock) :
    (contractDiscipline σ db₀ hfresh).Stays i AtRest (startWaiting env rideId actor speed clock) := by
  refine stays_of_loadRide fun ride => ?_
  have hJ : FollowsTerms hfresh i ride.terms (SawTerms ride.terms) := follows_sawTerms
  refine (stays_checkDriver hJ.stage ride actor _).bind fun _ => ?_
  split_ifs
  · exact .ret _
  refine (Stays.raiseIf _ _).bind fun _ => ?_
  cases speed with
  | none => exact .raise _
  | some speed =>
    refine (Stays.raiseIf _ _).bind fun _ => ?_
    refine (yields_transitionOrRaise (t := ride.terms) (by rfl) _ _).bind_stays fun waiting hwaiting => ?_
    exact (stays_save hJ hwaiting _).bind fun _ => .ret _

/-- A wait may be ended by whoever has written nothing. -/
theorem stays_stopWaiting_atRest (env : Env) (rideId : UUID) (actor : Actor) (reason : String)
    (now : DateTime) :
    (contractDiscipline σ db₀ hfresh).Stays i AtRest (stopWaiting env rideId actor reason now) :=
  stays_of_loadRide fun ride =>
    (stays_checkDriver (FollowsTerms.stage follows_sawTerms) ride actor _).bind fun _ =>
      (yields_finishWaiting follows_sawTerms rfl env reason now).stays

theorem stays_stopWaitingIfVehicleMoves (env : Env) (userId : UUID) (now : DateTime) :
    (contractDiscipline σ db₀ hfresh).Stays i AtRest (stopWaitingIfVehicleMoves env userId now) := by
  refine (Stays.select stage_atRest _).bind fun o => ?_
  cases o with
  | none => exact .ret _
  | some ride =>
    dsimp only
    split_ifs
    · exact (stays_stopWaiting_atRest env _ _ _ now).bind fun _ => .ret _
    · exact .ret _

theorem stays_addSupplement (rideId : UUID) (actor : Actor) (type : String) (amount : Option Decimal)
    (label : Option String) (id : UUID) (now : DateTime) :
    (contractDiscipline σ db₀ hfresh).Stays i AtRest (addSupplement rideId actor type amount label id now) :=
  (stays_requireActiveRideForDriver stage_atRest rideId actor _).bind fun _ =>
    (stays_supplementAmount _ amount).bind fun _ => (stays_supplementLabel _ label).bind fun _ =>
      Stays.bind (.writeOrRaise stage_atRest (keepsTerms_of_eq (fun _ => rfl) fun _ => rfl)) fun _ => .ret _

theorem stays_decideSupplement (rideId supplementId : UUID) (actor : Actor) (decision : SupplementStatus)
    (now : DateTime) :
    (contractDiscipline σ db₀ hfresh).Stays i AtRest (decideSupplement rideId supplementId actor decision now) := by
  refine stays_of_loadRide fun ride => ?_
  have hJ : FollowsTerms hfresh i ride.terms (SawTerms ride.terms) := follows_sawTerms
  refine (Stays.raiseIf _ _).bind fun _ => (Stays.raiseIf _ _).bind fun _ => ?_
  refine Stays.bind ((Stays.selectForUpdate hJ.stage _ _).bind fun _ => .selectForUpdate hJ.stage _ _) fun o => ?_
  cases o with
  | none => exact .raise _
  | some supplement =>
    dsimp only
    split_ifs
    · exact .ret _
    refine (Stays.raiseIf _ _).bind fun _ => ?_
    refine Stays.bind ((Stays.select hJ.stage _).bind fun o => ?_) fun _ => ?_
    · cases o with
      | none => exact .raise _
      | some row => exact .update hJ.stage (keepsTerms_of_eq (fun _ => rfl) fun _ => rfl)
    · exact (Stays.select hJ.stage _).bind fun total => (stays_save hJ (by rfl) _).bind fun _ => .ret _

theorem stays_cancel (env : Env) (cfg : DispatchConfig) (rideId : UUID) (reason : String) (actor : Actor)
    (clock : Clock) :
    (contractDiscipline σ db₀ hfresh).Stays i AtRest (cancel env cfg rideId reason actor clock) := by
  refine (Stays.raiseIf _ _).bind fun _ => stays_of_loadRide fun ride => ?_
  have hJ : FollowsTerms hfresh i ride.terms (SawTerms ride.terms) := follows_sawTerms
  refine (stays_isAssignedDriver hJ.stage ride actor.userId).bind fun isDriver => ?_
  refine (Stays.raiseIf _ _).bind fun _ => (Stays.raiseIf _ _).bind fun _ => (Stays.raiseIf _ _).bind fun _ =>
    (Stays.raiseIf _ _).bind fun _ => ?_
  refine Yields.bind_stays (I := fun r => r.terms = ride.terms) ?_ fun abandoned habandoned => ?_
  · unfold abandonWait
    split_ifs
    · exact yields_finishWaiting hJ rfl env _ _
    · exact .ret rfl
  refine (yields_transitionOrRaise habandoned _ _).bind_stays fun cancelled hcancelled => ?_
  exact (stays_save hJ (by exact hcancelled) _).bind fun _ =>
    (stays_recordRideOutcome hJ.stage cfg cancelled).bind fun _ => .ret _

theorem stays_checkParticipant {harmless : (RideDb → RideDb) → Prop} {R : RelyGuarantee σ.machine}
    (hJ : R.Stage i harmless J) (ride : Ride) (actor : Actor) : R.Stays i J (checkParticipant ride actor) := by
  refine Stays.bind ?_ fun _ => .raiseIf _ _
  unfold isParticipant
  split_ifs
  · exact .ret _
  · exact stays_isAssignedDriver hJ ride actor.userId

theorem stays_createShareLink (rideId : UUID) (actor : Actor) (token : String) (now : DateTime) :
    (contractDiscipline σ db₀ hfresh).Stays i AtRest (createShareLink rideId actor token now) :=
  stays_of_loadRide fun ride => (stays_checkParticipant (FollowsTerms.stage follows_sawTerms) ride actor).bind fun _ =>
    (stays_save follows_sawTerms (by rfl) _).bind fun _ => .ret _

theorem stays_requestEmergency (env : Env) (rideId : UUID) (actor : Actor) (note : Option String)
    (eventId : UUID) (now : DateTime) :
    (contractDiscipline σ db₀ hfresh).Stays i AtRest (requestEmergency env rideId actor note eventId now) := by
  refine stays_of_loadRide fun ride => ?_
  have hJ : FollowsTerms hfresh i ride.terms (SawTerms ride.terms) := follows_sawTerms
  refine (stays_checkParticipant hJ.stage ride actor).bind fun _ => (stays_selectAs hJ.stage _ _).bind fun latest => ?_
  refine Stays.bind ?_ fun _ => (stays_save hJ (by rfl) _).bind fun _ => (stays_askFor hJ.stage _ _).bind fun _ =>
    (stays_askFor hJ.stage _ _).bind fun _ => Stays.bind ?_ fun _ => .ret _
  · unfold checkEmergencyRate
    cases latest with
    | none => exact .ret _
    | some event => exact .raiseIf _ _
  · exact .writeOrRaise hJ.stage (keepsTerms_of_eq (fun _ => rfl) fun _ => rfl)

theorem stays_accept (rideId driverUserId : UUID) (now : DateTime) :
    (contractDiscipline σ db₀ hfresh).Stays i AtRest (accept rideId driverUserId now) := by
  refine fun P hP => wpOk_bind (Q := fun (ride : Ride) => SawTerms ride.terms) ?_ fun ride P hP =>
    wpOk_mono (Q := fun _ => SawTerms ride.terms) ?_ fun _ _ h => h.rest
  · exact wpOk_bind (wp_loadRide_atRest hP) fun ride P hP => wpOk_raiseIf_bind fun _ =>
      wpOk_raiseIf_bind fun _ => wpOk_ret hP
  have hJ : FollowsTerms hfresh i ride.terms (SawTerms ride.terms) := follows_sawTerms
  refine Stays.bind (stays_currentOffers hJ.stage _ _) (fun holders => ?_) P hP
  refine (Stays.raiseIf _ _).bind fun _ => (Stays.raiseIf _ _).bind fun _ =>
    (Stays.select hJ.stage _).bind fun o => ?_
  cases o.filter fun p => p.status = .active with
  | none => exact .raise _
  | some profile =>
    refine (Stays.raiseIf _ _).bind fun _ => (Stays.select hJ.stage _).bind fun o => ?_
    cases o with
    | none => exact .raise _
    | some vehicle =>
      refine (stays_askFor hJ.stage _ _).bind fun won => (Stays.raiseIf _ _).bind fun _ => ?_
      refine Stays.bind (Stays.tryCatch ?_ fun e P => ?_) fun matched =>
        (stays_tell hJ.stage _).bind fun _ => (stays_tell hJ.stage _).bind fun _ => .ret _
      · refine (yields_transitionOrRaise (t := ride.terms) (by rfl) _).bind_stays fun matched hmatched => ?_
        exact (stays_save hJ hmatched _).bind fun _ => (stays_recordStatusTransitions hJ.stage _).bind fun _ =>
          .ret _
      · refine wpOk_bind (Q := fun _ _ => True) ?_ fun _ P _ => ?_
        · exact stays_tell (J := fun _ => True) ⟨fun _ _ => trivial, fun _ _ => trivial, fun _ _ => trivial⟩ _ P trivial
        · split_ifs
          · exact wpOk_raise
          · exact wpOk_raise

theorem stays_decline (env : Env) (m : Matching) (rideId driverUserId : UUID) (clock : Clock) :
    (contractDiscipline σ db₀ hfresh).Stays i AtRest (decline env m rideId driverUserId clock) := by
  refine fun P hP => wpOk_bind (Q := fun (ride : Ride) => SawTerms ride.terms) ?_ fun ride P hP =>
    wpOk_mono (Q := fun _ => SawTerms ride.terms) ?_ fun _ _ h => h.rest
  · exact wpOk_bind (wp_loadRide_atRest hP) fun ride P hP => wpOk_raiseIf_bind fun _ =>
      wpOk_raiseIf_bind fun _ => wpOk_ret hP
  have hJ : FollowsTerms hfresh i ride.terms (SawTerms ride.terms) := follows_sawTerms
  refine Stays.bind (stays_currentOffers hJ.stage _ _) (fun holders => ?_) P hP
  refine (Stays.raiseIf _ _).bind fun _ => (stays_declineOffer hJ.stage _ _).bind fun active => ?_
  split_ifs
  · exact (stays_currentOffers hJ.stage _ _).bind fun _ => .ret _
  · exact stays_tryMatch hJ rfl env m clock

theorem stays_advanceExpiredOffer (env : Env) (m : Matching) (rideId : UUID) (clock : Clock) :
    (contractDiscipline σ db₀ hfresh).Stays i AtRest (advanceExpiredOffer env m rideId clock) := by
  refine (stays_currentOffers stage_atRest _ _).bind fun outstanding => ?_
  split_ifs
  · exact .ret _
  refine fun P hP => wpOk_bind (Q := fun (o : Option Ride) P' => AtRest P' ∧ ∀ ride, o = some ride →
    SawTerms ride.terms P') (wpOk_select fun s hs => ⟨hP, fun ride hride => ⟨hP, ?_⟩⟩) fun o P hP => ?_
  · obtain ⟨row, hrow, rfl⟩ := Option.map_eq_some_iff.mp hride
    obtain rfl : row.id = rideId := Table.key_of_find? hrow
    exact ((hP s.db).terms row.id).symm.trans (terms?_eq_some.mpr ⟨row, hrow, rfl⟩)
  cases o with
  | none => exact wpOk_ret hP.1
  | some ride =>
    exact wpOk_mono (stays_tryMatch follows_sawTerms rfl env m clock P (hP.2 ride rfl)) fun _ _ h => h.rest
/-! ## A request for a ride -/

section

variable {r : RideRequest} {method : PaymentMethod}

theorem wp_requestRide (hid : (σ.call i).newRide = some r.rideId) (hP : ∀ db, P.pending db = db)
    (habsent : P.shared.db.terms? r.rideId = none) :
    (contractDiscipline σ db₀ hfresh).wpOk i (requestRide r now) (fun ride P' => ∃ quote method,
      paymentMethodOf r.paymentMethod = some method ∧ ride = quote.toRide r method now ∧ quote.id = r.quoteId ∧
        quote.passengerUserId = r.passengerUserId ∧ now < quote.expiresAt ∧ HasAgreed quote ride now P') P := by
  unfold requestRide
  cases hmethod : paymentMethodOf r.paymentMethod with
  | none => exact wpOk_raise
  | some method =>
    refine wpOk_bind (Q := fun o P' => (∀ db, P'.pending db = db) ∧ ∀ quote : RideQuote, o = some quote →
      quote.id = r.quoteId ∧ (quote.consumedAt = none → HasQuote quote r.rideId P'))
      (wpOk_selectForUpdate fun s hs => ⟨hP, fun quote hquote => ?_⟩) ?_
    · rw [hP] at hquote
      have hquoteId : quote.id = r.quoteId := Table.key_of_find? hquote
      refine ⟨hquoteId, fun hunused => ⟨Or.inl ⟨?_, by rw [hquoteId]⟩, ?_, hunused, hs.rely.2 _ hid habsent⟩⟩
      · rw [hP, hquote]
        rfl
      · rw [hquoteId]
        exact hquote
    rintro o P ⟨hP, ho⟩
    cases o with
    | none => exact wpOk_raise
    | some quote =>
      obtain ⟨hquote, hlocked⟩ := ho quote rfl
      refine wpOk_raiseIf_bind fun howner => wpOk_raiseIf_bind fun hused => wpOk_raiseIf_bind fun htime => ?_
      have hlocked := hlocked (Option.not_isSome_iff_eq_none.mp hused)
      refine wpOk_bind (Q := fun _ P' => (∀ db, P'.pending db = db) ∧ HasQuote quote r.rideId P')
        (wpOk_selectAs fun s hs => ⟨permits_of_unwritten hs.inv rfl rfl, hP, ?_⟩) ?_
      · exact { hlocked.interfere hid hs with }
      rintro active P ⟨hP, hlocked⟩
      refine wpOk_raiseIf_bind fun _ => ?_
      -- The ride is inserted, for its identifier is new.
      refine wpOk_bind (Q := fun _ P' => (∀ db, P'.pending db = RideDb.insertRide db (quote.toRide r method now)) ∧
        HasQuote quote r.rideId P') (wpOk_bind (Q := fun o P' => o = none ∧ (∀ db, P'.pending db = db) ∧
          HasQuote quote r.rideId P') (wpOk_selectAs fun s hs =>
            ⟨permits_of_unwritten hs.inv rfl rfl, ?_, hP, { hlocked.interfere hid hs with }⟩) ?_) ?_
      · rw [hP]
        exact Option.map_eq_none_iff.mp (hlocked.interfere hid hs).absent
      · rintro _ P ⟨rfl, hP, hlocked⟩
        refine wpOk_writeOrRaise fun s hs _ => ⟨fun db => ?_, (hlocked.interfere hid hs).hold fun _ => Or.inr⟩
        simp only [Function.comp_apply, hP db]
      rintro _ P ⟨hP, hlocked⟩
      refine wpOk_bind (Q := fun _ => HasAgreed quote (quote.toRide r method now) now)
        (wpOk_update fun s hs => ⟨(hlocked.interfere hid hs).hold fun _ => Or.inr, fun db _ => ?_⟩)
        fun _ P hP => ?_
      · simp only [Function.comp_apply, hP db]
        exact .refl _
      have hJ : FollowsTerms hfresh i (quote.toRide r method now).terms
          (HasAgreed quote (quote.toRide r method now) now) := follows_hasAgreed hid
      refine wpOk_bind (stays_recordStatusTransitions hJ.stage _ P hP) fun _ P hP => wpOk_ret ?_
      exact ⟨quote, method, rfl, rfl, hquote, not_not.mp howner, not_le.mp htime, hP⟩

end

theorem find?_use_createRide (hfound : db.quotes.find? quote.id = some quote) (q : UUID) :
    (db.createRide ride quote.id now).quotes.find? q =
      if q = quote.id then some (quote.use ride.id now) else db.quotes.find? q := by
  rw [find?_quotes_createRide]
  by_cases hq : q = quote.id
  · rw [if_pos hq, if_pos hq, hq, hfound, Option.map_some]
  · rw [if_neg hq, if_neg hq]

/-- A quote that is not consumed becomes the quote of the new ride. -/
theorem honoured_createRide (hdb : db.Honoured) (hquote : ride.quoteId = some quote.id)
    (hfound : db.quotes.find? quote.id = some quote) (hunused : quote.consumedAt = none)
    (habsent : db.terms? ride.id = none) : (db.createRide ride quote.id now).Honoured where
  ofRide id t q ht hq := by
    rw [terms?_createRide habsent] at ht
    rw [find?_use_createRide hfound]
    by_cases hid : id = ride.id
    · rw [if_pos hid] at ht
      obtain rfl := Option.some.inj ht
      obtain rfl : quote.id = q := Option.some.inj (hquote.symm.trans hq)
      rw [if_pos rfl]
      exact ⟨_, rfl, congrArg some hid.symm⟩
    · rw [if_neg hid] at ht
      obtain ⟨used, hused, hride⟩ := hdb.ofRide id t q ht hq
      have hne : q ≠ quote.id := by
        rintro rfl
        obtain rfl := Option.some.inj (hfound.symm.trans hused)
        have hconsumed := hdb.consumed _ _ hfound
        rw [hunused, hride] at hconsumed
        cases hconsumed
      rw [if_neg hne]
      exact ⟨used, hused, hride⟩
  ofQuote q used id hused hid := by
    rw [find?_use_createRide hfound] at hused
    rw [terms?_createRide habsent]
    by_cases hq : q = quote.id
    · rw [if_pos hq] at hused
      obtain rfl := Option.some.inj hused
      rw [if_pos (Option.some.inj hid).symm, hq]
      exact ⟨_, rfl, hquote⟩
    · rw [if_neg hq] at hused
      obtain ⟨t, ht, htq⟩ := hdb.ofQuote q used id hused hid
      have hne : id ≠ ride.id := by
        rintro rfl
        cases habsent.symm.trans ht
      rw [if_neg hne]
      exact ⟨t, ht, htq⟩
  consumed q used hused := by
    rw [find?_use_createRide hfound] at hused
    by_cases hq : q = quote.id
    · rw [if_pos hq] at hused
      obtain rfl := Option.some.inj hused
      rfl
    · rw [if_neg hq] at hused
      exact hdb.consumed q used hused

theorem termsKept_createRide (hfound : db.quotes.find? quote.id = some quote)
    (hunused : quote.consumedAt = none) (habsent : db.terms? ride.id = none) :
    TermsKept db (db.createRide ride quote.id now) where
  terms id t ht := by
    have hne : id ≠ ride.id := by
      rintro rfl
      cases habsent.symm.trans ht
    rw [terms?_createRide habsent, if_neg hne]
    exact ht
  quotes q := by
    rw [find?_use_createRide hfound]
    by_cases hq : q = quote.id
    · rw [if_pos hq, hq]
      exact Or.inr ⟨quote, ride.id, now, hfound, hunused, rfl⟩
    · rw [if_neg hq]
      exact Or.inl rfl

/-- A quote that is still unused was there from the start. -/
theorem TermsKept.unused (h : TermsKept db db') {q : UUID} (hfound : db'.quotes.find? q = some quote)
    (hunused : quote.consumedAt = none) : db.quotes.find? q = some quote := by
  rcases h.quotes q with heq | ⟨quote', rideId, now, -, -, hused⟩
  · exact heq.symm.trans hfound
  · obtain rfl := Option.some.inj (hused.symm.trans hfound)
    cases hunused

theorem ends_of_agreed (hid : (σ.call i).newRide = some ride.id) (hagrees : (σ.call i).Agrees quote ride.terms)
    (hquote : ride.quoteId = some quote.id) (hP : HasAgreed quote ride now P) :
    (contractDiscipline σ db₀ hfresh).Ends i (.ok ()) P := by
  intro s hs
  obtain ⟨hhonoured, haccounted, hall, hkept⟩ := hs.inv
  have hlocked := hP.toHasQuote.interfere hid hs
  have hfound : s.db.quotes.find? quote.id = some quote := hlocked.found
  have habsent : s.db.terms? ride.id = none := hlocked.absent
  have hsame : SameTerms (s.db.createRide ride quote.id now) (P.pending s.db) := hP.created s.db habsent
  have hterms (id : UUID) : (P.pending s.db).terms? id =
      if id = ride.id then some ride.terms else s.db.terms? id :=
    (hsame.terms id).trans (terms?_createRide habsent id)
  have hnew : TermsKept s.db (P.pending s.db) :=
    (termsKept_createRide hfound hlocked.unused habsent).trans hsame.kept
  refine ⟨⟨?_, ?_, ?_, hkept.trans hnew⟩, ⟨hnew, ?_⟩, fun k hk => ?_⟩
  · exact hsame.honoured (honoured_createRide hhonoured hquote hfound hlocked.unused habsent)
  · intro id t ht
    change (P.pending s.db).terms? id = some t at ht
    rw [hterms] at ht
    by_cases hride : id = ride.id
    · rw [if_pos hride] at ht
      obtain rfl := Option.some.inj ht
      exact Or.inr ⟨i, quote, hride.symm, hkept.unused hfound hlocked.unused, hagrees⟩
    · rw [if_neg hride] at ht
      exact haccounted id t ht
  · intro j id hj
    change ((P.pending s.db).terms? id).isSome ↔ (j, Except.ok ()) ∈ s.log ++ [(i, Except.ok ())]
    rw [hterms]
    by_cases hji : j = i
    · subst hji
      obtain rfl := Option.some.inj (hid.symm.trans hj)
      rw [if_pos rfl]
      exact iff_of_true rfl (List.mem_append_right _ (List.mem_singleton.mpr rfl))
    · have hne : id ≠ ride.id := by
        rintro rfl
        exact hji (hfresh.distinct j i _ hj hid)
      rw [if_neg hne, ok_mem_log_append fun h => absurd h hji]
      exact hall j id hj
  · intro id hnone
    change (P.pending s.db).terms? id = none ∨ _
    rw [hterms]
    by_cases hride : id = ride.id
    · exact Or.inr (hride ▸ hid)
    · exact Or.inl (by rw [if_neg hride]; exact hnone)
  · cases k with
    | quote q =>
      have hne : q ≠ quote.id := by
        rintro rfl
        exact hk hP.held
      change s.db.quotes.find? q = (P.pending s.db).quotes.find? q
      rw [hsame.quotes, find?_use_createRide hfound, if_neg hne]
    | _ => trivial

/-! ## Runs -/

theorem ends_of_atRest (hnone : (σ.call i).newRide = none) (hP : AtRest P) :
    (contractDiscipline σ db₀ hfresh).Ends i (.ok ()) P := by
  refine fun s hs => permits_of_sameTerms hs.inv (hP s.db) fun j id hid => ok_mem_log_append ?_
  rintro rfl
  cases hnone.symm.trans hid

theorem contracts_verified_of_wpOk {p : Action Unit} {sh : Shared σ.machine}
    (h : (contractDiscipline σ db₀ hfresh).wpOk i p (fun _ P => (contractDiscipline σ db₀ hfresh).Ends i (.ok ()) P)
      (Point.start sh)) : (contractDiscipline σ db₀ hfresh).Verified i p sh := by
  refine wp_mono (wpOk_iff.mp h) fun result P hP => ?_
  cases result with
  | error e =>
    exact fun s hs => permits_of_sameTerms hs.inv (.refl _) fun j id _ => ok_mem_log_append fun _ => nofun
  | ok a => exact hP a rfl

/-- A request about a ride that is there. -/
theorem stays_action (hnone : (σ.call i).newRide = none) :
    (contractDiscipline σ db₀ hfresh).Stays i AtRest ((σ.call i).action σ.env) := by
  unfold RideCall.newRide at hnone
  unfold RideCall.action
  cases hop : (σ.call i).op with
  | createRide review quoteId text scheduledAt rideId =>
    rw [hop] at hnone
    cases hnone
  | accept rideId =>
    exact (stays_requireBusinessDriver stage_atRest _).bind fun _ => (stays_accept _ _ _).bind fun _ => .ret _
  | decline rideId =>
    exact (stays_requireBusinessDriver stage_atRest _).bind fun _ => (stays_decline _ _ _ _ _).bind fun _ => .ret _
  | expireWave rideId => exact (stays_advanceExpiredOffer _ _ _ _).bind fun _ => .ret _
  | updateStatus rideId status =>
    refine (stays_requireBusinessDriver stage_atRest _).bind fun _ => ?_
    cases rideStatusOf status with
    | none => exact .raise _
    | some newStatus =>
      refine (stays_updateStatus _ _ _ _ _ _).bind fun _ => ?_
      split_ifs
      · exact stays_releaseDriverOf stage_atRest _
      · exact .ret _
  | requestEarlyStop rideId => exact (stays_requestEarlyStop _ _ _ _).bind fun _ => .ret _
  | confirmEarlyStop rideId =>
    exact (stays_requireBusinessDriver stage_atRest _).bind fun _ => (stays_confirmEarlyStop _ _ _ _ _).bind fun _ =>
      stays_releaseDriverOf stage_atRest _
  | markArrived rideId =>
    exact (stays_requireBusinessDriver stage_atRest _).bind fun _ => (stays_askFor stage_atRest _ _).bind fun _ =>
      (stays_markArrived _ _ _ _ _).bind fun _ => .ret _
  | startRide rideId code =>
    exact (stays_requireBusinessDriver stage_atRest _).bind fun _ =>
      (stays_startRideWithCode _ _ _ _ _).bind fun _ => .ret _
  | markNoShow rideId =>
    exact (stays_requireBusinessDriver stage_atRest _).bind fun _ => (stays_markPassengerNoShow _ _ _ _).bind fun _ =>
      stays_releaseDriverOf stage_atRest _
  | startWaiting rideId =>
    exact (stays_requireBusinessDriver stage_atRest _).bind fun _ => (stays_askFor stage_atRest _ _).bind fun _ =>
      (stays_startWaiting _ _ _ _ _).bind fun _ => .ret _
  | stopWaiting rideId =>
    exact (stays_requireBusinessDriver stage_atRest _).bind fun _ =>
      (stays_stopWaiting_atRest _ _ _ _ _).bind fun _ => .ret _
  | pushSpeed speed =>
    dsimp only
    split_ifs
    · exact stays_stopWaitingIfVehicleMoves _ _ _
    · exact .ret _
  | addSupplement rideId type amount label id =>
    exact (stays_requireBusinessDriver stage_atRest _).bind fun _ =>
      (stays_addSupplement _ _ _ _ _ _ _).bind fun _ => .ret _
  | decideSupplement rideId id accepted => exact (stays_decideSupplement _ _ _ _ _).bind fun _ => .ret _
  | cancel rideId reason =>
    exact (stays_cancel _ _ _ _ _ _).bind fun _ => stays_releaseDriverOf stage_atRest _
  | createShareLink rideId token => exact (stays_createShareLink _ _ _ _).bind fun _ => .ret _
  | requestEmergency rideId note eventId => exact (stays_requestEmergency _ _ _ _ _ _).bind fun _ => .ret _

theorem contracts_verified {sh : Shared σ.machine}
    (habsent : ∀ id, (σ.call i).newRide = some id → sh.db.terms? id = none) :
    (contractDiscipline σ db₀ hfresh).Verified i ((σ.call i).action σ.env) sh := by
  refine contracts_verified_of_wpOk ?_
  cases hnew : (σ.call i).newRide with
  | none =>
    exact wpOk_mono (stays_action hnew (Point.start sh) fun db => .refl db) fun _ _ hP => ends_of_atRest hnew hP
  | some id =>
    obtain ⟨review, q, text, scheduledAt, hop⟩ : ∃ review q text scheduledAt,
        (σ.call i).op = .createRide review q text scheduledAt id := by
      unfold RideCall.newRide at hnew
      split at hnew
      · next hop => exact ⟨_, _, _, _, hop.trans (by rw [Option.some.inj hnew])⟩
      · cases hnew
    unfold RideCall.action
    rw [hop]
    refine wpOk_bind (wp_requestRide hnew (fun _ => rfl) (habsent id hnew)) ?_
    rintro ride P ⟨quote, method, hmethod, rfl, rfl, howner, htime, hP⟩
    refine wpOk_bind (stays_tryMatch (follows_hasAgreed hnew) rfl _ _ _ P hP) fun _ P hP => wpOk_ret ?_
    refine ends_of_agreed hnew ⟨⟨review, method, text, scheduledAt, hop, hmethod, rfl⟩, howner, ?_, htime⟩ rfl hP
    exact hP.unused

/-- The passenger 1 requests a ride twice with the quote 40; the driver 2 still holds the offer. -/
def requestedTwice : Scenario Bool Unit where
  env := Sample.env
  call i :=
    { op := .createRide false 40 "cash" none (if i then 51 else 50), actor := ⟨1, "passenger"⟩
      config := dispatchConfigFromSettings Sample.env.settings, clock := { now := 0 } }
  receives w _ _ := w
  answers w _ q a := if a = Sample.ask q then some w else none

/-- The second request waits for the quote, and finds it used. -/
def requestedTwiceMoves : List (Move requestedTwice.machine) :=
  List.replicate 6 (.go false) ++ [.reply false (.ok (.keyType .set)), .go false,
    .reply false (.ok (.users [2])), .go false, .go true, .go true]

theorem freshRides_requestedTwice : FreshRides requestedTwice Sample.db where
  fresh _ _ _ := rfl
  distinct i j id hi hj := by
    have hij : (if i then 51 else 50 : UUID) = if j then 51 else 50 :=
      (Option.some.inj hi).trans (Option.some.inj hj).symm
    revert hij
    cases i <;> cases j <;> decide

theorem honoured_sample : Sample.db.Honoured where
  ofRide _ _ _ ht := by cases ht
  ofQuote q quote id hquote hid := by
    have hmem := Table.mem_of_find? hquote
    rw [List.mem_singleton.mp hmem] at hid
    cases hid
  consumed q quote hquote := by
    have hmem := Table.mem_of_find? hquote
    rw [List.mem_singleton.mp hmem]
    rfl

end DiddiGo.Rides
