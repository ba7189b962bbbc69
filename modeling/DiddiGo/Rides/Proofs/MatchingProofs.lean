import DiddiGo.Rides.Proofs.DispatchingProofs
import DiddiGo.Rides.Proofs.SuccessProofs
import DiddiGo.Rides.Search

/-!
# What matching steps do

One specification for each operation of the matching engine that runs alone against Redis.
-/

namespace DiddiGo.Rides

open Data (Json Keyed Table)
open Transactions Prog

/-! ## Programs that ask nobody -/

section

/-- The answers to a program that asks for none. -/
def nobody : sig.Query → sig.Answer := fun _ => .ok .done

theorem silent_transitionOrRaise (ride : Ride) (newStatus : RideStatus) (now : DateTime)
    (metadata : Option Json := none) : (transitionOrRaise ride newStatus now metadata).Silent := by
  unfold transitionOrRaise
  cases ride.transition newStatus now metadata with
  | some r => exact .ret _
  | none => exact .raise _

theorem silent_save (read ride : Ride) : (save read ride).Silent := by
  refine (Silent.selectAs _ _).bind fun row => ?_
  cases row with
  | none => exact .writeOrRaise _ _ _ _
  | some loaded => exact .writeOrRaiseAs _ _ _ _ _

theorem silent_recordStatusTransitions (ts : List RideStatusTransition) :
    (recordStatusTransitions ts).Silent := by
  induction ts with
  | nil => exact .ret _
  | cons t ts ih => exact (Silent.update _ _).bind fun _ => ih

theorem silent_loadRide (rideId : UUID) : (loadRide rideId).Silent := by
  refine (Silent.select _).bind fun r => ?_
  cases r with
  | some ride => exact .ret _
  | none => exact .raise _

theorem silent_loadActiveRide (rideId : UUID) : (loadActiveRide rideId).Silent :=
  (silent_loadRide rideId).bind fun _ => (Silent.raiseIf _ _).bind fun _ =>
    (Silent.raiseIf _ _).bind fun _ => .ret _

end

section

variable {α W : Type} {services : Services sig W} {w : W} {base cur : RideDb} {ride r : Ride}
  {E : W → RideDb → Prop} {Q : α → W → RideDb → RideDb → Prop}

/-! ## Statements -/

theorem serves_apiErrorIf {c : Prop} [Decidable c] {statusCode : Nat} {code message : String}
    {details : Data.Json} {f : Unit → Action α} (hE : c → E w base)
    (h : ¬ c → Serves services E Q (f ()) w base cur) :
    Serves services E Q (apiErrorIf c statusCode code message details >>= f) w base cur :=
  .bind_raiseIf hE h

/-- A command that is answered. -/
theorem serves_tell {q : Query} {reply : Reply} {w' : W} {f : Unit → Action α}
    (hq : services w q = (.ok reply, w')) (h : Serves services E Q (f ()) w' base cur) :
    Serves services E Q (tell q >>= f) w base cur := by
  have htell : Serves services E (fun _ v b c => v = w' ∧ b = base ∧ c = cur) (tell q) w base cur := by
    unfold tell askFor
    refine Serves.bind_ask ?_
    rw [hq]
    exact .ret ⟨rfl, rfl, rfl⟩
  refine htell.bind ?_
  rintro _ _ _ _ ⟨rfl, rfl, rfl⟩
  exact h

theorem serves_loadRide {rideId : UUID} {f : Ride → Action α} (hE : cur.ride? rideId = none → E w base)
    (h : ∀ r, cur.ride? rideId = some r → Serves services E Q (f r) w base cur) :
    Serves services E Q (loadRide rideId >>= f) w base cur := by
  cases hr : cur.ride? rideId with
  | none =>
    have hload : Leads nobody (fun _ => True) (fun _ _ _ => False) (loadRide rideId) base cur :=
      .of_bind_ret (leads_loadRide trivial fun r hr' => by rw [hr] at hr'; cases hr')
    exact .bind_silent (silent_loadRide rideId) hload (fun _ => hE hr) fun _ _ => False.elim
  | some r =>
    have hload : Leads nobody (fun _ => False) (fun r' _ c => r' = r ∧ c = cur) (loadRide rideId) base cur :=
      .of_bind_ret (leads_loadRide_of_found hr (.ret ⟨rfl, rfl⟩))
    refine .bind_silent (silent_loadRide rideId) hload False.elim ?_
    rintro _ _ ⟨rfl, rfl⟩
    exact h _ hr

theorem serves_loadActiveRide {rideId : UUID} {f : Ride → Action α} (hE : E w base)
    (h : ∀ r, cur.ride? rideId = some r → r.status = .requested →
      Serves services E Q (f r) w base cur) :
    Serves services E Q (loadActiveRide rideId >>= f) w base cur := by
  have hload : Leads nobody (E w) (fun r _ c => c = cur ∧ cur.ride? rideId = some r ∧
      r.status = .requested) (loadActiveRide rideId) base cur :=
    .of_bind_ret (leads_loadActiveRide hE fun r hr hs => .ret ⟨rfl, hr, hs⟩)
  refine .bind_silent (silent_loadActiveRide rideId) hload id ?_
  rintro r _ ⟨rfl, hr, hs⟩
  exact h r hr hs

/-- A ride that is there is written, unless another one has a unique key of it. -/
theorem serves_save {read : Ride} {f : Unit → Action α} (hr : cur.ride? ride.id = some r)
    (hE : ¬ cur.Admits ride → E w base)
    (h : cur.Admits ride → Serves services E Q (f ()) w base (cur.put ride)) :
    Serves services E Q (save read ride >>= f) w base cur := by
  by_cases hfree : cur.Admits ride
  · have hsave : Leads nobody (fun _ => False) (fun _ _ c => c = cur.put ride)
        (save read ride) base cur := .of_bind_ret (leads_save_of_admits hr hfree (.ret rfl))
    refine .bind_silent (silent_save read ride) hsave False.elim ?_
    rintro _ _ rfl
    exact h hfree
  · have hsave : Leads nobody (fun _ => True) (fun _ _ _ => False) (save read ride) base cur :=
      .of_bind_ret (leads_save trivial hr fun hfree' => absurd hfree' hfree)
    exact .bind_silent (silent_save read ride) hsave (fun _ => hE hfree) fun _ _ => False.elim

theorem serves_recordStatusTransitions {ts : List RideStatusTransition} {f : Unit → Action α}
    (h : Serves services E Q (f ()) w base (cur.logged ts)) :
    Serves services E Q (recordStatusTransitions ts >>= f) w base cur := by
  have hrecord : Leads nobody (fun _ => False) (fun _ _ c => c = cur.logged ts)
      (recordStatusTransitions ts) base cur := .of_bind_ret (leads_recordStatusTransitions (.ret rfl))
  refine .bind_silent (silent_recordStatusTransitions ts) hrecord False.elim ?_
  rintro _ _ rfl
  exact h

theorem serves_transitionOrRaise {newStatus : RideStatus} {now : DateTime} {f : Ride → Action α}
    (hne : newStatus ≠ ride.status) (hallowed : newStatus ∈ ride.status.allowedTransitions)
    (h : Serves services E Q (f (ride.enter newStatus now)) w base cur) :
    Serves services E Q (transitionOrRaise ride newStatus now >>= f) w base cur := by
  have htransition : Leads nobody (fun _ => False)
      (fun r _ c => r = ride.enter newStatus now ∧ c = cur) (transitionOrRaise ride newStatus now) base cur :=
    .of_bind_ret (leads_transitionOrRaise_of_allowed hne hallowed (.ret ⟨rfl, rfl⟩))
  refine .bind_silent (silent_transitionOrRaise _ _ _) htransition False.elim ?_
  rintro _ _ ⟨rfl, rfl⟩
  exact h

end

section

variable {env : Env} {m : Matching} {w : Dispatching} {base cur : RideDb} {ride r : Ride} {α : Type}
  {E : Dispatching → RideDb → Prop} {Q : α → Dispatching → RideDb → RideDb → Prop}

/-! ## Operations -/

variable {clock : Clock} {rideId : UUID}

theorem serves_giveUp {now : DateTime} {Q : MatchingDispatch → Dispatching → RideDb → RideDb → Prop}
    (hr : cur.ride? ride.id = some ride) (hs : ride.status = .requested)
    (hE : ¬ cur.Admits (ride.enter .noDriverFound now) → E w base)
    (hQ : cur.Admits (ride.enter .noDriverFound now) →
      Q { driverUserIds := [], newWave := true, noDriverFound := true } (w.clear ride.id) base
        ((cur.put (ride.enter .noDriverFound now)).logged (ride.enter .noDriverFound now).statusHistory)) :
    Serves Dispatching.serve E Q (giveUp ride now) w base cur := by
  unfold giveUp
  refine serves_transitionOrRaise (by rw [hs]; decide) (by rw [hs]; decide) ?_
  refine serves_save hr hE fun hfree => serves_recordStatusTransitions ?_
  exact serves_tell rfl (.ret (hQ hfree))

/-- `try_match` of a ride that is stored. -/
theorem serves_tryMatch (hr : cur.ride? ride.id = some ride) (hsize : 0 < m.config.offerWaveSize)
    (hE : ¬ cur.Admits (ride.enter .noDriverFound clock.gaveUpAt) → E w base) :
    Serves Dispatching.serve E
      (fun d w' base' cur' => base' = base ∧ Searching env m w cur ride clock d w' cur')
      (tryMatch env m ride clock) w base cur := by
  unfold tryMatch
  by_cases hs : ride.status = .requested
  swap
  · rw [if_pos hs]
    exact .ret ⟨rfl, .idle hs⟩
  rw [if_neg (not_not.mpr hs)]
  by_cases hbudget : searchBudgetExceeded m.config ride clock.searchedAt = true
  · rw [if_pos hbudget]
    exact serves_giveUp hr hs hE fun hfree => ⟨rfl, .lost hs (.inl hbudget) hfree⟩
  rw [if_neg hbudget]
  by_cases hcommission : commissionTooHigh env.settings ride = true
  · rw [if_pos hcommission]
    exact serves_giveUp hr hs hE fun hfree => ⟨rfl, .lost hs (.inr (.inl hcommission)) hfree⟩
  rw [if_neg hcommission]
  refine .bind_finds (Dispatching.finds_currentOffers 2) ?_
  by_cases hoffers : w.offers ride.id = []
  swap
  · rw [if_pos hoffers]
    exact .ret ⟨rfl, .waits hs hoffers⟩
  rw [if_neg (not_not.mpr hoffers)]
  refine .bind_finds (Dispatching.finds_nextCandidates hsize clock) ?_
  by_cases hnone : w.candidates env m cur ride clock = []
  · rw [if_pos hnone]
    exact serves_giveUp hr hs hE fun hfree => ⟨rfl, .lost hs (.inr (.inr ⟨hoffers, hnone⟩)) hfree⟩
  · rw [if_neg hnone]
    exact serves_tell rfl (.ret ⟨rfl, .opened hs (Bool.eq_false_of_not_eq_true hbudget)
      (Bool.eq_false_of_not_eq_true hcommission) hoffers hnone⟩)

/-- Giving up takes no unique key. -/
theorem admits_lost {now : DateTime} (hdistinct : cur.Distinct) (hr : cur.ride? ride.id = some ride) :
    cur.Admits (ride.enter .noDriverFound now) :=
  hdistinct.admits hr rfl (Or.inr rfl) rfl rfl

theorem serve_declineOffer (userId : UUID) :
    (declineOffer rideId userId).serve Dispatching.serve w base cur =
      if w.offers rideId = [] then (.ok false, w, base, cur)
      else if (w.offers rideId).filter (· ≠ userId) = [] then
        (.ok false, (w.removeOffer rideId userId).deleteOffers rideId, base, cur)
      else (.ok true, w.removeOffer rideId userId, base, cur) := by
  have htype : Finds Dispatching.serve (askFor Reply.keyType? (.offerType rideId 1)) w cur
      (if w.offers rideId = [] then .none else .set) := finds_askFor rfl rfl
  have hremove : (tell (.removeOffer rideId userId)).serve Dispatching.serve w base cur =
      (.ok (), w.removeOffer rideId userId, base, cur) := rfl
  have hcount : Finds Dispatching.serve (askFor Reply.count? (.countOffers rideId))
      (w.removeOffer rideId userId) cur ((w.offers rideId).filter (· ≠ userId)).length :=
    finds_askFor (by rw [Dispatching.serve, Dispatching.offers_removeOffer]) rfl
  have hdelete : (tell (.deleteOffers rideId)).serve Dispatching.serve (w.removeOffer rideId userId) base cur =
      (.ok (), (w.removeOffer rideId userId).deleteOffers rideId, base, cur) := rfl
  unfold declineOffer
  rw [serve_bind, htype base]
  by_cases hoffers : w.offers rideId = []
  · rw [if_pos hoffers, if_pos hoffers]
    rfl
  rw [if_neg hoffers, if_neg hoffers]
  dsimp only
  rw [serve_bind, hremove]
  dsimp only
  rw [serve_bind, hcount base]
  dsimp only
  by_cases hlength : ((w.offers rideId).filter (· ≠ userId)).length = 0
  · rw [if_pos hlength, if_pos (List.length_eq_zero_iff.mp hlength), serve_bind, hdelete, hlength]
    rfl
  · rw [if_neg hlength, if_neg (mt List.length_eq_zero_iff.mpr hlength)]
    change ((.ok (decide _), _, base, cur) : Except Err Bool × _) = _
    rw [decide_eq_true hlength]

theorem serves_declineOffer {userId : UUID} {f : Bool → Action α}
    (hnone : w.offers rideId = [] → Serves Dispatching.serve E Q (f false) w base cur)
    (hlast : w.offers rideId ≠ [] → (w.offers rideId).filter (· ≠ userId) = [] → Serves Dispatching.serve E Q
      (f false) ((w.removeOffer rideId userId).deleteOffers rideId) base cur)
    (hrest : (w.offers rideId).filter (· ≠ userId) ≠ [] →
      Serves Dispatching.serve E Q (f true) (w.removeOffer rideId userId) base cur) :
    Serves Dispatching.serve E Q (declineOffer rideId userId >>= f) w base cur := by
  unfold Serves
  rw [serve_bind, serve_declineOffer]
  by_cases hoffers : w.offers rideId = []
  · rw [if_pos hoffers]
    exact hnone hoffers
  rw [if_neg hoffers]
  by_cases hused : (w.offers rideId).filter (· ≠ userId) = []
  · rw [if_pos hused]
    exact hlast hoffers hused
  · rw [if_neg hused]
    exact hrest hused

/-- `decline` of a ride that is stored. -/
theorem serves_decline (env : Env) (rideId userId : UUID) (clock : Clock) (w : Dispatching) (cur : RideDb)
    (hsize : 0 < m.config.offerWaveSize) (hdistinct : cur.Distinct) :
    Serves Dispatching.serve (fun w' base' => w' = w ∧ base' = base)
      (fun d w' base' cur' => base' = base ∧ Declining env m w cur rideId userId clock d w' cur')
      (decline env m rideId userId clock) w base cur := by
  unfold decline
  refine serves_loadActiveRide ⟨rfl, rfl⟩ fun ride hr hs => ?_
  obtain rfl := RideDb.id_of_ride? hr
  refine .bind_finds (Dispatching.finds_currentOffers 0) ?_
  refine serves_apiErrorIf (fun _ => ⟨rfl, rfl⟩) fun hholder => ?_
  refine serves_declineOffer (fun hnone => ?_) (fun hsome hrest => ?_) fun hrest => ?_
  · refine (serves_tryMatch hr hsize fun hfree => absurd (admits_lost hdistinct hr) hfree).mono (fun _ _ h => h) ?_
    rintro d w' _ db' ⟨rfl, h⟩
    exact ⟨rfl, .late hr hs hnone h⟩
  · have hmem : userId ∈ w.offers ride.id := not_not.mp fun hmem => hholder ⟨hsome, hmem⟩
    refine (serves_tryMatch hr hsize fun hfree => absurd (admits_lost hdistinct hr) hfree).mono (fun _ _ h => h) ?_
    rintro d w' _ db' ⟨rfl, h⟩
    exact ⟨rfl, .last hr hs hmem hrest h⟩
  · have hsome : w.offers ride.id ≠ [] := fun hnone => hrest (by rw [hnone]; rfl)
    have hmem : userId ∈ w.offers ride.id := not_not.mp fun hmem => hholder ⟨hsome, hmem⟩
    refine .bind_finds (Dispatching.finds_currentOffers 2) (.ret ⟨rfl, ?_⟩)
    rw [Dispatching.offers_removeOffer]
    exact .stays hmem hrest

/-- `advance_expired_offer`: nothing happens while the wave is open or if there is no ride. -/
theorem serves_advanceExpiredOffer (env : Env) (rideId : UUID) (clock : Clock) (w : Dispatching)
    (cur : RideDb) (hsize : 0 < m.config.offerWaveSize) (hdistinct : cur.Distinct) :
    Serves Dispatching.serve (fun _ _ => False)
      (fun d w' base' cur' => base' = base ∧
        (((w.offers rideId ≠ [] ∨ cur.ride? rideId = none) ∧ d.newWave = false ∧ w' = w ∧ cur' = cur) ∨
        ∃ ride, cur.ride? rideId = some ride ∧ w.offers rideId = [] ∧
          Searching env m w cur ride clock d w' cur'))
      (advanceExpiredOffer env m rideId clock) w base cur := by
  unfold advanceExpiredOffer
  refine .bind_finds (Dispatching.finds_currentOffers 0) ?_
  by_cases hnone : w.offers rideId = []
  swap
  · rw [if_pos hnone]
    exact .ret ⟨rfl, .inl ⟨.inl hnone, rfl, rfl, rfl⟩⟩
  rw [if_neg (not_not.mpr hnone)]
  refine Serves.bind_select ?_
  cases hr : cur.ride? rideId with
  | none =>
    rw [show (cur.rides.find? rideId).map Ride.toDomain = none from hr]
    exact .ret ⟨rfl, .inl ⟨.inr rfl, rfl, rfl, rfl⟩⟩
  | some ride =>
    rw [show (cur.rides.find? rideId).map Ride.toDomain = some ride from hr]
    obtain rfl := RideDb.id_of_ride? hr
    refine (serves_tryMatch hr hsize fun hfree => absurd (admits_lost hdistinct hr) hfree).mono (fun _ _ h => h) ?_
    rintro d w' _ db' ⟨rfl, h⟩
    exact ⟨rfl, .inr ⟨ride, rfl, hnone, h⟩⟩

theorem silent_assignDriver (driverId vehicleId : UUID) (now : DateTime) :
    (assignDriver ride driverId vehicleId now).Silent :=
  (silent_transitionOrRaise _ _ _).bind fun _ => (silent_save _ _).bind fun _ =>
    (silent_recordStatusTransitions _).bind fun _ => .ret _

theorem serves_assignDriver {driverId vehicleId : UUID} {now : DateTime} (hr : cur.ride? rideId = some ride)
    (hs : ride.status = .requested) :
    Serves Dispatching.serve (fun w' base' => w' = w ∧ base' = base)
      (fun matched w' base' cur' => w' = w ∧ base' = base ∧
        matched = (ride.assign driverId vehicleId).enter .matched now ∧ cur.Admits matched ∧
        cur' = (cur.put matched).logged matched.statusHistory)
      (assignDriver ride driverId vehicleId now) w base cur := by
  have hstatus : (ride.assign driverId vehicleId).status = .requested := hs
  have hfound : cur.ride? ((ride.assign driverId vehicleId).enter .matched now).id = some ride :=
    RideDb.ride?_id hr
  unfold assignDriver
  refine serves_transitionOrRaise (by rw [hstatus]; decide) (by rw [hstatus]; decide) ?_
  refine serves_save hfound (fun _ => ⟨rfl, rfl⟩) fun hfree => serves_recordStatusTransitions ?_
  exact .ret ⟨rfl, rfl, rfl, hfree, rfl⟩

/-- `accept`. One that raises leaves at most the claim changed. -/
theorem serves_accept (rideId userId : UUID) (now : DateTime) (w : Dispatching) (cur : RideDb) :
    Serves Dispatching.serve (fun w' base' => base' = base ∧ ∃ claim, w' = w.setClaim rideId claim)
      (fun matched w' base' cur' => base' = base ∧ ∃ ride profile vehicle,
        Accepting w cur rideId userId now ride profile vehicle matched w' cur')
      (accept rideId userId now) w base cur := by
  have hE : base = base ∧ ∃ claim, w = w.setClaim rideId claim :=
    ⟨rfl, w.claims rideId, by
      unfold Dispatching.setClaim
      rw [Function.update_eq_self]⟩
  unfold accept
  refine serves_loadActiveRide hE fun ride hr hs => ?_
  refine .bind_finds (Dispatching.finds_currentOffers 0) ?_
  refine serves_apiErrorIf (fun _ => hE) fun hsome => serves_apiErrorIf (fun _ => hE) fun hholds => ?_
  refine Serves.bind_select ?_
  cases hprofile : (cur.profileOf userId).filter fun p => p.status = .active with
  | none => exact hE
  | some profile =>
    obtain ⟨hknown, hactive⟩ := Option.filter_eq_some_iff.mp hprofile
    refine serves_apiErrorIf (fun _ => hE) fun hcohort => Serves.bind_select ?_
    cases hvehicle : cur.vehicles.rows.find? fun v => v.driverId = profile.id ∧ v.active with
    | none => exact hE
    | some vehicle =>
      by_cases hclaim : (w.claims rideId).isSome
      · have hask : Dispatching.serve w (.claim rideId userId) = (.ok (.flag false), w) := if_pos hclaim
        exact .bind_finds (finds_askFor hask rfl) (serves_apiErrorIf (fun _ => hE) fun h => absurd rfl h)
      have hwon : Serves Dispatching.serve (fun _ _ => False)
          (fun won w' base' cur' => won = true ∧ w' = w.setClaim rideId (some userId) ∧ base' = base ∧ cur' = cur)
          (askFor Reply.flag? (.claim rideId userId)) w base cur := by
        unfold askFor
        refine Serves.bind_ask ?_
        rw [show Dispatching.serve w (.claim rideId userId) = _ from if_neg hclaim]
        exact .ret ⟨rfl, rfl, rfl, rfl⟩
      refine (hwon.mono (fun _ _ => False.elim) fun _ _ _ _ h => h).bind ?_
      rintro _ _ _ _ ⟨rfl, rfl, rfl, rfl⟩
      refine serves_apiErrorIf (fun h => absurd h Bool.noConfusion) fun _ => ?_
      refine Serves.bind (Serves.tryCatch (serves_assignDriver hr hs) ?_) ?_
      · rintro e _ _ _ ⟨rfl, rfl⟩
        refine serves_tell rfl ?_
        have hreleased : (w.setClaim rideId (some userId)).setClaim rideId none = w.setClaim rideId none := by
          unfold Dispatching.setClaim
          rw [Function.update_idem]
        by_cases he : e = .integrity
        · rw [if_pos he]
          exact ⟨rfl, none, hreleased⟩
        · rw [if_neg he]
          exact ⟨rfl, none, hreleased⟩
      · rintro matched _ _ _ ⟨rfl, rfl, hmatched, hfree, rfl⟩
        refine serves_tell rfl (serves_tell rfl (.ret ⟨rfl, ride, profile, vehicle, ?_⟩))
        exact
          { found := hr, requested := hs, holds := not_not.mp hholds, known := hknown
            active := of_decide_eq_true hactive, cohort := not_not.mp hcohort, equipped := hvehicle
            free := hfree, assigned := hmatched, served := rfl, stored := rfl }

end

end DiddiGo.Rides
