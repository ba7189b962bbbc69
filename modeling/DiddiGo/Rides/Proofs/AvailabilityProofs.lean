import DiddiGo.Data.Proofs.TextProofs
import DiddiGo.Rides.Proofs.CommandsProofs
import DiddiGo.Rides.Proofs.HistoryProofs

/-!
# Drivers who have a ride

The acceptance of a ride removes the availability marker of its driver, and the end of a ride sets it
again. No driver who has a ride has the marker, unless he goes online once more or a completion is
repeated.
-/

namespace DiddiGo.Rides

open Data (Json Keyed Table)
open Transactions Prog

variable {α : Type} {ask : Query → Answer} {env : Env} {c : RideCall} {now : DateTime} {l l' : Locations}
  {base cur db db' : RideDb} {rideId userId : UUID}

/-! ## The marker that a request leaves -/

/-- What a request that succeeds does to the markers; `db` is the database that it leaves. -/
inductive Marks (c : RideCall) (now : DateTime) (db : RideDb) (l : Locations) : Locations → Prop
  | kept (hop : ∀ rideId, c.op ≠ .accept rideId) : Marks c now db l l
  | assigned {rideId : UUID} (hop : c.op = .accept rideId) :
      Marks c now db l (l.setAvailable c.actor.userId false now)
  | released {rideId : UUID} {ride : Ride} {profile : DriverProfile} (hop : c.op.released? = some rideId)
      (hride : db.ride? rideId = some ride) (hdriver : ride.driverId = some profile.id)
      (hprofile : db.profiles.find? profile.id = some profile) :
      Marks c now db l (l.setAvailable profile.userId true now)

theorem keepMarkers_of_unmarking (l : Locations) (q : Query) (hq : q.Unmarking) :
    (keepMarkers ask now l q).2 = l := by
  unfold keepMarkers
  rw [show q.marker? = none from hq]

section

variable {E : Locations → RideDb → Prop} {Q : α → Locations → RideDb → RideDb → Prop}

/-- A command leaves the markers alone, or it sets the one that it names. -/
theorem serves_tell_marking {q : Query} {f : Unit → Action α} (hE : E l base)
    (h : ∀ reply, ask q = .ok reply →
      Serves (keepMarkers ask now) E Q (f ()) (keepMarkers ask now l q).2 base cur) :
    Serves (keepMarkers ask now) E Q (tell q >>= f) l base cur := by
  cases hq : ask q with
  | ok reply =>
    have hsent : keepMarkers ask now l q = (.ok reply, (keepMarkers ask now l q).2) := by
      rw [← hq]
      rfl
    exact serves_tell hsent (h reply hq)
  | error e =>
    have hraise : Serves (keepMarkers ask now) E (fun _ _ _ _ => False) (tell q) l base cur := by
      refine .bind_ask ?_
      have hsame : keepMarkers ask now l q = (.error e, l) := by
        unfold keepMarkers
        rw [hq]
        cases q.marker? <;> rfl
      rw [hsame]
      exact .raise hE
    exact hraise.bind fun _ _ _ _ => False.elim

theorem serves_setAvailable {available : Bool} {f : Unit → Action α} (hE : E l base)
    (h : Serves (keepMarkers ask now) E Q (f ()) (l.setAvailable userId available now) base cur) :
    Serves (keepMarkers ask now) E Q (tell (.setAvailable userId available) >>= f) l base cur := by
  refine serves_tell_marking hE fun reply hreply => ?_
  have hset : (keepMarkers ask now l (.setAvailable userId available)).2 = l.setAvailable userId available now := by
    unfold keepMarkers Query.marker?
    rw [hreply]
  rw [hset]
  exact h

end

/-- The driver of the ride gets his marker back, if the ride has one. -/
theorem serves_releaseDriverOf (hop : c.op.released? = some rideId) :
    Serves (keepMarkers ask now) (fun l' _ => l' = l) (fun _ l' _ cur' => Marks c now cur' l l')
      (releaseDriverOf rideId) l base cur := by
  have hkept : ∀ rideId, c.op ≠ .accept rideId := fun _ h => by rw [h] at hop; cases hop
  refine serves_loadRide (fun _ => rfl) fun ride hride => serves_tell_marking rfl fun _ _ => ?_
  rw [keepMarkers_of_unmarking l _ (by exact rfl)]
  cases hdriver : ride.driverId with
  | none => exact .ret (.kept hkept)
  | some driverId =>
    refine .bind_select ?_
    cases hprofile : cur.profiles.find? driverId with
    | none => exact .ret (.kept hkept)
    | some profile =>
      obtain rfl : profile.id = driverId := Table.key_of_find? hprofile
      refine .of_bind_ret (serves_setAvailable rfl (.ret ?_))
      exact .released hop hride hdriver hprofile

/-- A program that marks nobody, before the driver of the ride is released. -/
theorem serves_then_release {p : Action α} (hp : p.Asks Query.Unmarking) (hop : c.op.released? = some rideId) :
    Serves (keepMarkers ask now) (fun l' _ => l' = l) (fun _ l' _ cur' => Marks c now cur' l l')
      (p >>= fun _ => releaseDriverOf rideId) l base cur :=
  .bind_asks hp keepMarkers_of_unmarking (fun _ => rfl) fun _ _ _ => serves_releaseDriverOf hop

/-- The driver who accepts a ride loses his marker. -/
theorem serves_accept_marks (hop : c.op = .accept rideId) :
    Serves (keepMarkers ask now) (fun l' _ => l' = l) (fun _ l' _ cur' => Marks c now cur' l l')
      (Prog.ignore (accept rideId c.actor.userId c.clock.now)) l base cur := by
  have hkept (l : Locations) (q : Query) (hq : q.Unmarking) : (keepMarkers ask now l q).2 = l :=
    keepMarkers_of_unmarking l q hq
  have hquiet : ∀ nth, (currentOffers rideId nth).Asks Query.Unmarking := fun nth =>
    (asks_currentOffers nth).mono fun _ h => h.unmarking
  refine .bind (R := fun _ l' _ cur' => Marks c now cur' l l') ?_ fun _ _ _ _ h => .ret h
  refine .bind_asks (.of_silent (silent_loadActiveRide _)) hkept (fun _ => rfl) fun ride _ _ => ?_
  refine .bind_asks (hquiet 0) hkept (fun _ => rfl) fun holders _ _ => ?_
  refine .bind_raiseIf (fun _ => rfl) fun _ => .bind_raiseIf (fun _ => rfl) fun _ => .bind_select ?_
  split
  · exact .raise rfl
  refine .bind_raiseIf (fun _ => rfl) fun _ => .bind_select ?_
  split
  · exact .raise rfl
  refine .bind_asks (asks_askFor (A := Query.Unmarking) (by exact rfl)) hkept (fun _ => rfl) fun won _ _ => ?_
  refine .bind_raiseIf (fun _ => rfl) fun _ => .bind_asks ?_ hkept (fun _ => rfl) fun matched _ _ => ?_
  · refine Asks.tryCatch (.of_silent (silent_assignDriver _ _ _)) fun e => ?_
    exact (asks_tell (by exact rfl)).bind fun _ => Asks.ite (.raise _) (.raise _)
  refine .bind_asks (asks_tell (A := Query.Unmarking) (by exact rfl)) hkept (fun _ => rfl) fun _ _ _ => ?_
  exact serves_setAvailable rfl (.ret (.assigned hop))

/-- What a request does to the markers. -/
theorem serves_action : Serves (keepMarkers ask now) (fun l' _ => l' = l) (fun _ l' _ cur' => Marks c now cur' l l')
    (c.action env) l base cur := by
  have hkept (l : Locations) (q : Query) (hq : q.Unmarking) : (keepMarkers ask now l q).2 = l :=
    keepMarkers_of_unmarking l q hq
  have hbusiness : (requireBusinessDriver c.actor).Asks Query.Unmarking := .of_silent silent_requireBusinessDriver
  have hothers {p : Action Unit} (hp : p.Asks Query.Unmarking) (hop : ∀ rideId, c.op ≠ .accept rideId) :
      Serves (keepMarkers ask now) (fun l' _ => l' = l) (fun _ l' _ cur' => Marks c now cur' l l') p l base cur :=
    .of_bind_ret (.bind_asks hp hkept (fun _ => rfl) fun _ _ _ => .ret (.kept hop))
  unfold RideCall.action
  cases hop : c.op with
  | accept rideId => exact .bind_asks hbusiness hkept (fun _ => rfl) fun _ _ _ => serves_accept_marks hop
  | updateStatus rideId status =>
    refine .bind_asks hbusiness hkept (fun _ => rfl) fun _ _ _ => ?_
    cases hnew : rideStatusOf status with
    | none => exact .raise rfl
    | some newStatus =>
      refine .bind_asks (asks_updateStatus _ _) hkept (fun _ => rfl) fun _ _ _ => ?_
      by_cases hcompleted : newStatus = .completed
      · rw [if_pos hcompleted]
        refine serves_releaseDriverOf ?_
        rw [hop]
        exact if_pos (hnew.trans (congrArg some hcompleted))
      · rw [if_neg hcompleted]
        exact .ret (.kept fun _ h => by rw [hop] at h; cases h)
  | confirmEarlyStop rideId =>
    refine .bind_asks hbusiness hkept (fun _ => rfl) fun _ _ _ => ?_
    exact serves_then_release (asks_confirmEarlyStop _) (by rw [hop]; rfl)
  | markNoShow rideId =>
    refine .bind_asks hbusiness hkept (fun _ => rfl) fun _ _ _ => ?_
    exact serves_then_release (.of_silent silent_markPassengerNoShow) (by rw [hop]; rfl)
  | cancel rideId reason => exact serves_then_release (.of_silent (silent_cancel _ _)) (by rw [hop]; rfl)
  | createRide isReviewAccount quoteId paymentMethod scheduledAt rideId =>
    refine hothers ?_ fun _ h => by rw [hop] at h; cases h
    exact (Asks.of_silent (silent_requestRide _ _)).bind fun _ => asks_tryMatch.bind fun _ => .ret _
  | decline rideId =>
    refine hothers ?_ fun _ h => by rw [hop] at h; cases h
    exact hbusiness.bind fun _ => asks_decline.bind fun _ => .ret _
  | expireWave rideId =>
    refine hothers ?_ fun _ h => by rw [hop] at h; cases h
    exact asks_advanceExpiredOffer.bind fun _ => .ret _
  | requestEarlyStop rideId =>
    refine hothers ?_ fun _ h => by rw [hop] at h; cases h
    exact asks_requestEarlyStop.bind fun _ => .ret _
  | markArrived rideId =>
    refine hothers ?_ fun _ h => by rw [hop] at h; cases h
    refine hbusiness.bind fun _ => (asks_askFor (by exact rfl)).bind fun position => ?_
    exact (Asks.of_silent (silent_markArrived _)).bind fun _ => .ret _
  | startRide rideId code =>
    refine hothers ?_ fun _ h => by rw [hop] at h; cases h
    exact hbusiness.bind fun _ => (asks_startRideWithCode _).bind fun _ => .ret _
  | startWaiting rideId =>
    refine hothers ?_ fun _ h => by rw [hop] at h; cases h
    refine hbusiness.bind fun _ => (asks_askFor (by exact rfl)).bind fun speed => ?_
    exact (Asks.of_silent (silent_startWaiting _)).bind fun _ => .ret _
  | stopWaiting rideId =>
    refine hothers ?_ fun _ h => by rw [hop] at h; cases h
    exact hbusiness.bind fun _ => (Asks.of_silent (silent_stopWaiting _ _)).bind fun _ => .ret _
  | pushSpeed speedKmh =>
    refine hothers ?_ fun _ h => by rw [hop] at h; cases h
    exact Asks.ite (.of_silent (silent_stopWaitingIfVehicleMoves _)) (.ret _)
  | addSupplement rideId type amount customLabel supplementId =>
    refine hothers ?_ fun _ h => by rw [hop] at h; cases h
    exact hbusiness.bind fun _ => (Asks.of_silent (silent_addSupplement _ _ _ _ _)).bind fun _ => .ret _
  | decideSupplement rideId supplementId accepted =>
    refine hothers ?_ fun _ h => by rw [hop] at h; cases h
    exact (Asks.of_silent (silent_decideSupplement _ _ _)).bind fun _ => .ret _
  | createShareLink rideId token =>
    refine hothers ?_ fun _ h => by rw [hop] at h; cases h
    exact (Asks.of_silent (silent_createShareLink _ _)).bind fun _ => .ret _
  | requestEmergency rideId note eventId =>
    refine hothers ?_ fun _ h => by rw [hop] at h; cases h
    exact (asks_requestEmergency _ _ _).bind fun _ => .ret _

/-! ## Assignments -/

/-- What the rides and the profiles have in common whenever nobody works on them. -/
structure RideDb.WellAssigned (db : RideDb) : Prop where
  distinct : db.Distinct
  /-- A ride that is requested has no driver yet. -/
  idle : ∀ id r, db.ride? id = some r → r.status = .requested → r.driverId = none
  /-- The driver of a ride has a profile. -/
  known : ∀ id r driverId, db.ride? id = some r → r.driverId = some driverId →
    ∃ profile, db.profiles.find? driverId = some profile

variable {r r' : Ride} {ts : List RideStatusTransition} {es : List PriorityEvent} {driverId : UUID}

theorem activeDriver_eq_some : r.activeDriver = some driverId ↔
    r.status.bindsDriver = true ∧ r.driverId = some driverId := by
  unfold Ride.activeDriver
  by_cases h : r.status.bindsDriver = true
  · rw [if_pos h]
    exact ⟨fun hd => ⟨h, hd⟩, And.right⟩
  · rw [if_neg h]
    exact ⟨fun hd => absurd hd.symm (Option.some_ne_none _), fun hd => absurd hd.1 h⟩

theorem wellAssigned_of_unrequested (hdb : Unrequested db) : db.WellAssigned := by
  have hnone : ∀ id, db.ride? id = none := by
    intro id
    unfold RideDb.ride?
    rw [hdb.rides]
    rfl
  refine ⟨fun id id' r r' hr => ?_, fun id r hr => ?_, fun id r driverId hr => ?_⟩
  · rw [hnone] at hr
    cases hr
  · rw [hnone] at hr
    cases hr
  · rw [hnone] at hr
    cases hr

theorem RideDb.find?_of_profileOf {profile : DriverProfile} (h : db.profileOf userId = some profile) :
    db.profiles.find? profile.id = some profile ∧ profile.userId = userId :=
  ⟨Table.find?_key_of_mem (List.mem_of_find?_eq_some h), by simpa using List.find?_some h⟩

/-- The driver of a ride stays, or the ride is accepted by the driver it has then. -/
theorem Moves.driver_cases (h : Moves env ask c db r r' ts es) :
    (∀ rideId, c.op ≠ .accept rideId) ∧ r'.driverId = r.driverId ∨
      c.op = .accept r.id ∧ r'.status = .matched ∧
        ∃ profile, db.profileOf c.actor.userId = some profile ∧ r'.driverId = some profile.id := by
  by_cases hop : c.op = .accept r.id
  · refine Or.inr ⟨hop, ?_⟩
    cases h with
    | accepted _ _ hprofile _ hr' => exact ⟨by rw [hr']; rfl, _, hprofile, by rw [hr']; rfl⟩
    | waitStopped h =>
      rcases h with h | ⟨_, h⟩
      · cases hop.symm.trans h
      · cases hop.symm.trans h
    | lost h =>
      rcases h with h | h
      · cases hop.symm.trans h
      · cases hop.symm.trans h
    | _ h => cases hop.symm.trans h
  · refine Or.inl ⟨fun rideId hrideId => ?_, h.driverId hop⟩
    cases h with
    | accepted h => exact hop h
    | waitStopped h =>
      rcases h with h | ⟨_, h⟩
      · cases hrideId.symm.trans h
      · cases hrideId.symm.trans h
    | lost h =>
      rcases h with h | h
      · cases hrideId.symm.trans h
      · cases hrideId.symm.trans h
    | _ h => cases hrideId.symm.trans h

/-- A ride that keeps a driver busy did so before, or it was requested. -/
theorem Moves.binds_before (h : Moves env ask c db r r' ts es) (hbinds : r'.status.bindsDriver = true) :
    r.status.bindsDriver = true ∨ r.status = .requested := by
  rcases h.status_cases with hs | hs | ⟨hs, -⟩
  · rw [← hs]
    exact Or.inl hbinds
  · generalize r'.status = s' at hbinds hs
    generalize r.status = s at hs
    revert hbinds hs
    cases s <;> cases s' <;> decide
  · rw [hs]
    exact Or.inl rfl

/-- No change leads back to `requested`. -/
theorem Moves.requested_before (h : Moves env ask c db r r' ts es) (hrequested : r'.status = .requested) :
    r.status = .requested := by
  rcases h.status_cases with hs | hs | ⟨-, hs⟩
  · exact hs.symm.trans hrequested
  · rw [hrequested] at hs
    generalize r.status = s at hs
    revert hs
    cases s <;> decide
  · rw [hrequested] at hs
    exact absurd hs (by decide)

/-- The end of a ride comes from a ride that keeps a driver busy or that has none. -/
theorem Moves.released (h : Moves env ask c db r r' ts es) (hop : c.op.released? = some rideId) :
    r'.status.bindsDriver = false ∧ (r.status.bindsDriver = true ∨ r.status = .requested) := by
  have hclosed {reason : String} {closedAt : DateTime} {r₁ : Ride}
      (hclose : ClosedWait env reason closedAt r r₁)
      (hr₁ : r₁.status = .inProgress) : r.status.bindsDriver = true := by
    cases hclose with
    | idle => rw [hr₁]; rfl
    | closed hwaiting => rw [hwaiting]; rfl
  cases h with
  | patched hop' hnew _ _ hcompleted =>
    rw [hop'] at hop
    change (if _ then _ else none) = some rideId at hop
    rw [if_neg (fun h => hcompleted (Option.some.inj (hnew.symm.trans h)))] at hop
    cases hop
  | completed _ _ _ hclose hstatus => exact ⟨rfl, Or.inl (hclosed hclose hstatus)⟩
  | stoppedEarly _ _ hactive _ _ _ _ _ hr₃ =>
    refine ⟨by rw [hr₃]; rfl, Or.inl ?_⟩
    rcases hactive with h | h
    · rw [h]; rfl
    · rw [h]; rfl
  | absent _ _ hstatus _ _ hr' => exact ⟨by rw [hr']; rfl, Or.inl (by rw [hstatus]; rfl)⟩
  | @cancelled reason r₁ r₂ _ _ _ _ hopen _ hr₂ =>
    refine ⟨?_, ?_⟩
    · rw [hr₂]
      change (cancelledStatus reason (db.assigned r c.actor.userId) c.actor).bindsDriver = false
      rcases cancelledStatus_cases reason (db.assigned r c.actor.userId) c.actor with h | h <;> rw [h] <;> rfl
    · generalize r.status = s at hopen
      revert hopen
      cases s <;> decide
  | waitStopped h =>
    rcases h with h | ⟨_, h⟩
    · rw [h] at hop; cases hop
    · rw [h] at hop; cases hop
  | lost h =>
    rcases h with h | h
    · rw [h] at hop; cases hop
    · rw [h] at hop; cases hop
  | _ h => rw [h] at hop; cases hop

/-- The request has ended the ride, or it has found it completed and changed nothing. -/
def EndsRide (env : Env) (ask : Query → Answer) (c : RideCall) (db : RideDb) (rideId : UUID) (db' : RideDb) :
    Prop :=
  MovesRide env ask c db rideId db' ∨
    db' = db ∧ ∃ status r, c.op = .updateStatus rideId status ∧
      rideStatusOf status = some .completed ∧ db.ride? rideId = some r ∧ r.status = .completed

/-- What a request that releases a driver has done before. -/
theorem endsRide_of_released (hop : c.op.released? = some rideId) (hok : RideStep.Succeeds env c ask db) :
    EndsRide env ask c db rideId ((RideStep.request c ask).after env db) := by
  have hreleases {p : Action Ride}
      (hp : Leads ask (fun _ => True) (fun _ _ cur => EndsRide env ask c db rideId cur) p db db) :
      Leads ask (fun _ => True) (fun _ _ cur => EndsRide env ask c db rideId cur)
        (p >>= fun _ => releaseDriverOf rideId) db db := by
    refine Leads.bind hp fun _ base cur hdone => ?_
    exact Leads.of_bind_ret (Leads.bind_reads (reads_releaseDriverOf rideId) trivial fun _ => Leads.ret hdone)
  suffices hleads : Leads ask (fun _ => True) (fun _ _ cur => EndsRide env ask c db rideId cur)
      (c.action env) db db by
    obtain ⟨_, h⟩ := Leads.run_ok hleads hok
    exact h
  unfold RideCall.action
  cases hc : c.op with
  | updateStatus rideId' status =>
    rw [hc] at hop
    change (if _ then _ else none) = some rideId at hop
    by_cases hcompleted : rideStatusOf status = some .completed
    · rw [if_pos hcompleted] at hop
      obtain rfl := Option.some.inj hop
      refine leads_requireBusinessDriver trivial fun hactor => ?_
      rw [hcompleted]
      refine hreleases ((leads_updateStatus hc hcompleted hactor).mono (fun _ _ => trivial) ?_)
      rintro _ base cur ⟨-, ⟨rfl, -, r, hr, hstatus⟩ | hmoves⟩
      · exact Or.inr ⟨rfl, status, r, hc, hcompleted, hr, hstatus⟩
      · exact Or.inl hmoves
    · rw [if_neg hcompleted] at hop
      cases hop
  | confirmEarlyStop rideId' =>
    rw [hc] at hop
    obtain rfl := Option.some.inj hop
    refine Leads.bind_reads (reads_requireBusinessDriver _) trivial fun _ => ?_
    exact hreleases ((leads_confirmEarlyStop hc).mono (fun _ _ => trivial) fun _ _ _ h => Or.inl h.2)
  | markNoShow rideId' =>
    rw [hc] at hop
    obtain rfl := Option.some.inj hop
    refine Leads.bind_reads (reads_requireBusinessDriver _) trivial fun _ => ?_
    exact hreleases ((leads_markPassengerNoShow hc).mono (fun _ _ => trivial) fun _ _ _ h => Or.inl h.2)
  | cancel rideId' reason =>
    rw [hc] at hop
    obtain rfl := Option.some.inj hop
    exact hreleases ((leads_cancel hc).mono (fun _ _ => trivial) fun _ _ _ h => Or.inl h.2)
  | _ => rw [hc] at hop; cases hop

/-- A ride that was just created has no driver. -/
theorem Creates.driverId_eq_none {quote : RideQuote} {ride : Ride} (h : Creates c db quote ride)
    (hnow : some r' = some ride.toDomain ∨ some r' = some (ride.enter .noDriverFound c.clock.gaveUpAt).toDomain) :
    r'.driverId = none := by
  obtain ⟨request, method, -, -, rfl⟩ := h.made
  rcases hnow with hnow | hnow
  · obtain rfl := Option.some.inj hnow
    rfl
  · obtain rfl := Option.some.inj hnow
    rfl

/-- The assignments after a request. -/
theorem wellAssigned_request (hdraws : (RideStep.request c ask).Draws db) (h : db.WellAssigned) :
    ((RideStep.request c ask).after env db).WellAssigned := by
  have hprofiles : ((RideStep.request c ask).after env db).profiles = db.profiles := (effect_request hdraws).profiles
  refine ⟨?_, fun id x hx hrequested => ?_, fun id x d hx hd => ?_⟩
  · rcases @request_cases ask env c db hdraws with ⟨-, heffect⟩ | ⟨-, heffect⟩
    · exact heffect.distinct h.distinct
    · exact heffect.distinct h.distinct
  · rcases @ride_cases ask env c db hdraws id with hkept | ⟨quote, ride, hcreates, -, hnow⟩ | ⟨r, r', rfl, hmoved⟩
    · exact h.idle id x (hkept.symm.trans hx) hrequested
    · rw [hx] at hnow
      exact hcreates.driverId_eq_none hnow
    · obtain rfl := Option.some.inj (hx.symm.trans hmoved.stored)
      obtain ⟨ts, es, hmove⟩ := hmoved.moves
      rcases hmove.driver_cases with ⟨-, hdriver⟩ | ⟨-, hmatched, -⟩
      · exact hdriver.trans (h.idle r.id r hmoved.found (hmove.requested_before hrequested))
      · cases hrequested.symm.trans hmatched
  · rw [hprofiles]
    rcases @ride_cases ask env c db hdraws id with hkept | ⟨quote, ride, hcreates, -, hnow⟩ | ⟨r, r', rfl, hmoved⟩
    · exact h.known id x d (hkept.symm.trans hx) hd
    · rw [hx] at hnow
      rw [hcreates.driverId_eq_none hnow] at hd
      cases hd
    · obtain rfl := Option.some.inj (hx.symm.trans hmoved.stored)
      obtain ⟨ts, es, hmove⟩ := hmoved.moves
      rcases hmove.driver_cases with ⟨-, hdriver⟩ | ⟨-, -, profile, hprofile, hdriver⟩
      · exact h.known r.id r d hmoved.found (hdriver.symm.trans hd)
      · obtain rfl := Option.some.inj (hdriver.symm.trans hd)
        exact ⟨profile, (RideDb.find?_of_profileOf hprofile).1⟩

/-- A ride that keeps a driver busy after a request did so before, or the driver has just accepted it. -/
theorem bound_before (hdraws : (RideStep.request c ask).Draws db) (h : db.WellAssigned) {id : UUID}
    (hr' : ((RideStep.request c ask).after env db).ride? id = some r') (hactive : r'.activeDriver = some driverId) :
    (∃ r, db.ride? id = some r ∧ r.activeDriver = some driverId) ∨
      c.op = .accept id ∧ ∃ profile, db.profileOf c.actor.userId = some profile ∧ profile.id = driverId := by
  obtain ⟨hbinds, hdriver'⟩ := activeDriver_eq_some.mp hactive
  rcases @ride_cases ask env c db hdraws id with hkept | ⟨quote, ride, hcreates, -, hnow⟩ | ⟨r, x, rfl, hmoved⟩
  · exact Or.inl ⟨r', hkept.symm.trans hr', hactive⟩
  · rw [hr'] at hnow
    rw [hcreates.driverId_eq_none hnow] at hdriver'
    cases hdriver'
  · obtain rfl := Option.some.inj (hr'.symm.trans hmoved.stored)
    obtain ⟨ts, es, hmove⟩ := hmoved.moves
    rcases hmove.driver_cases with ⟨-, hdriver⟩ | ⟨hop, -, profile, hprofile, hdriver⟩
    · have hd : r.driverId = some driverId := hdriver.symm.trans hdriver'
      refine Or.inl ⟨r, hmoved.found, activeDriver_eq_some.mpr ⟨?_, hd⟩⟩
      refine (hmove.binds_before hbinds).resolve_right fun hrequested => ?_
      rw [h.idle r.id r hmoved.found hrequested] at hd
      cases hd
    · exact Or.inr ⟨hop, profile, hprofile, Option.some.inj (hdriver.symm.trans hdriver')⟩

/-- The rides are the same, and each profile still belongs to its user. -/
structure SameDrivers (db db' : RideDb) : Prop where
  rides : ∀ id, db'.ride? id = db.ride? id
  profiles : ∀ id p, db.profiles.find? id = some p →
    ∃ p', db'.profiles.find? id = some p' ∧ p'.userId = p.userId

theorem SameDrivers.refl (db : RideDb) : SameDrivers db db := ⟨fun _ => rfl, fun _ p hp => ⟨p, hp, rfl⟩⟩

theorem SameDrivers.wellAssigned (hsame : SameDrivers db db') (h : db.WellAssigned) : db'.WellAssigned where
  distinct := h.distinct.congr hsame.rides
  idle id r hr := h.idle id r ((hsame.rides id).symm.trans hr)
  known id r d hr hd := by
    obtain ⟨p, hp⟩ := h.known id r d ((hsame.rides id).symm.trans hr) hd
    obtain ⟨p', hp', -⟩ := hsame.profiles d p hp
    exact ⟨p', hp'⟩

theorem SameDrivers.busy (hsame : SameDrivers db db') (h : db.WellAssigned) (hbusy : db'.Busy userId) :
    db.Busy userId := by
  obtain ⟨id, r, profile, hr, hactive, hprofile, huser⟩ := hbusy
  rw [hsame.rides] at hr
  obtain ⟨p, hp⟩ := h.known id r profile.id hr (activeDriver_eq_some.mp hactive).2
  obtain ⟨p', hp', hsame'⟩ := hsame.profiles profile.id p hp
  obtain rfl := Option.some.inj (hprofile.symm.trans hp')
  have hid : p.id = profile.id := Table.key_of_find? hp
  exact ⟨id, r, p, hr, by rw [hid]; exact hactive, by rw [hid]; exact hp, hsame'.symm.trans huser⟩

/-- Going online leaves the rides alone, and the users of the profiles. -/
theorem leads_admitOnline (actor : Actor) (isReviewAccount : Bool) :
    Leads ask (fun base => base = db) (fun _ _ cur => SameDrivers db cur)
      (admitOnline env actor isReviewAccount) db db := by
  refine Leads.bind_reads (reads_requireBusinessDriver _) rfl fun _ => ?_
  refine Leads.bind (R := fun _ base cur => base = db ∧ SameDrivers db cur) (Leads.bind_select ?_) ?_
  · cases hprofile : db.profileOf actor.userId with
    | none => exact Leads.raise rfl
    | some profile =>
      refine Leads.bind (R := fun _ base cur => base = db ∧ SameDrivers db cur) ?_ ?_
      · unfold alignCohort
        by_cases hcohort : profile.isReviewAccount ≠ isReviewAccount
        · dsimp only
          rw [if_pos hcohort]
          refine Leads.bind_update (Leads.ret ⟨rfl, fun _ => rfl, fun id p hp => ?_⟩)
          have hsaved := Table.find?_update db.profiles profile.id
            (fun row => { row with isReviewAccount := isReviewAccount }) (fun _ => rfl) id
          rw [hp] at hsaved
          by_cases hid : id = profile.id
          · rw [if_pos hid] at hsaved
            exact ⟨_, hsaved, rfl⟩
          · rw [if_neg hid] at hsaved
            exact ⟨_, hsaved, rfl⟩
        · dsimp only
          rw [if_neg hcohort]
          exact Leads.ret ⟨rfl, .refl db⟩
      · rintro aligned _ cur ⟨rfl, hsame⟩
        refine Leads.bind_raiseIf rfl fun _ => Leads.bind_select ?_
        split
        · exact Leads.raise rfl
        · exact Leads.bind_raiseIf rfl fun _ => Leads.ret ⟨rfl, hsame⟩
  · rintro ⟨profile, vehicle⟩ _ cur ⟨rfl, hsame⟩
    refine Leads.bind_reads (reads_askFor _ _) rfl fun blocked => Leads.bind_reads (reads_askFor _ _) rfl fun balance => ?_
    exact Leads.bind_raiseIf rfl fun _ => Leads.of_bind_ret (Leads.bind_raiseIf rfl fun _ => Leads.ret hsame)

/-! ## One step -/

variable {f : Fleet} {step : FleetStep}

/-- The assignments, and no marker for a driver who has a ride. -/
structure Fleet.Sound (f : Fleet) : Prop where
  assigned : f.db.WellAssigned
  unmarked : ∀ userId, f.db.Busy userId → f.locations.available (UUID.str userId) = none

theorem Fleet.Sound.inStep (h : f.Sound) : f.InStep := by
  intro userId hbusy
  have hnone := h.unmarked userId hbusy
  refine ⟨hnone, fun distanceKm now location radiusKm limit hmem => ?_⟩
  obtain ⟨member, hmember, htext⟩ := List.mem_filterMap.mp (List.mem_of_mem_take hmem)
  have hmarked := (List.mem_filter.mp hmember).2
  unfold Locations.marked at hmarked
  rw [← UUID.str_of_ofString htext, Bool.and_eq_true] at hmarked
  have halive := hmarked.2
  unfold Data.Expiring.alive at halive
  rw [hnone] at halive
  cases halive

/-- What a request does to the database, and to the markers. -/
theorem request_marks : ((FleetStep.request c ask now).after env f).db = (RideStep.request c ask).after env f.db ∧
    (RideStep.Succeeds env c ask f.db ∧ Marks c now ((RideStep.request c ask).after env f.db) f.locations
        ((FleetStep.request c ask now).after env f).locations ∨
      ¬ RideStep.Succeeds env c ask f.db ∧
        ((FleetStep.request c ask now).after env f).locations = f.locations) := by
  have hrun : ((serveRequest (keepMarkers ask now) (c.action env) (f.locations, f.db)).1,
      (serveRequest (keepMarkers ask now) (c.action env) (f.locations, f.db)).2.2) =
        (c.action env).run ask f.db := by
    have hanswers (l : Locations) (q : Query) : (keepMarkers ask now l q).1 = ask q := rfl
    exact serveRequest_of_answers hanswers (c.action env) f.locations f.db
  have hafter : (RideStep.request c ask).after env f.db = ((c.action env).run ask f.db).2 := rfl
  have hserves : Serves (keepMarkers ask now) (fun l' _ => l' = f.locations)
      (fun _ l' _ cur' => Marks c now cur' f.locations l') (c.action env) f.locations f.db f.db := serves_action
  unfold RideStep.Succeeds FleetStep.after
  rw [hafter, ← hrun]
  dsimp only
  rcases hserves.request_cases with ⟨a, l', base, db', hdone, hmarks⟩ | ⟨e, l', db', hdone, hsame⟩
  · rw [hdone]
    exact ⟨rfl, Or.inl ⟨rfl, hmarks⟩⟩
  · rw [hdone]
    exact ⟨rfl, Or.inr ⟨fun h => (nomatch h), hsame⟩⟩

theorem bindsDriver_eq_of_busy {id : UUID} (h : f.Sound) (hid : f.db.ride? id = some r)
    (hdriver : r.driverId = some driverId) (hfrom : r.status.bindsDriver = true ∨ r.status = .requested) :
    r.activeDriver = some driverId := by
  refine activeDriver_eq_some.mpr ⟨hfrom.resolve_right fun hrequested => ?_, hdriver⟩
  rw [h.assigned.idle id r hid hrequested] at hdriver
  cases hdriver

/-- The driver who is released has no other ride. -/
theorem not_busy_of_released {profile : DriverProfile} (h : f.Sound) (hunique : f.db.OneProfileEach)
    (hdraws : (RideStep.request c ask).Draws f.db) (hspares : (FleetStep.request c ask now).SparesBusy env f)
    (hop : c.op.released? = some rideId) (hok : RideStep.Succeeds env c ask f.db)
    (hride : ((RideStep.request c ask).after env f.db).ride? rideId = some r')
    (hdriver : r'.driverId = some profile.id)
    (hprofile : ((RideStep.request c ask).after env f.db).profiles.find? profile.id = some profile) :
    ¬ ((RideStep.request c ask).after env f.db).Busy profile.userId := by
  have hprofiles : ((RideStep.request c ask).after env f.db).profiles = f.db.profiles :=
    (effect_request hdraws).profiles
  have hkept : ∀ id, c.op ≠ .accept id := fun _ h => by rw [h] at hop; cases hop
  rintro ⟨id, r₁, profile₁, hr₁, hactive₁, hprofile₁, huser⟩
  rw [hprofiles] at hprofile hprofile₁
  obtain rfl : profile₁ = profile :=
    hunique _ (Table.mem_of_find? hprofile₁) _ (Table.mem_of_find? hprofile) huser
  obtain ⟨r₀, hr₀, hactive₀⟩ :=
    (bound_before hdraws h.assigned hr₁ hactive₁).resolve_right fun hnew => hkept _ hnew.1
  rcases endsRide_of_released hop hok with ⟨r, x, ts, es, rfl, hr, hmove, -, hdb⟩ |
    ⟨hdb, status, x, hc, hnew, hx, hdone⟩
  · have hstored : ((RideStep.request c ask).after env f.db).ride? r.id = some x.toDomain := by
      rw [hdb, RideDb.ride?_move, RideDb.ride?_put_self hr hmove.sameTrip]
    obtain rfl := Option.some.inj (hride.symm.trans hstored)
    obtain ⟨hended, hfrom⟩ := hmove.released hop
    have hsame : x.driverId = r.driverId := hmove.driverId (hkept _)
    have hactive : r.activeDriver = some profile₁.id :=
      bindsDriver_eq_of_busy h hr (hsame.symm.trans hdriver) hfrom
    by_cases hid : id = r.id
    · rw [hid, hstored] at hr₁
      obtain rfl := Option.some.inj hr₁
      have hbinds := (activeDriver_eq_some.mp hactive₁).1
      rw [show x.toDomain.status = x.status from rfl, hended] at hbinds
      cases hbinds
    · refine h.assigned.distinct id r.id r₀ r hr₀ hr hid (Or.inl ⟨?_, hactive.trans hactive₀.symm⟩)
      rw [hactive₀]
      rfl
  · rw [hdb] at hride
    obtain rfl := Option.some.inj (hride.symm.trans hx)
    exact hspares hok rideId status r' profile₁ hc hnew hx hdone hdriver hprofile
      ⟨id, r₀, profile₁, hr₀, hactive₀, hprofile₁, rfl⟩

/-- The markers after a request. -/
theorem unmarked_request (h : f.Sound) (hunique : f.db.OneProfileEach)
    (hdraws : (RideStep.request c ask).Draws f.db) (hspares : (FleetStep.request c ask now).SparesBusy env f)
    (hbusy : ((RideStep.request c ask).after env f.db).Busy userId) :
    ((FleetStep.request c ask now).after env f).locations.available (UUID.str userId) = none := by
  have hprofiles : ((RideStep.request c ask).after env f.db).profiles = f.db.profiles :=
    (effect_request hdraws).profiles
  have hbefore : f.db.Busy userId ∨ c.actor.userId = userId ∧ ∃ id, c.op = .accept id := by
    obtain ⟨id, r, profile, hr, hactive, hprofile, huser⟩ := hbusy
    rcases bound_before hdraws h.assigned hr hactive with ⟨r₀, hr₀, hactive₀⟩ | ⟨hop, profile', hp', hid⟩
    · exact Or.inl ⟨id, r₀, profile, hr₀, hactive₀, hprofiles ▸ hprofile, huser⟩
    · obtain ⟨hfound, huser'⟩ := RideDb.find?_of_profileOf hp'
      rw [hprofiles, ← hid] at hprofile
      obtain rfl := Option.some.inj (hprofile.symm.trans hfound)
      exact Or.inr ⟨huser'.symm.trans huser, id, hop⟩
  obtain ⟨-, ⟨hok, hmarks⟩ | ⟨hfailed, hsame⟩⟩ := @request_marks ask env c now f
  · generalize ((FleetStep.request c ask now).after env f).locations = l' at hmarks
    cases hmarks with
    | kept hop =>
      rcases hbefore with hbefore | ⟨-, id, hid⟩
      · exact h.unmarked userId hbefore
      · exact absurd hid (hop id)
    | assigned hop =>
      by_cases hu : UUID.str userId = UUID.str c.actor.userId
      · rw [hu]
        exact Data.Expiring.del_self
      · refine (Data.Expiring.del_of_ne hu).trans (h.unmarked userId (hbefore.resolve_right fun hnew => hu ?_))
        rw [hnew.1]
    | @released rideId ride profile hop hride hdriver hprofile =>
      have hfree := not_busy_of_released h hunique hdraws hspares hop hok hride hdriver hprofile
      have hu : UUID.str userId ≠ UUID.str profile.userId := by
        intro hu
        rw [← UUID.str_injective hu] at hfree
        exact hfree hbusy
      refine (Data.Expiring.set_of_ne hu).trans (h.unmarked userId (hbefore.resolve_right ?_))
      rintro ⟨-, id, hid⟩
      rw [hid] at hop
      cases hop
  · rw [hsame]
    refine h.unmarked userId (hbefore.elim id fun hnew => ?_)
    obtain ⟨-, id, hid⟩ := hnew
    obtain ⟨hok, -⟩ | ⟨-, hrejected⟩ := @request_cases ask env c f.db hdraws
    · exact absurd hok hfailed
    generalize (RideStep.request c ask).after env f.db = db' at hbusy hrejected
    cases hrejected with
    | unchanged => exact hbusy
    | wrongCode hop => cases hid.symm.trans hop

/-- One step keeps the assignments and the markers in step. -/
theorem sound_after (h : f.Sound) (hpossible : step.Possible f) (hspares : step.SparesBusy env f) :
    (step.after env f).Sound := by
  cases step with
  | goOnline actor isReviewAccount location ask now =>
    have hadmit : Leads ask (fun base => base = f.db) (fun _ _ cur => SameDrivers f.db cur)
        (admitOnline env actor isReviewAccount) f.db f.db := leads_admitOnline actor isReviewAccount
    rcases hrun : (admitOnline env actor isReviewAccount).run ask f.db with ⟨e | u, db'⟩
    · have hafter : (FleetStep.goOnline actor isReviewAccount location ask now).after env f = { f with db := db' } := by
        dsimp only [FleetStep.after]
        rw [hrun]
      have hsame : SameDrivers f.db db' := by
        have hleft := hadmit.mono (fun b (hb : b = f.db) => (hb ▸ .refl f.db : SameDrivers f.db b)) fun _ _ _ h => h
        have hrun' := hleft.run fun _ _ _ h => h
        rw [hrun] at hrun'
        exact hrun'
      rw [hafter]
      exact ⟨hsame.wellAssigned h.assigned, fun u hbusy => h.unmarked u (hsame.busy h.assigned hbusy)⟩
    · have hafter : (FleetStep.goOnline actor isReviewAccount location ask now).after env f =
          { db := db'
            locations := (f.locations.updatePosition actor.userId location none now).setAvailable actor.userId true
              now } := by
        dsimp only [FleetStep.after]
        rw [hrun]
      have hok : ((admitOnline env actor isReviewAccount).run ask f.db).1 = .ok () := by rw [hrun]
      obtain ⟨_, hsame⟩ := hadmit.run_ok hok
      rw [hrun] at hsame
      rw [hafter]
      refine ⟨hsame.wellAssigned h.assigned, fun u hbusy => ?_⟩
      have hu : UUID.str u ≠ UUID.str actor.userId := by
        intro hu
        obtain rfl := UUID.str_injective hu
        exact hspares hok (hsame.busy h.assigned hbusy)
      exact (Data.Expiring.set_of_ne hu).trans (h.unmarked u (hsame.busy h.assigned hbusy))
  | goOffline userId =>
    refine ⟨h.assigned, fun u hbusy => ?_⟩
    have hnone := h.unmarked u hbusy
    by_cases hu : UUID.str u = UUID.str userId
    · exact (congrArg (f.locations.available.del (UUID.str userId)) hu).trans Data.Expiring.del_self
    · exact (Data.Expiring.del_of_ne hu).trans hnone
  | push userId location speedKmh now => exact ⟨h.assigned, h.unmarked⟩
  | elsewhere patch hpatch =>
    have hsame : SameDrivers f.db (patch f.db) := ⟨(hpatch f.db).ride?, (hpatch f.db).profiles⟩
    exact ⟨hsame.wellAssigned h.assigned, fun u hbusy => h.unmarked u (hsame.busy h.assigned hbusy)⟩
  | request c ask now =>
    obtain ⟨hunique, hdraws⟩ := hpossible
    refine ⟨?_, fun u hbusy => ?_⟩
    · rw [request_marks.1]
      exact wellAssigned_request hdraws h.assigned
    · rw [request_marks.1] at hbusy
      exact unmarked_request h hunique hdraws hspares hbusy

/-! ## Whole runs -/

/-- In every run in which nobody goes online while he has a ride, and in which no completion is repeated
while the driver has another ride, no driver who has a ride has an availability marker. -/
theorem inStep_run (env : Env) (steps : List FleetStep) (f : Fleet) (hdb : Unrequested f.db)
    (hpossible : EachStep (FleetStep.after env) FleetStep.Possible steps f)
    (hspares : EachStep (FleetStep.after env) (FleetStep.SparesBusy env) steps f) :
    ∀ f' ∈ statesAlong (FleetStep.after env) steps f, f'.InStep := by
  have hstart : f.Sound := by
    refine ⟨wellAssigned_of_unrequested hdb, fun userId hbusy => ?_⟩
    obtain ⟨id, r, -, hr, -⟩ := hbusy
    unfold RideDb.ride? at hr
    rw [hdb.rides] at hr
    cases hr
  have hsound : ∀ f' ∈ statesAlong (FleetStep.after env) steps f, f'.Sound :=
    inv_statesAlong (eachStep_and hpossible hspares) hstart fun step f' h hsound => sound_after hsound h.1 h.2
  exact fun f' hf' => (hsound f' hf').inStep

theorem busy_of_activeDriver (id : UUID) (profile : DriverProfile)
    (hride : (db.ride? id).bind Ride.activeDriver = some profile.id)
    (hprofile : db.profiles.find? profile.id = some profile) : db.Busy profile.userId := by
  obtain ⟨r, hr, hactive⟩ := Option.bind_eq_some_iff.mp hride
  exact ⟨id, r, profile, hr, hactive, hprofile, rfl⟩

theorem unrequested_fleet : Unrequested Sample.fleet.db := ⟨rfl, rfl, rfl⟩

/-- A driver who is available accepts a ride. -/
theorem inStep_run_accepted :
    (∃ f ∈ statesAlong (FleetStep.after Sample.env) Sample.onlineThenAccepted Sample.fleet, f.db.Busy 2) ∧
      ∀ f ∈ statesAlong (FleetStep.after Sample.env) Sample.onlineThenAccepted Sample.fleet, f.InStep := by
  refine ⟨?_, inStep_run Sample.env Sample.onlineThenAccepted Sample.fleet unrequested_fleet (by decide +kernel) ?_⟩
  · refine ⟨runSteps (FleetStep.after Sample.env) Sample.onlineThenAccepted Sample.fleet,
      mem_statesAlong.mpr ⟨_, [], (List.append_nil _).symm, rfl⟩, ?_⟩
    exact busy_of_activeDriver 50 { id := 20, userId := 2, status := .active } (by decide +kernel) (by decide +kernel)
  · refine ⟨?_, ?_, ?_, trivial⟩
    · rintro - ⟨id, r, -, hr, -⟩
      cases hr
    · intro _ rideId status ride profile hop
      cases hop
    · intro _ rideId status ride profile hop
      cases hop

/-- A driver who goes online once more while he has a ride is available. -/
theorem busy_driver_available : Unrequested Sample.fleet.db ∧
    EachStep (FleetStep.after Sample.env) FleetStep.Possible (Sample.onlineThenAccepted ++ [Sample.online 30])
      Sample.fleet ∧
    ¬ ∀ f ∈ statesAlong (FleetStep.after Sample.env) (Sample.onlineThenAccepted ++ [Sample.online 30]) Sample.fleet,
      f.InStep := by
  refine ⟨unrequested_fleet, by decide +kernel, fun h => ?_⟩
  have hlast := h (runSteps (FleetStep.after Sample.env) (Sample.onlineThenAccepted ++ [Sample.online 30])
    Sample.fleet) (mem_statesAlong.mpr ⟨_, [], (List.append_nil _).symm, rfl⟩)
  have hnone := (hlast 2 (busy_of_activeDriver 50 { id := 20, userId := 2, status := .active }
    (by decide +kernel) (by decide +kernel))).1
  have hmarked : ((runSteps (FleetStep.after Sample.env) (Sample.onlineThenAccepted ++ [Sample.online 30])
    Sample.fleet).locations.available (UUID.str 2)).isSome = true := by decide +kernel
  rw [hnone] at hmarked
  cases hmarked

end DiddiGo.Rides
