import DiddiGo.Rides.Proofs.RoutesProofs

/-!
# Every ride request has one of its effects

The matching steps, the requests that contain them, and the effect of any request.
-/

namespace DiddiGo.Rides

open Data (Json Keyed Table)
open Transactions Prog

variable {α : Type} {ask : Query → Answer} {env : Env} {c : RideCall} {db cur base : RideDb} {r : Ride}

/-! ## Searching drivers -/

theorem reads_currentOffers (rideId : UUID) (nth : Nat) : (currentOffers rideId nth).Reads := by
  refine Reads.bind (reads_askFor _ _) fun type => ?_
  cases type with
  | none => exact Reads.ret _
  | _ => exact reads_askFor _ _

theorem reads_declineOffer (rideId driverUserId : UUID) : (declineOffer rideId driverUserId).Reads := by
  refine Reads.bind (reads_askFor _ _) fun type => ?_
  cases type with
  | none => exact Reads.ret _
  | string => exact Reads.bind (reads_tell _) fun _ => Reads.ret _
  | set =>
    refine Reads.bind (reads_tell _) fun _ => Reads.bind (reads_askFor _ _) fun remaining => ?_
    dsimp only
    split_ifs
    · exact Reads.bind (reads_tell _) fun _ => Reads.ret _
    · exact Reads.ret _

theorem reads_searchDrivers (location : GeoPoint) (radiusKm : ℚ) (limit : Nat) (requireAvailable : Bool) :
    (searchDrivers location radiusKm limit requireAvailable).Reads := by
  refine Reads.bind (reads_askFor _ _) fun members => ?_
  by_cases hnone : members = []
  · rw [if_pos hnone]
    exact Reads.ret _
  · rw [if_neg hnone]
    exact Reads.bind (reads_askFor _ _) fun _ => Reads.ret _

theorem reads_canTakeRide (env : Env) (userId : UUID) (ride : Ride) :
    (canTakeRide env userId ride).Reads := by
  refine Reads.bind (Reads.select _) fun profile => ?_
  cases profile with
  | none => exact Reads.ret _
  | some profile =>
    dsimp only
    split_ifs
    · exact Reads.ret _
    · exact Reads.ret _
    refine Reads.bind (Reads.select _) fun vehicle => ?_
    cases vehicle with
    | none => exact Reads.ret _
    | some vehicle =>
      refine Reads.bind (reads_askFor _ _) fun blocked => ?_
      by_cases hblocked : blocked = true
      · rw [if_pos hblocked]
        exact Reads.ret _
      rw [if_neg hblocked]
      refine Reads.bind (reads_askFor _ _) fun balance => ?_
      split_ifs <;> exact Reads.ret _

theorem reads_eligibleDrivers (env : Env) (ride : Ride) (tried : List UUID) (size : Nat)
    (nearby eligible : List UUID) : (eligibleDrivers env ride tried size nearby eligible).Reads := by
  induction nearby generalizing eligible with
  | nil => exact Reads.ret _
  | cons userId nearby ih =>
    unfold eligibleDrivers
    by_cases htried : userId ∈ tried
    · rw [if_pos htried]
      exact ih eligible
    · rw [if_neg htried]
      refine Reads.bind (reads_canTakeRide _ _ _) fun can => ?_
      split_ifs
      · exact Reads.ret _
      · exact ih _
      · exact ih _

theorem reads_driverEta (pickup : GeoPoint) (positions : List (UUID × GeoPoint)) (userId : UUID) :
    (driverEta pickup positions userId).Reads := by
  unfold driverEta
  cases positions.lookup userId with
  | none => exact Reads.ret _
  | some origin =>
    refine Reads.bind (Reads.ask _) fun a => ?_
    split <;> exact Reads.ret _

theorem reads_driverEtas (pickup : GeoPoint) (positions : List (UUID × GeoPoint))
    (userIds : List UUID) : (driverEtas pickup positions userIds).Reads := by
  induction userIds with
  | nil => exact Reads.ret _
  | cons userId rest ih =>
    exact Reads.bind (reads_driverEta _ _ _) fun _ => Reads.bind ih fun _ => Reads.ret _

theorem reads_priorityBonuses (m : Matching) (userIds : List UUID) (now : DateTime) :
    (priorityBonuses m userIds now).Reads := by
  unfold priorityBonuses
  split_ifs
  · exact Reads.ret _
  · refine Reads.bind (Reads.select _) fun ids => Reads.bind (Reads.ask _) fun a => ?_
    split <;> exact Reads.ret _

theorem reads_rankByEta (env : Env) (m : Matching) (ride : Ride) (eligible : List UUID)
    (now : DateTime) : (rankByEta env m ride eligible now).Reads := by
  unfold rankByEta
  cases ride.pickupLocation with
  | none => exact Reads.ret _
  | some pickup =>
    dsimp only
    split_ifs
    · exact Reads.ret _
    refine Reads.bind (Reads.ask _) fun a => ?_
    split
    · refine Reads.bind (reads_driverEtas _ _ _) fun etas => ?_
      split_ifs
      · exact Reads.ret _
      · exact Reads.bind (reads_priorityBonuses _ _ _) fun _ => Reads.ret _
    · exact Reads.ret _

theorem reads_nextCandidates (env : Env) (m : Matching) (ride : Ride) (clock : Clock) :
    (nextCandidates env m ride clock).Reads := by
  unfold nextCandidates
  cases ride.pickupLocation with
  | none => exact Reads.ret _
  | some pickup =>
    refine Reads.bind (reads_askFor _ _) fun tried => ?_
    refine Reads.bind (reads_searchDrivers _ _ _ _) fun nearby => ?_
    split_ifs
    · exact Reads.ret _
    · exact Reads.bind (reads_eligibleDrivers _ _ _ _ _ _) fun _ =>
        Reads.bind (reads_rankByEta _ _ _ _ _) fun _ => Reads.ret _

/-! ## Matching steps -/

/-- The search for a driver goes on, or it is given up. -/
def Searched (cur : RideDb) (r : Ride) (now : DateTime) (cur' : RideDb) : Prop :=
  cur' = cur ∨ r.status = .requested ∧ ∃ lost, lost = r.enter .noDriverFound now ∧ cur.Admits lost ∧
    cur' = cur.move lost lost.statusHistory []

theorem leads_giveUp {E : RideDb → Prop} {now : DateTime} (hE : E base)
    (hr : cur.ride? r.id = some r) (hs : r.status = .requested) :
    Leads ask E (fun _ base' cur' => base' = base ∧ Searched cur r now cur') (giveUp r now) base cur := by
  unfold giveUp
  refine leads_transitionOrRaise hE (by rw [hs]; decide) fun _ => ?_
  refine leads_save hE hr fun hfree => leads_recordStatusTransitions (leads_tell hE ?_)
  exact Leads.ret ⟨rfl, Or.inr ⟨hs, _, rfl, hfree, (RideDb.move_logged _ _).symm⟩⟩

theorem leads_tryMatch {E : RideDb → Prop} {m : Matching} {clock : Clock} (hE : E base)
    (hr : cur.ride? r.id = some r) :
    Leads ask E (fun _ base' cur' => base' = base ∧ Searched cur r clock.gaveUpAt cur')
      (tryMatch env m r clock) base cur := by
  unfold tryMatch
  by_cases hs : r.status = .requested
  swap
  · rw [if_pos hs]
    exact Leads.ret ⟨rfl, Or.inl rfl⟩
  rw [if_neg (not_not.mpr hs)]
  split_ifs
  · exact leads_giveUp hE hr hs
  · exact leads_giveUp hE hr hs
  refine Leads.bind_reads (reads_currentOffers _ _) hE fun outstanding => ?_
  split_ifs
  · exact Leads.ret ⟨rfl, Or.inl rfl⟩
  refine Leads.bind_reads (reads_nextCandidates _ _ _ _) hE fun candidates => ?_
  split_ifs
  · exact leads_giveUp hE hr hs
  · exact leads_tell hE (Leads.ret ⟨rfl, Or.inl rfl⟩)

theorem acts_tryMatch {m : Matching} (hr : db.ride? r.id = some r)
    (hop : c.op = .decline r.id ∨ c.op = .expireWave r.id) :
    Acts env ask c db (tryMatch env m r c.clock) := by
  have hnd : ∀ rideId id accepted, c.op ≠ .decideSupplement rideId id accepted := by
    rcases hop with h | h <;> rw [h] <;> exact fun _ _ _ h => nomatch h
  refine (leads_tryMatch .unchanged hr).mono (fun _ h => h) ?_
  rintro _ base cur ⟨hbase, rfl | ⟨hs, lost, hlost, hfree, rfl⟩⟩
  · exact ⟨hbase, .unchanged⟩
  · exact ⟨hbase, .moved hr (.lost hop hs hlost) hnd hfree⟩

theorem leads_loadActiveRide {E : RideDb → Prop} {Q : α → RideDb → RideDb → Prop} {rideId : UUID}
    {f : Ride → Action α} (hE : E base)
    (h : ∀ r, cur.ride? rideId = some r → r.status = .requested → Leads ask E Q (f r) base cur) :
    Leads ask E Q (loadActiveRide rideId >>= f) base cur := by
  refine Leads.bind (R := fun r base' cur' => base' = base ∧ cur' = cur ∧ cur.ride? rideId = some r ∧
    r.status = .requested) ?_ ?_
  · refine leads_loadRide hE fun r hr => leads_apiErrorIf hE fun _ => leads_apiErrorIf hE fun hs => ?_
    exact Leads.ret ⟨rfl, rfl, hr, not_not.mp hs⟩
  · rintro r _ _ ⟨rfl, rfl, hr, hs⟩
    exact h r hr hs

theorem acts_assignDriver {profile : DriverProfile} {vehicle : Vehicle} (hop : c.op = .accept r.id)
    (hr : db.ride? r.id = some r) (hs : r.status = .requested)
    (hprofile : db.profileOf c.actor.userId = some profile) (hactive : profile.status = .active) :
    Acts env ask c db (assignDriver r profile.id vehicle.id c.clock.now) := by
  have hE : Rejected env ask c db db := .unchanged
  unfold Acts assignDriver
  refine leads_transitionOrRaise hE ?_ fun _ => leads_save hE hr fun hfree => ?_
  · rw [show (r.assign profile.id vehicle.id).status = r.status from rfl, hs]
    decide
  refine leads_recordStatusTransitions (Leads.ret ⟨rfl, ?_⟩)
  rw [← RideDb.move_logged]
  exact .moved hr (.accepted hop hs hprofile hactive rfl) (not_decides hop fun _ _ _ h => nomatch h)
    hfree

theorem acts_accept {rideId : UUID} (hop : c.op = .accept rideId) :
    Acts env ask c db (accept rideId c.actor.userId c.clock.now) := by
  have hE : Rejected env ask c db db := .unchanged
  unfold Acts accept
  refine leads_loadActiveRide hE fun r hr hs => ?_
  obtain rfl := RideDb.id_of_ride? hr
  refine Leads.bind_reads (reads_currentOffers _ _) hE fun holders => ?_
  refine leads_apiErrorIf hE fun _ => leads_apiErrorIf hE fun _ => Leads.bind_select ?_
  cases hprofile : (db.profileOf c.actor.userId).filter fun p => p.status = .active with
  | none => exact leads_apiError hE
  | some profile =>
    obtain ⟨hfound, hactive⟩ := Option.filter_eq_some_iff.mp hprofile
    refine leads_apiErrorIf hE fun _ => Leads.bind_select ?_
    cases db.vehicles.rows.find? fun v => v.driverId = profile.id ∧ v.active with
    | none => exact leads_apiError hE
    | some vehicle =>
      refine Leads.bind_reads (reads_askFor _ _) hE fun won => leads_apiErrorIf hE fun _ => ?_
      have hassign : Acts env ask c db (Prog.tryCatch
          (assignDriver r profile.id vehicle.id c.clock.now) fun e => do
            tell (.releaseClaim r.id)
            if e = .integrity then
              apiError 409 "DRIVER_ALREADY_ON_ACTIVE_RIDE"
                "Ce chauffeur est deja affecte a une course active."
            else throw e) := by
        refine Leads.tryCatch (acts_assignDriver hop hr hs hfound (by simpa using hactive)) ?_
        intro e base' cur' hbase
        refine leads_tell hbase ?_
        split_ifs
        · exact leads_apiError hbase
        · exact leads_throw hbase
      refine Leads.bind hassign ?_
      rintro matched _ cur ⟨rfl, heffect⟩
      exact leads_tell hE (leads_tell hE (Leads.ret ⟨rfl, heffect⟩))

theorem acts_decline {m : Matching} {rideId : UUID} (hop : c.op = .decline rideId) :
    Acts env ask c db (decline env m rideId c.actor.userId c.clock) := by
  have hE : Rejected env ask c db db := .unchanged
  unfold Acts decline
  refine leads_loadActiveRide hE fun r hr hs => ?_
  obtain rfl := RideDb.id_of_ride? hr
  refine Leads.bind_reads (reads_currentOffers _ _) hE fun holders => leads_apiErrorIf hE fun _ => ?_
  refine Leads.bind_reads (reads_declineOffer _ _) hE fun active => ?_
  split_ifs
  · exact Leads.bind_reads (reads_currentOffers _ _) hE fun _ => Leads.ret ⟨rfl, .unchanged⟩
  · exact acts_tryMatch hr (Or.inl hop)

theorem acts_advanceExpiredOffer {m : Matching} {rideId : UUID} (hop : c.op = .expireWave rideId) :
    Acts env ask c db (advanceExpiredOffer env m rideId c.clock) := by
  have hE : Rejected env ask c db db := .unchanged
  unfold Acts advanceExpiredOffer
  refine Leads.bind_reads (reads_currentOffers _ _) hE fun outstanding => ?_
  split_ifs
  · exact Leads.ret ⟨rfl, .unchanged⟩
  refine Leads.bind_select ?_
  cases hr : db.ride? rideId with
  | none =>
    rw [show (db.rides.find? rideId).map Ride.toDomain = none from hr]
    exact Leads.ret ⟨rfl, .unchanged⟩
  | some r =>
    rw [show (db.rides.find? rideId).map Ride.toDomain = some r from hr]
    obtain rfl := RideDb.id_of_ride? hr
    exact acts_tryMatch hr (Or.inr hop)

/-! ## Requesting a ride -/

theorem leads_requestRide {request : RideRequest} {E : RideDb → Prop} {Q : α → RideDb → RideDb → Prop}
    {f : Ride → Action α} (hE : E base) (hactor : request.passengerUserId = c.actor.userId)
    (hfresh : cur.ride? request.rideId = none)
    (h : ∀ quote ride, Creates c cur quote ride → ride.toDomain = ride →
      Leads ask E Q (f ride) base (cur.createRide ride quote.id c.clock.now)) :
    Leads ask E Q (requestRide request c.clock.now >>= f) base cur := by
  refine Leads.bind (R := fun ride base' cur' => base' = base ∧ ∃ quote, Creates c cur quote ride ∧
    ride.toDomain = ride ∧ cur' = cur.createRide ride quote.id c.clock.now) ?_ ?_
  · unfold requestRide
    cases paymentMethodOf request.paymentMethod with
    | none => exact leads_apiError hE
    | some method =>
      refine Leads.bind_selectForUpdate ?_
      cases hquote : cur.quotes.find? request.quoteId with
      | none => exact leads_apiError hE
      | some quote =>
        have hid : quote.id = request.quoteId := Table.key_of_find? hquote
        refine leads_apiErrorIf hE fun _ => leads_apiErrorIf hE fun hunused => ?_
        refine leads_apiErrorIf hE fun _ => Leads.bind_reads (Reads.select _) hE fun _ => ?_
        refine leads_apiErrorIf hE fun _ => leads_save_new hE hfresh fun hfree => ?_
        refine Leads.bind_update (Leads.ret ⟨rfl, quote, ?_, rfl, rfl⟩)
        exact ⟨by rw [hid]; exact hquote, Option.not_isSome_iff_eq_none.mp hunused, hfresh, hfree,
          request, method, hactor, rfl, rfl⟩
  · rintro ride _ _ ⟨rfl, quote, hcreates, hdomain, rfl⟩
    exact h quote ride hcreates hdomain

theorem acts_createRide {isReviewAccount : Bool} {quoteId rideId : UUID} {paymentMethod : String}
    {scheduledAt : Option DateTime}
    (hop : c.op = .createRide isReviewAccount quoteId paymentMethod scheduledAt rideId)
    (hfresh : db.ride? rideId = none) : Acts env ask c db (c.action env) := by
  have hE : Rejected env ask c db db := .unchanged
  unfold Acts RideCall.action
  rw [hop]
  dsimp only
  refine leads_requestRide hE rfl hfresh fun quote ride hcreates hdomain => ?_
  have hstored : (db.createRide ride quote.id c.clock.now).ride? ride.id = some ride := by
    rw [RideDb.ride?_createRide hcreates.fresh, if_pos rfl, hdomain]
  refine Leads.ignore ((leads_tryMatch hE hstored).mono (fun _ h => h) ?_)
  rintro _ base cur ⟨hbase, rfl | ⟨-, lost, hlost, -, rfl⟩⟩
  · exact ⟨hbase, .created hcreates⟩
  · exact ⟨hbase, .createdLost hcreates hlost⟩

/-! ## Any request -/

theorem reads_releaseDriver (ride : Ride) : (releaseDriver ride).Reads := by
  refine Reads.bind (reads_tell _) fun _ => ?_
  cases ride.driverId with
  | none => exact Reads.ret _
  | some driverId =>
    refine Reads.bind (Reads.select _) fun profile => ?_
    cases profile with
    | none => exact Reads.ret _
    | some profile => exact reads_tell _

theorem reads_releaseDriverOf (rideId : UUID) : (releaseDriverOf rideId).Reads :=
  Reads.bind (reads_loadRide rideId) fun r => reads_releaseDriver r

theorem acts_updateStatusRoute {rideId : UUID} {status : String}
    (hop : c.op = .updateStatus rideId status) :
    Acts env ask c db (updateStatusRoute env c.config rideId status c.actor c.clock) := by
  unfold updateStatusRoute
  refine leads_requireBusinessDriver .unchanged fun hactor => ?_
  cases hnew : rideStatusOf status with
  | none => exact Acts.reads (Reads.raise _)
  | some newStatus =>
    refine Acts.then_reads (acts_updateStatus hop hnew hactor) fun _ => ?_
    split_ifs
    · exact reads_releaseDriverOf rideId
    · exact Reads.ret ()

theorem acts_action (hdraws : (RideStep.request c ask).Draws db) : Acts env ask c db (c.action env) := by
  have hbusiness := reads_requireBusinessDriver c.actor
  cases hop : c.op with
  | createRide isReviewAccount quoteId paymentMethod scheduledAt rideId =>
    refine acts_createRide hop (hdraws rideId ?_)
    obtain ⟨op, actor, config, clock⟩ := c
    obtain rfl := hop
    rfl
  | accept rideId =>
    unfold RideCall.action
    rw [hop]
    exact Acts.bind_reads hbusiness fun _ => (acts_accept hop).ignore
  | decline rideId =>
    unfold RideCall.action
    rw [hop]
    exact Acts.bind_reads hbusiness fun _ => (acts_decline hop).ignore
  | expireWave rideId =>
    unfold RideCall.action
    rw [hop]
    exact (acts_advanceExpiredOffer hop).ignore
  | updateStatus rideId status =>
    unfold RideCall.action
    rw [hop]
    exact acts_updateStatusRoute hop
  | requestEarlyStop rideId =>
    unfold RideCall.action
    rw [hop]
    exact (acts_requestEarlyStop hop).ignore
  | confirmEarlyStop rideId =>
    unfold RideCall.action
    rw [hop]
    exact Acts.bind_reads hbusiness fun _ =>
      (acts_confirmEarlyStop hop).then_reads fun _ => reads_releaseDriverOf rideId
  | markArrived rideId =>
    unfold RideCall.action
    rw [hop]
    refine Acts.bind_reads hbusiness fun _ => leads_askFor .unchanged fun position reply ha hread => ?_
    have hposition : ask (.position c.actor.userId) = .ok (.position position) := by
      rw [ha]
      cases reply <;> simp_all [Reply.position?]
    exact (acts_markArrived hop hposition).ignore
  | startRide rideId code =>
    unfold RideCall.action
    rw [hop]
    exact Acts.bind_reads hbusiness fun _ => (acts_startRideWithCode hop).ignore
  | markNoShow rideId =>
    unfold RideCall.action
    rw [hop]
    exact Acts.bind_reads hbusiness fun _ =>
      (acts_markPassengerNoShow hop).then_reads fun _ => reads_releaseDriverOf rideId
  | startWaiting rideId =>
    unfold RideCall.action
    rw [hop]
    refine leads_requireBusinessDriver .unchanged fun hactor => leads_askFor .unchanged ?_
    intro speed reply hreply hspeed
    cases reply with
    | speed kmh =>
      obtain rfl : kmh = speed := Option.some.inj hspeed
      exact (acts_startWaiting hop hactor hreply).ignore
    | _ => cases hspeed
  | stopWaiting rideId =>
    unfold RideCall.action
    rw [hop]
    refine Acts.bind_reads hbusiness fun _ => Acts.ignore ?_
    cases hr : db.ride? rideId with
    | none =>
      unfold Acts stopWaiting
      refine leads_loadRide .unchanged fun r hr' => ?_
      rw [hr] at hr'
      cases hr'
    | some r =>
      obtain rfl := RideDb.id_of_ride? hr
      exact acts_stopWaiting hr (Or.inl hop) fun hmay => hmay.symm.imp_right fun h => ⟨hop, h⟩
  | pushSpeed speedKmh =>
    unfold RideCall.action
    rw [hop]
    dsimp only
    split_ifs
    · exact acts_stopWaitingIfVehicleMoves hop
    · exact Acts.reads (Reads.ret ())
  | addSupplement rideId type amount customLabel supplementId =>
    unfold RideCall.action
    rw [hop]
    exact Acts.bind_reads hbusiness fun _ => acts_addSupplement.ignore
  | decideSupplement rideId supplementId accepted =>
    unfold RideCall.action
    rw [hop]
    exact (acts_decideSupplement hop).ignore
  | cancel rideId reason =>
    unfold RideCall.action
    rw [hop]
    exact (acts_cancel hop).then_reads fun _ => reads_releaseDriverOf rideId
  | createShareLink rideId token =>
    unfold RideCall.action
    rw [hop]
    exact (acts_createShareLink hop).ignore
  | requestEmergency rideId note eventId =>
    unfold RideCall.action
    rw [hop]
    exact (acts_requestEmergency hop).ignore

/-- A request succeeds with one of its effects, or it is rejected. -/
theorem request_cases (hdraws : (RideStep.request c ask).Draws db) :
    RideStep.Succeeds env c ask db ∧ Effect env ask c db ((RideStep.request c ask).after env db) ∨
      ¬ RideStep.Succeeds env c ask db ∧
        Rejected env ask c db ((RideStep.request c ask).after env db) :=
  (acts_action hdraws).effect

/-- What a request leaves behind is one of its effects. -/
theorem effect_request (hdraws : (RideStep.request c ask).Draws db) :
    Effect env ask c db ((RideStep.request c ask).after env db) := by
  rcases @request_cases ask env c db hdraws with ⟨-, h⟩ | ⟨-, h⟩
  · exact h
  · generalize (RideStep.request c ask).after env db = db' at h ⊢
    cases h with
    | unchanged => exact .unchanged
    | wrongCode hop hr hmove hfree =>
      exact .moved hr hmove (not_decides hop fun _ _ _ h => nomatch h) hfree

end DiddiGo.Rides
