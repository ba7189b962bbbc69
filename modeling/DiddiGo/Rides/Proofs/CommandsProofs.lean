import DiddiGo.Rides.Availability
import DiddiGo.Rides.Coverage
import DiddiGo.Rides.Proofs.MatchingProofs

/-!
# What requests send

Apart from the search for candidates and from the commands that mark a driver, requests send nothing that
matters to the pool of drivers.
-/

namespace DiddiGo.Rides

open Transactions Prog

variable {α : Type} {env : Env} {m : Matching} {rideId userId : UUID} {clock : Clock} {ride : Ride}

/-- Neither a search nor a command that marks a driver. -/
def Query.Quiet (q : Query) : Prop := q.radius? = none ∧ q.marker? = none

/-! ## Matching -/

theorem asks_askFor {A : Query → Prop} {read : Reply → Option α} {q : Query} (h : A q) :
    (askFor read q : Action α).Asks A := by
  refine Asks.bind (.ask h) fun answer => ?_
  rcases answer with e | reply
  · exact .raise _
  · dsimp only
    cases read reply with
    | some a => exact .ret a
    | none => exact .raise _

theorem asks_tell {A : Query → Prop} {q : Query} (h : A q) : (tell q).Asks A := asks_askFor h

theorem asks_currentOffers (nth : Nat) : (currentOffers rideId nth).Asks Query.Quiet := by
  refine Asks.bind (asks_askFor ⟨rfl, rfl⟩) fun type => ?_
  cases type with
  | none => exact .ret _
  | string => exact asks_askFor ⟨rfl, rfl⟩
  | set => exact asks_askFor ⟨rfl, rfl⟩

theorem asks_canTakeRide : (canTakeRide env userId ride).Asks Query.Quiet := by
  unfold canTakeRide
  refine Asks.bind (.of_silent (.select _)) fun profile => ?_
  rcases profile with _ | profile
  · exact .ret _
  refine Asks.ite (.ret _) (Asks.ite (.ret _) ?_)
  refine Asks.bind (.of_silent (.select _)) fun vehicle => ?_
  rcases vehicle with _ | vehicle
  · exact .ret _
  refine Asks.bind (asks_askFor ⟨rfl, rfl⟩) fun blocked => Asks.ite (.ret _) ?_
  refine Asks.bind (asks_askFor ⟨rfl, rfl⟩) fun balance => Asks.ite (.ret _) ?_
  exact Asks.ite (.ret _) (.ret _)

theorem asks_eligibleDrivers {tried : List UUID} {size : Nat} (nearby eligible : List UUID) :
    (eligibleDrivers env ride tried size nearby eligible).Asks Query.Quiet := by
  induction nearby generalizing eligible with
  | nil => exact .ret _
  | cons u nearby ih =>
    unfold eligibleDrivers
    refine Asks.ite (ih _) (asks_canTakeRide.bind fun can => ?_)
    exact Asks.ite (Asks.ite (.ret _) (ih _)) (ih _)

theorem asks_driverEtas (pickup : GeoPoint) (positions : List (UUID × GeoPoint)) (us : List UUID) :
    (driverEtas pickup positions us).Asks Query.Quiet := by
  induction us with
  | nil => exact .ret _
  | cons u us ih =>
    refine Asks.bind ?_ fun _ => ih.bind fun _ => .ret _
    unfold driverEta
    cases positions.lookup u with
    | none => exact .ret _
    | some origin =>
      refine Asks.bind (.ask ⟨rfl, rfl⟩) fun answer => ?_
      split <;> exact .ret _

theorem asks_rankByEta (eligible : List UUID) (now : DateTime) :
    (rankByEta env m ride eligible now).Asks Query.Quiet := by
  unfold rankByEta
  cases ride.pickupLocation with
  | none => exact .ret _
  | some pickup =>
    refine Asks.ite (.ret _) (Asks.bind (.ask ⟨rfl, rfl⟩) fun answer => ?_)
    split
    · refine (asks_driverEtas _ _ _).bind fun etas => Asks.ite (.ret _) (Asks.bind ?_ fun _ => .ret _)
      unfold priorityBonuses
      refine Asks.ite (.ret _) (Asks.bind (.of_silent (.select _)) fun _ => ?_)
      refine Asks.bind (.ask ⟨rfl, rfl⟩) fun answer => ?_
      split <;> exact .ret _
    · exact .ret _

theorem asks_giveUp {now : DateTime} : (giveUp ride now).Asks Query.Quiet :=
  (Asks.of_silent (silent_transitionOrRaise _ _ _)).bind fun _ => (Asks.of_silent (silent_save _ _)).bind fun _ =>
    (Asks.of_silent (silent_recordStatusTransitions _)).bind fun _ =>
      (asks_tell (q := .clear ride.id) ⟨rfl, rfl⟩).bind fun _ => .ret _

theorem asks_declineOffer : (declineOffer rideId userId).Asks Query.Quiet := by
  have htype : (askFor Reply.keyType? (.offerType rideId 1) : Action _).Asks Query.Quiet := asks_askFor ⟨rfl, rfl⟩
  have hremove : (tell (.removeOffer rideId userId)).Asks Query.Quiet := asks_tell ⟨rfl, rfl⟩
  have hcount : (askFor Reply.count? (.countOffers rideId) : Action _).Asks Query.Quiet := asks_askFor ⟨rfl, rfl⟩
  have hdelete : (tell (.deleteOffers rideId)).Asks Query.Quiet := asks_tell ⟨rfl, rfl⟩
  refine htype.bind fun type => ?_
  cases type with
  | none => exact .ret _
  | string => exact hdelete.bind fun _ => .ret _
  | set => exact hremove.bind fun _ => hcount.bind fun _ => Asks.ite (hdelete.bind fun _ => .ret _) (.ret _)


/-- No command that marks a driver. -/
def Query.Unmarking (q : Query) : Prop := q.marker? = none

theorem Query.Quiet.unmarking {q : Query} (h : q.Quiet) : q.Unmarking := h.2

theorem asks_searchDrivers {location : GeoPoint} {radiusKm : ℚ} {limit : Nat} {requireAvailable : Bool} :
    (searchDrivers location radiusKm limit requireAvailable).Asks Query.Unmarking :=
  (asks_askFor (by exact rfl)).bind fun _ =>
    Asks.ite (.ret _) ((asks_askFor (by exact rfl)).bind fun _ => .ret _)

theorem asks_nextCandidates : (nextCandidates env m ride clock).Asks Query.Unmarking := by
  unfold nextCandidates
  cases ride.pickupLocation with
  | none => exact .ret _
  | some pickup =>
    refine (asks_askFor (by exact rfl)).bind fun tried => asks_searchDrivers.bind fun nearby => Asks.ite (.ret _) ?_
    refine ((asks_eligibleDrivers _ _).mono fun _ h => h.unmarking).bind fun eligible => ?_
    exact ((asks_rankByEta _ _).mono fun _ h => h.unmarking).bind fun _ => .ret _

theorem asks_tryMatch : (tryMatch env m ride clock).Asks Query.Unmarking := by
  have hgiveUp : (giveUp ride clock.gaveUpAt).Asks Query.Unmarking := asks_giveUp.mono fun _ h => h.unmarking
  unfold tryMatch
  refine Asks.ite (.ret _) (Asks.ite hgiveUp (Asks.ite hgiveUp ?_))
  refine ((asks_currentOffers 2).mono fun _ h => h.unmarking).bind fun outstanding => Asks.ite (.ret _) ?_
  exact asks_nextCandidates.bind fun _ => Asks.ite hgiveUp ((asks_tell (by exact rfl)).bind fun _ => .ret _)

theorem asks_decline : (decline env m rideId userId clock).Asks Query.Unmarking := by
  have hoffers : ∀ nth, (currentOffers rideId nth).Asks Query.Unmarking := fun nth =>
    (asks_currentOffers nth).mono fun _ h => h.unmarking
  have hdecline : (declineOffer rideId userId).Asks Query.Unmarking := asks_declineOffer.mono fun _ h => h.unmarking
  refine (Asks.of_silent (silent_loadActiveRide _)).bind fun _ => (hoffers 0).bind fun _ => ?_
  refine (Asks.of_silent (Silent.raiseIf _ _)).bind fun _ => hdecline.bind fun _ => ?_
  exact Asks.ite ((hoffers 2).bind fun _ => .ret _) asks_tryMatch

theorem asks_advanceExpiredOffer : (advanceExpiredOffer env m rideId clock).Asks Query.Unmarking := by
  refine ((asks_currentOffers 0).mono fun _ h => h.unmarking).bind fun _ => Asks.ite (.ret _) ?_
  refine (Asks.of_silent (Silent.select _)).bind fun found => ?_
  cases found with
  | none => exact .ret _
  | some ride => exact asks_tryMatch

/-! ## Rides -/

variable {actor : Actor}

theorem silent_requireBusinessDriver : (requireBusinessDriver actor).Silent := by
  unfold requireBusinessDriver
  by_cases hadmin : actor.isAdmin = true
  · rw [if_pos hadmin]
    exact .ret _
  · rw [if_neg hadmin]
    refine (Silent.select _).bind fun found => ?_
    cases found with
    | none => exact .raise _
    | some profile => exact .raiseIf _ _

theorem silent_isAssignedDriver : (isAssignedDriver ride userId).Silent := by
  unfold isAssignedDriver
  cases ride.driverId with
  | none => exact .ret _
  | some driverId => exact (Silent.select _).bind fun _ => .ret _

theorem silent_checkDriver (message : String) : (checkDriver ride actor message).Silent := by
  unfold checkDriver
  by_cases hadmin : actor.isAdmin = true
  · rw [if_pos hadmin]
    exact .ret _
  · rw [if_neg hadmin]
    exact silent_isAssignedDriver.bind fun _ => .raiseIf _ _

theorem silent_checkParticipant : (checkParticipant ride actor).Silent := by
  refine Silent.bind ?_ fun _ => .raiseIf _ _
  unfold isParticipant
  by_cases hpassenger : ride.passengerUserId = actor.userId
  · rw [if_pos hpassenger]
    exact .ret _
  · rw [if_neg hpassenger]
    exact silent_isAssignedDriver

theorem silent_recordRideOutcome (cfg : DispatchConfig) : (recordRideOutcome cfg ride).Silent := by
  unfold recordRideOutcome
  split
  · exact Silent.update _ _
  · exact .ret _

theorem silent_recordLastTransition : (recordLastTransition ride).Silent := by
  unfold recordLastTransition
  cases ride.statusHistory.getLast? with
  | some t => exact Silent.update _ _
  | none => exact .raise _

theorem silent_requestRide (r : RideRequest) (now : DateTime) : (requestRide r now).Silent := by
  unfold requestRide
  cases paymentMethodOf r.paymentMethod with
  | none => exact .raise _
  | some method =>
    refine (Silent.selectForUpdate _ _).bind fun found => ?_
    cases found with
    | none => exact .raise _
    | some quote =>
      refine (Silent.raiseIf _ _).bind fun _ => (Silent.raiseIf _ _).bind fun _ => ?_
      refine (Silent.raiseIf _ _).bind fun _ => (Silent.select _).bind fun _ => (Silent.raiseIf _ _).bind fun _ => ?_
      refine (silent_save _ _).bind fun _ => (Silent.update _ _).bind fun _ => ?_
      exact (silent_recordStatusTransitions _).bind fun _ => .ret _

theorem silent_finishWaiting (reason : String) (now : DateTime) : (finishWaiting env ride reason now).Silent := by
  unfold finishWaiting
  split
  · refine Silent.bind ?_ fun _ => (silent_save _ _).bind fun _ => .ret _
    exact silent_transitionOrRaise _ _ _ _
  · exact .raise _

theorem silent_stopWaiting (reason : String) (now : DateTime) :
    (stopWaiting env rideId actor reason now).Silent :=
  (silent_loadRide _).bind fun _ => (silent_checkDriver _).bind fun _ => silent_finishWaiting _ _

theorem silent_closeWait (reason : String) (now : DateTime) :
    (closeWait env ride actor reason now).Silent := by
  unfold closeWait
  by_cases hwaiting : ride.status = .waiting
  · rw [if_pos hwaiting]
    exact (silent_stopWaiting _ _).bind fun _ => silent_loadRide _
  · rw [if_neg hwaiting]
    exact .ret _

theorem asks_askMap {read : Reply → Option α} {q : Query} (h : q.Unmarking) :
    (askMap read q).Asks Query.Unmarking := by
  refine Asks.bind (.ask h) fun answer => ?_
  rcases answer with e | reply
  · cases e with
    | api e => exact .ret _
    | _ => exact .raise _
  · dsimp only
    cases read reply with
    | some a => exact .ret _
    | none => exact .raise _

theorem asks_ensureMapTraceStarted : (ensureMapTraceStarted ride).Asks Query.Unmarking := by
  unfold ensureMapTraceStarted
  refine Asks.ite (.ret _) ?_
  split
  · refine (asks_askMap (by exact rfl)).bind fun started => ?_
    cases started with
    | ok traceId => exact .ret _
    | error e => exact .ret _
  · exact .ret _

theorem asks_analyzeTrace (traceId : String) (points : List RideRoutePoint) (finishedAt : DateTime) :
    (analyzeTrace traceId points finishedAt).Asks Query.Unmarking := by
  refine (asks_askMap (by exact rfl)).bind fun sent => ?_
  cases sent with
  | error e => exact .ret _
  | ok _ =>
    refine (asks_askMap (by exact rfl)).bind fun finished => ?_
    cases finished with
    | error e => exact .ret _
    | ok _ => exact asks_askMap rfl

theorem asks_applyActualPricingIfPossible (finishedAt : DateTime) :
    (applyActualPricingIfPossible env ride finishedAt).Asks Query.Unmarking := by
  refine (Asks.of_silent (Silent.select _)).bind fun points => Asks.ite (.ret _) ?_
  refine asks_ensureMapTraceStarted.bind fun traced => ?_
  cases traced with
  | error e => exact .ret _
  | ok ride =>
    dsimp only
    cases ride.mapTraceId with
    | none => exact .ret _
    | some traceId =>
      refine (asks_analyzeTrace _ _ _).bind fun analysis => ?_
      cases analysis with
      | error e => exact .ret _
      | ok a => exact .ret _

theorem asks_priceIf (newStatus : RideStatus) (finishedAt : DateTime) :
    (priceIf env ride newStatus finishedAt).Asks Query.Unmarking := by
  refine Asks.ite ((asks_applyActualPricingIfPossible _).bind fun priced => ?_) (.ret _)
  split <;> exact .ret _

theorem asks_updateStatus (cfg : DispatchConfig) (newStatus : RideStatus) :
    (updateStatus env cfg rideId newStatus actor clock).Asks Query.Unmarking := by
  refine (Asks.of_silent (silent_loadRide _)).bind fun ride => ?_
  refine (Asks.of_silent (silent_checkDriver _)).bind fun _ => Asks.ite (.ret _) ?_
  refine (Asks.of_silent (Silent.raiseIf _ _)).bind fun _ => (Asks.of_silent (Silent.raiseIf _ _)).bind fun _ => ?_
  refine (Asks.ite (Asks.of_silent (silent_closeWait _ _)) (.ret _)).bind fun closed => ?_
  refine (asks_priceIf _ _).bind fun priced => ?_
  cases priced.transition newStatus clock.doneAt with
  | none => exact .raise _
  | some moved =>
    refine (Asks.of_silent (silent_save _ _)).bind fun _ => ?_
    refine (Asks.of_silent (silent_recordStatusTransitions _)).bind fun _ => ?_
    exact (Asks.of_silent (silent_recordRideOutcome _)).bind fun _ => .ret _

theorem asks_requestEarlyStop : (requestEarlyStop env rideId userId clock).Asks Query.Unmarking := by
  refine (Asks.of_silent (silent_loadRide _)).bind fun ride => (Asks.of_silent (Silent.raiseIf _ _)).bind fun _ => ?_
  refine (Asks.of_silent (Silent.raiseIf _ _)).bind fun _ => (Asks.of_silent (silent_save _ _)).bind fun _ => ?_
  exact ((Asks.of_silent (Silent.select _)).bind fun _ => .ret _).bind fun _ => .ret _

theorem asks_confirmEarlyStop (cfg : DispatchConfig) :
    (confirmEarlyStop env cfg rideId actor clock).Asks Query.Unmarking := by
  refine (Asks.of_silent (silent_loadRide _)).bind fun ride => (Asks.of_silent (silent_checkDriver _)).bind fun _ => ?_
  refine (Asks.of_silent (Silent.raiseIf _ _)).bind fun _ => Asks.bind ?_ fun _ => ?_
  · unfold checkEarlyStopRequest
    split
    · exact .of_silent (Silent.raiseIf _ _)
    · exact .raise _
  refine (Asks.of_silent (silent_closeWait _ _)).bind fun closed => ?_
  refine (asks_applyActualPricingIfPossible _).bind fun priced => ?_
  rcases priced with ⟨priced, _ | e⟩
  swap
  · exact .raise _
  dsimp only
  split
  · refine (Asks.of_silent (silent_transitionOrRaise _ _ _ _)).bind fun stopped => ?_
    refine (Asks.of_silent (silent_save _ _)).bind fun _ => ?_
    refine (Asks.of_silent (silent_recordStatusTransitions _)).bind fun _ => ?_
    exact (Asks.of_silent (silent_recordRideOutcome _)).bind fun _ => .ret _
  · exact .raise _

theorem silent_markArrived (position : Option GeoPoint) :
    (markArrived env rideId actor position clock).Silent := by
  refine (silent_loadRide _).bind fun ride => (silent_checkDriver _).bind fun _ => ?_
  by_cases harrived : ride.status = .arrived
  · rw [if_pos harrived]
    exact .ret _
  rw [if_neg harrived]
  refine (Silent.raiseIf _ _).bind fun _ => ?_
  split
  · refine (Silent.raiseIf _ _).bind fun _ => (silent_transitionOrRaise _ _ _ _).bind fun _ => ?_
    exact (silent_save _ _).bind fun _ => silent_recordLastTransition.bind fun _ => .ret _
  · exact .raise _

theorem asks_rejectCode (s : Settings) (now : DateTime) :
    (rejectCode s ride now : Action α).Asks Query.Unmarking := by
  unfold rejectCode
  have hmark : (Prog.mark (.wrongCode ride) : Action Unit).Asks Query.Unmarking := fun _ => .ret _
  refine hmark.bind fun _ => (Asks.of_silent (silent_save _ _)).bind fun _ => ?_
  have hcommit : (Prog.commitNow : Action Unit).Asks Query.Unmarking := by exact trivial
  exact hcommit.bind fun _ => Asks.ite (.raise _) (.raise _)

theorem asks_startRideWithCode (code : String) :
    (startRideWithCode env rideId actor code clock).Asks Query.Unmarking := by
  refine (Asks.of_silent (silent_loadRide _)).bind fun ride => (Asks.of_silent (silent_checkDriver _)).bind fun _ => ?_
  refine (Asks.of_silent (Silent.raiseIf _ _)).bind fun _ => (Asks.of_silent (Silent.raiseIf _ _)).bind fun _ => ?_
  refine (Asks.of_silent (Silent.raiseIf _ _)).bind fun _ => Asks.ite (asks_rejectCode _ _) ?_
  refine (Asks.of_silent (silent_transitionOrRaise _ _ _ _)).bind fun started => ?_
  refine asks_ensureMapTraceStarted.bind fun traced => ?_
  cases traced with
  | error e => exact .raise _
  | ok traced =>
    refine (Asks.of_silent (silent_save _ _)).bind fun _ => ?_
    exact (Asks.of_silent silent_recordLastTransition).bind fun _ => .ret _

theorem silent_markPassengerNoShow : (markPassengerNoShow env rideId actor clock).Silent := by
  refine (silent_loadRide _).bind fun ride => (silent_checkDriver _).bind fun _ => ?_
  split
  · refine (Silent.raiseIf _ _).bind fun _ => (silent_transitionOrRaise _ _ _ _).bind fun _ => ?_
    exact (silent_save _ _).bind fun _ => silent_recordLastTransition.bind fun _ => .ret _
  · exact .raise _

theorem silent_startWaiting (speed : Option ℚ) : (startWaiting env rideId actor speed clock).Silent := by
  refine (silent_loadRide _).bind fun ride => (silent_checkDriver _).bind fun _ => ?_
  by_cases hwaiting : ride.status = .waiting
  · rw [if_pos hwaiting]
    exact .ret _
  rw [if_neg hwaiting]
  refine (Silent.raiseIf _ _).bind fun _ => ?_
  cases speed with
  | none => exact .raise _
  | some speed =>
    refine (Silent.raiseIf _ _).bind fun _ => (silent_transitionOrRaise _ _ _ _).bind fun _ => ?_
    exact (silent_save _ _).bind fun _ => .ret _

theorem silent_stopWaitingIfVehicleMoves (now : DateTime) :
    (stopWaitingIfVehicleMoves env userId now).Silent := by
  refine (Silent.select _).bind fun found => ?_
  cases found with
  | none => exact .ret _
  | some ride =>
    dsimp only
    by_cases hwaiting : ride.status = .waiting
    · rw [if_pos hwaiting]
      exact (silent_stopWaiting _ _).bind fun _ => .ret _
    · rw [if_neg hwaiting]
      exact .ret _

theorem silent_supplementAmount (type : String) (amount : Option Decimal) :
    (supplementAmount type amount).Silent := by
  unfold supplementAmount
  cases supplementFixedAmounts.lookup type with
  | some fixed => exact (Silent.raiseIf _ _).bind fun _ => .ret _
  | none =>
    refine (Silent.raiseIf _ _).bind fun _ => ?_
    cases amount.filter fun a => 0 < a ∧ a ≤ supplementOtherMax with
    | none => exact .raise _
    | some a => exact .ret _

theorem silent_supplementLabel (type : String) (customLabel : Option String) :
    (supplementLabel type customLabel).Silent := by
  unfold supplementLabel
  by_cases hother : type = "other"
  · rw [if_pos hother]
    exact (Silent.raiseIf _ _).bind fun _ => .ret _
  · rw [if_neg hother]
    exact .ret _

theorem silent_addSupplement (type : String) (amount : Option Decimal) (customLabel : Option String)
    (supplementId : UUID) (now : DateTime) :
    (addSupplement rideId actor type amount customLabel supplementId now).Silent := by
  have hactive : ∀ action, (requireActiveRideForDriver rideId actor action).Silent := fun _ =>
    (silent_loadRide _).bind fun _ => (silent_checkDriver _).bind fun _ => (Silent.raiseIf _ _).bind fun _ => .ret _
  unfold addSupplement
  refine (hactive _).bind fun _ => ?_
  generalize Data.lower (Data.strip type) = type
  refine (silent_supplementAmount _ _).bind fun _ => (silent_supplementLabel _ _).bind fun _ => ?_
  exact (Silent.writeOrRaise _ _ _ _).bind fun _ => .ret _

theorem silent_decideSupplement (supplementId : UUID) (decision : SupplementStatus) (now : DateTime) :
    (decideSupplement rideId supplementId actor decision now).Silent := by
  unfold decideSupplement
  refine (silent_loadRide _).bind fun ride => (Silent.raiseIf _ _).bind fun _ => ?_
  refine (Silent.raiseIf _ _).bind fun _ => Silent.bind ?_ fun found => ?_
  · exact (Silent.selectForUpdate _ _).bind fun _ => Silent.selectForUpdate _ _
  cases found with
  | none => exact .raise _
  | some supplement =>
    dsimp only
    by_cases hdone : supplement.status = decision
    · rw [if_pos hdone]
      exact .ret _
    rw [if_neg hdone]
    refine (Silent.raiseIf _ _).bind fun _ => Silent.bind ?_ fun _ => ?_
    · refine (Silent.select _).bind fun row => ?_
      cases row with
      | none => exact .raise _
      | some row => exact Silent.update _ _
    · exact (Silent.select _).bind fun _ => (silent_save _ _).bind fun _ => .ret _

theorem silent_cancel (cfg : DispatchConfig) (reason : String) :
    (cancel env cfg rideId reason actor clock).Silent := by
  refine (Silent.raiseIf _ _).bind fun _ => (silent_loadRide _).bind fun ride => ?_
  refine silent_isAssignedDriver.bind fun _ => (Silent.raiseIf _ _).bind fun _ => (Silent.raiseIf _ _).bind fun _ => ?_
  refine (Silent.raiseIf _ _).bind fun _ => (Silent.raiseIf _ _).bind fun _ => Silent.bind ?_ fun ride => ?_
  · unfold abandonWait
    by_cases hwaiting : ride.status = .waiting
    · rw [if_pos hwaiting]
      exact silent_finishWaiting _ _
    · rw [if_neg hwaiting]
      exact .ret _
  refine (silent_transitionOrRaise _ _ _ _).bind fun _ => (silent_save _ _).bind fun _ => ?_
  exact (silent_recordRideOutcome _).bind fun _ => .ret _

theorem silent_createShareLink (token : String) (now : DateTime) :
    (createShareLink rideId actor token now).Silent :=
  (silent_loadRide _).bind fun _ => silent_checkParticipant.bind fun _ => (silent_save _ _).bind fun _ => .ret _

theorem asks_requestEmergency (note : Option String) (eventId : UUID) (now : DateTime) :
    (requestEmergency env rideId actor note eventId now).Asks Query.Unmarking := by
  refine (Asks.of_silent (silent_loadRide _)).bind fun ride => ?_
  refine (Asks.of_silent silent_checkParticipant).bind fun _ => (Asks.of_silent (Silent.select _)).bind fun latest => ?_
  refine Asks.bind ?_ fun _ => (Asks.of_silent (silent_save _ _)).bind fun _ => ?_
  · unfold checkEmergencyRate
    cases latest with
    | none => exact .ret _
    | some event => exact .of_silent (Silent.raiseIf _ _)
  refine (asks_askFor (by exact rfl)).bind fun contact => (asks_askFor (by exact rfl)).bind fun results => ?_
  exact (Asks.of_silent (Silent.writeOrRaise _ _ _ _)).bind fun _ => .ret _

end DiddiGo.Rides
