import DiddiGo.Rides.MatchingService

/-!
# Ride routes

The complete requests of the ride module: what a route does around its use case, the timer of a wave, and
the push of a moving vehicle.
-/

namespace DiddiGo.Rides

open Data (Json)
open Transactions

/-- `require_business_driver`: an active driver profile, or an administrator. -/
def requireBusinessDriver (actor : Actor) : Action Unit :=
  if actor.isAdmin then return () else do
    match ← findProfileByUserId actor.userId with
    | none => apiError 404 "DRIVER_PROFILE_NOT_FOUND" "Aucun profil chauffeur pour ce compte."
    | some profile =>
      apiErrorIf (profile.status ≠ .active) 403 "DRIVER_NOT_VERIFIED"
        "Votre profil chauffeur n'est pas encore validÃ©."
        (.ofMembers [("status", .str profile.status.value)])

/-- `RideStatus(text)`; `none` is a `ValueError`. -/
def rideStatusOf (text : String) : Option RideStatus :=
  [RideStatus.requested, .matched, .driverEnRoute, .arrived, .inProgress, .waiting, .completed,
    .cancelledByPassenger, .cancelledByDriver, .noDriverFound].find? fun s => s.value = text

/-- `dispatch_config_from_settings`. -/
def dispatchConfigFromSettings (s : Settings) : DispatchConfig where
  searchRadiusStepKm := s.matchingSearchRadiusStepKm
  searchRadiusMaxKm := s.matchingSearchRadiusMaxKm
  searchBudgetSeconds := s.matchingSearchBudgetSeconds
  etaShortlistSize := s.matchingEtaShortlistSize
  priorityWindowDays := s.matchingPriorityWindowDays
  priorityCapSeconds := s.matchingPriorityCapSeconds
  prioritySecondsPerPoint := s.matchingPrioritySecondsPerPoint
  pointsRideCompleted := s.matchingPriorityPointsRideCompleted
  pointsRideCancelledByDriver := s.matchingPriorityPointsRideCancelledByDriver

/-- What a request asks for. -/
inductive RideOp
  /-- `POST /rides`. -/
  | createRide (isReviewAccount : Bool) (quoteId : UUID) (paymentMethod : String)
      (scheduledAt : Option DateTime) (rideId : UUID)
  | accept (rideId : UUID)
  | decline (rideId : UUID)
  /-- The timer of an offer wave. -/
  | expireWave (rideId : UUID)
  /-- `PATCH /rides/{ride_id}/status`. -/
  | updateStatus (rideId : UUID) (status : String)
  | requestEarlyStop (rideId : UUID)
  | confirmEarlyStop (rideId : UUID)
  | markArrived (rideId : UUID)
  | startRide (rideId : UUID) (code : String)
  | markNoShow (rideId : UUID)
  | startWaiting (rideId : UUID)
  | stopWaiting (rideId : UUID)
  /-- A driver pushes his position over the WebSocket. -/
  | pushSpeed (speedKmh : ℚ)
  | addSupplement (rideId : UUID) (type : String) (amount : Option Decimal)
      (customLabel : Option String) (supplementId : UUID)
  | decideSupplement (rideId supplementId : UUID) (accepted : Bool)
  | cancel (rideId : UUID) (reason : String)
  | createShareLink (rideId : UUID) (token : String)
  | requestEmergency (rideId : UUID) (note : Option String) (eventId : UUID)
  deriving DecidableEq

/-- A request: what it asks for, who sends it, the dispatch policy that is stored at that time and the
clock. -/
structure RideCall where
  op : RideOp
  actor : Actor
  config : DispatchConfig
  clock : Clock

/-- `_stop_waiting_if_vehicle_moves`. -/
def stopWaitingIfVehicleMoves (env : Env) (userId : UUID) (now : DateTime) : Action Unit := do
  match ← findActiveByDriverUserId userId with
  | none => return ()
  | some ride =>
    if ride.status = .waiting then
      Prog.ignore (stopWaiting env ride.id { userId := userId, role := "driver" } "vehicle_moved" now)
    else return ()

/-- The driver of the ride, as it is stored now, is released. -/
def releaseDriverOf (rideId : UUID) : Action Unit := do
  let ride ← loadRide rideId
  releaseDriver ride

/-- `PATCH /rides/{ride_id}/status`. -/
def updateStatusRoute (env : Env) (cfg : DispatchConfig) (rideId : UUID) (status : String)
    (actor : Actor) (clock : Clock) : Action Unit := do
  requireBusinessDriver actor
  match rideStatusOf status with
  | none => apiError 422 "INVALID_STATUS" ("Statut inconnu: " ++ status)
  | some newStatus =>
    let _ ← updateStatus env cfg rideId newStatus actor clock
    if newStatus = .completed then releaseDriverOf rideId

/-- The program of a request. -/
def RideCall.action (env : Env) (c : RideCall) : Action Unit :=
  let matching : Matching := { config := c.config }
  match c.op with
  | .createRide isReviewAccount quoteId paymentMethod scheduledAt rideId => do
    let ride ← requestRide
      { passengerUserId := c.actor.userId, isReviewAccount := isReviewAccount, quoteId := quoteId
        paymentMethod := paymentMethod, scheduledAt := scheduledAt, rideId := rideId } c.clock.now
    Prog.ignore (tryMatch env matching ride c.clock)
  | .accept rideId => do
    requireBusinessDriver c.actor
    Prog.ignore (Rides.accept rideId c.actor.userId c.clock.now)
  | .decline rideId => do
    requireBusinessDriver c.actor
    Prog.ignore (Rides.decline env matching rideId c.actor.userId c.clock)
  | .expireWave rideId =>
    Prog.ignore (advanceExpiredOffer env
      { config := dispatchConfigFromSettings env.settings, routing := false, priority := false }
      rideId c.clock)
  | .updateStatus rideId status => updateStatusRoute env c.config rideId status c.actor c.clock
  | .requestEarlyStop rideId => Prog.ignore (Rides.requestEarlyStop env rideId c.actor.userId c.clock)
  | .confirmEarlyStop rideId => do
    requireBusinessDriver c.actor
    let _ ← Rides.confirmEarlyStop env c.config rideId c.actor c.clock
    releaseDriverOf rideId
  | .markArrived rideId => do
    requireBusinessDriver c.actor
    let position ← askFor Reply.position? (.position c.actor.userId)
    Prog.ignore (Rides.markArrived env rideId c.actor position c.clock)
  | .startRide rideId code => do
    requireBusinessDriver c.actor
    Prog.ignore (startRideWithCode env rideId c.actor code c.clock)
  | .markNoShow rideId => do
    requireBusinessDriver c.actor
    let _ ← markPassengerNoShow env rideId c.actor c.clock
    releaseDriverOf rideId
  | .startWaiting rideId => do
    requireBusinessDriver c.actor
    let speed ← askFor Reply.speed? (.speed c.actor.userId)
    Prog.ignore (Rides.startWaiting env rideId c.actor speed c.clock)
  | .stopWaiting rideId => do
    requireBusinessDriver c.actor
    Prog.ignore (Rides.stopWaiting env rideId c.actor "manual" c.clock.stoppedAt)
  | .pushSpeed speedKmh =>
    if env.settings.waitingStationarySpeedThresholdKmh < speedKmh then
      stopWaitingIfVehicleMoves env c.actor.userId c.clock.stoppedAt
    else return ()
  | .addSupplement rideId type amount customLabel supplementId => do
    requireBusinessDriver c.actor
    Prog.ignore (Rides.addSupplement rideId c.actor type amount customLabel supplementId c.clock.now)
  | .decideSupplement rideId supplementId accepted =>
    Prog.ignore (Rides.decideSupplement rideId supplementId c.actor
      (if accepted then .accepted else .disputed) c.clock.now)
  | .cancel rideId reason => do
    let _ ← Rides.cancel env c.config rideId reason c.actor c.clock
    releaseDriverOf rideId
  | .createShareLink rideId token =>
    Prog.ignore (Rides.createShareLink rideId c.actor token c.clock.now)
  | .requestEmergency rideId note eventId =>
    Prog.ignore (Rides.requestEmergency env rideId c.actor note eventId c.clock.now)

end DiddiGo.Rides
