import DiddiGo.Data.Sha256
import DiddiGo.Rides.Repository

/-!
# Ride use cases

Each use case loads the ride, checks the caller and the status, changes the object and saves it. The
instants that a request reads from the clock and the identifiers it draws are parameters; the rendering
of responses is left out, so a use case returns the ride.
-/

namespace DiddiGo.Rides

open Data (Json)
open Transactions

/-- The settings the ride module reads, with the bounds they are declared with. -/
structure Settings where
  driverArrivalMaxDistanceMeters : Nat := 50
  preRideWaitFreeSeconds : Nat := 180
  preRideWaitPricePerMinuteXof : Nat := 100
  preRideNoShowSeconds : Nat := 600
  rideStartCodeMaxAttempts : Nat := 5
  rideStartCodeSecret : String := "change-me-in-production"
  rideEmergencyRateLimitSeconds : Nat := 60
  rideEmergencyContactNotifyOnce : Bool := true
  waitingPricePerMinuteXof : Nat := 100
  waitingStationarySpeedThresholdKmh : ℚ := 3
  diddigoCommissionRate : ℚ := 9 / 50
  rideQuoteTtlSeconds : Nat := 900
  driverMinBalance : Int := 0
  driverMaxEstimatedCommission : Int := 0
  matchingEtaRankingEnabled : Bool := true
  matchingSearchRadiusStepKm : ℚ := 2
  matchingSearchRadiusMaxKm : ℚ := 15
  matchingSearchBudgetSeconds : Int := 120
  matchingEtaShortlistSize : Nat := 10
  matchingPriorityWindowDays : Int := 7
  matchingPriorityCapSeconds : Int := 120
  matchingPrioritySecondsPerPoint : Int := 10
  matchingPriorityPointsRideCompleted : Int := 1
  matchingPriorityPointsRideCancelledByDriver : Int := -3
  attempts_pos : 1 ≤ rideStartCodeMaxAttempts := by decide
  noShow_pos : 60 ≤ preRideNoShowSeconds := by decide

/-- The process a request runs in: its settings, and the distance in metres between two positions, which
is computed in floating point. -/
structure Env where
  settings : Settings
  distanceMeters : GeoPoint → GeoPoint → ℚ

/-- The readings of the clock in one request. -/
structure Clock where
  now : DateTime
  /-- When a wait is closed on the way. -/
  stoppedAt : DateTime := now
  /-- When the trace of the ride is finished. -/
  finishedAt : DateTime := now
  /-- When a transition takes place whose caller gives no time. -/
  doneAt : DateTime := now
  /-- When the search budget is checked. -/
  searchedAt : DateTime := now
  /-- When the priority scores are taken. -/
  rankedAt : DateTime := now
  /-- When the search is given up. -/
  gaveUpAt : DateTime := now
  deriving Inhabited

/-! ## Pricing -/

/-- `_DEFAULT_BASE_FARE`. -/
def defaultBaseFare : Decimal := 250

/-- `_SURGE_CAP`. -/
def surgeCap : Decimal := 8 / 5

/-- `_comfort_multiplier`. -/
def comfortMultiplier : ComfortLevel → Decimal
  | .standard => 1
  | .comfort => 23 / 20
  | .premium => 13 / 10

/-- What `_pricing_breakdown` returns. -/
structure Pricing where
  baseFare : Decimal
  distanceFare : Decimal
  durationFare : Decimal
  totalFare : Decimal
  platformCommission : Decimal
  driverPayoutEstimate : Decimal

/-- `_pricing_breakdown`. -/
def pricingBreakdown (commissionRate distanceKm : Decimal) (durationSeconds : Int)
    (baseFare pricePerKm pricePerMin surgeMultiplier comfort : Decimal) : Pricing :=
  let distanceFare := distanceKm * pricePerKm
  let durationFare := (durationSeconds : Decimal) / 60 * pricePerMin
  let total : Decimal :=
    Decimal.roundHalfEven ((baseFare + distanceFare + durationFare) * comfort * surgeMultiplier)
  let commission : Decimal := Decimal.roundHalfEven (total * commissionRate)
  { baseFare := baseFare
    distanceFare := Decimal.roundHalfEven distanceFare
    durationFare := Decimal.roundHalfEven durationFare
    totalFare := total
    platformCommission := commission
    driverPayoutEstimate := total - commission }

namespace Ride

/-- `ride.base_fare or _DEFAULT_BASE_FARE`. -/
def floorFare (r : Ride) : Decimal := if r.baseFare.getD 0 = 0 then defaultBaseFare else r.baseFare.getD 0

/-- `ride.final_fare or ride.estimated_fare`. -/
def lockedFare (r : Ride) : Option Decimal :=
  if r.finalFare.getD 0 = 0 then r.estimatedFare else r.finalFare

/-- `_infer_price_per_km`. -/
def inferPricePerKm (r : Ride) : Decimal :=
  match r.distanceFare, r.distanceKm with
  | some fare, some km => if 0 < km then fare / km else 240
  | _, _ => 240

/-- `_infer_price_per_min`. -/
def inferPricePerMin (r : Ride) : Decimal :=
  match r.durationFare, r.durationSeconds with
  | some fare, some n => if 0 < n then fare / ((n : Decimal) / 60) else 0
  | _, _ => 0

/-- `_pricing_breakdown` at the unit prices of the ride. -/
def pricing (r : Ride) (env : Env) (distanceKm : Decimal) (durationSeconds : Int) : Pricing :=
  pricingBreakdown env.settings.diddigoCommissionRate distanceKm durationSeconds r.floorFare
    r.inferPricePerKm r.inferPricePerMin (min r.surgeMultiplier Rides.surgeCap)
    (comfortMultiplier r.comfortLevel)

/-- What the passenger owes on top of the fare. -/
def extras (r : Ride) : Decimal := r.preRideWaitFee + r.waitingFee + r.supplementsTotal

/-- The final fare is fixed and shared out. -/
def settle (r : Ride) (finalFare : Decimal) : Ride :=
  let commission : Decimal := Decimal.roundHalfEven (finalFare * r.commissionRate)
  { r with
    finalFare := some finalFare
    platformCommission := some commission
    driverPayoutEstimate := some (finalFare - commission) }

end Ride

/-! ## The start code -/

/-- A number of six digits. -/
def sixDigits (n : Nat) : String :=
  String.ofList ((List.range 6).map fun i => Nat.digitChar (n / 10 ^ (5 - i) % 10))

/-- `_ride_start_code`. -/
def rideStartCode (s : Settings) (rideId : UUID) : String :=
  let digest := Data.hmacSha256 (Data.utf8 s.rideStartCodeSecret) (Data.utf8 (UUID.str rideId))
  sixDigits (Data.intOfBytes (digest.take 8) % 1000000)

/-- `_hash_start_code`. -/
def hashStartCode (s : Settings) (rideId : UUID) (code : String) : String :=
  Data.hexdigest (Data.sha256
    (Data.utf8 (UUID.str rideId ++ ":" ++ code ++ ":" ++ s.rideStartCodeSecret)))

/-- `start_authorization.code` in `_ride_detail_payload`. -/
def startAuthorizationCode (s : Settings) (ride : Ride) (viewerRole : String) : Option String :=
  if viewerRole = "passenger" ∧ ride.startCodeHash.getD "" ≠ "" ∧ ride.startCodeUsedAt = none then
    some (rideStartCode s ride.id)
  else none

/-! ## Loading and authorisation -/

/-- `load_ride`. -/
def loadRide (rideId : UUID) : Action Ride := do
  match ← findRideById rideId with
  | some ride => return ride
  | none => apiError 404 "RIDE_NOT_FOUND" "Aucune course trouvee avec cet identifiant."

/-- `_is_assigned_driver`. -/
def isAssignedDriver (ride : Ride) (userId : UUID) : Action Bool :=
  match ride.driverId with
  | none => return false
  | some driverId => do
    let profile ← findProfileByUserId userId
    return profile.map DriverProfile.id = some driverId

/-- Only the assigned driver and administrators pass. -/
def checkDriver (ride : Ride) (actor : Actor) (message : String) : Action Unit :=
  if actor.isAdmin then return () else do
    let assigned ← isAssignedDriver ride actor.userId
    apiErrorIf (assigned = false) 403 "RIDE_NOT_OWNED_BY_USER" message

/-- `ride.passenger_user_id == user or await self._is_assigned_driver(ride, user)`. -/
def isParticipant (ride : Ride) (userId : UUID) : Action Bool :=
  if ride.passengerUserId = userId then return true else isAssignedDriver ride userId

/-- Only the passenger, the assigned driver and administrators pass. -/
def checkParticipant (ride : Ride) (actor : Actor) : Action Unit := do
  let participates ← isParticipant ride actor.userId
  apiErrorIf (participates = false ∧ actor.isAdmin = false) 403 "RIDE_NOT_OWNED_BY_USER"
    "Cette course ne vous appartient pas."

/-- `ride.transition(...)`, whose exception nobody catches. -/
def transitionOrRaise (ride : Ride) (newStatus : RideStatus) (now : DateTime)
    (metadata : Option Json := none) : Action Ride :=
  match ride.transition newStatus now metadata with
  | some ride => return ride
  | none => throw (.other "InvalidStatusTransition")

/-- `_OUTCOME_KINDS`. -/
def outcomeKind : RideStatus → Option PriorityEventKind
  | .completed => some .rideCompleted
  | .cancelledByDriver => some .rideCancelledByDriver
  | _ => none

/-- `DEFAULT_ZONE_ID`. -/
def defaultZoneId : UUID := 214

/-- `record_ride_outcome`. -/
def recordRideOutcome (cfg : DispatchConfig) (ride : Ride) : Action Unit :=
  match outcomeKind ride.status, ride.driverId with
  | some kind, some driverId =>
    appendPriorityEvent
      { driverId := driverId, kind := kind, points := cfg.pointsForRideOutcome kind
        zoneId := some defaultZoneId, rideId := some ride.id, reason := some kind.value }
  | _, _ => return ()

/-! ## Requesting a ride -/

/-- The body of a ride request, with the identifier that the ride gets. -/
structure RideRequest where
  passengerUserId : UUID
  isReviewAccount : Bool := false
  quoteId : UUID
  paymentMethod : String
  scheduledAt : Option DateTime := none
  rideId : UUID

/-- `PaymentMethod(value)`; `none` is a `ValueError`. -/
def paymentMethodOf (value : String) : Option PaymentMethod :=
  [PaymentMethod.cash, .mobileMoney].find? fun m => m.value = value

/-- The ride that a quote turns into. -/
def RideQuote.toRide (quote : RideQuote) (r : RideRequest) (method : PaymentMethod) (now : DateTime) :
    Ride where
  id := r.rideId
  passengerUserId := r.passengerUserId
  status := .requested
  vehicleCategory := quote.vehicleCategory
  comfortLevel := quote.comfortLevel
  isReviewAccount := r.isReviewAccount
  pickupLocation := some quote.pickupLocation
  pickupAddress := quote.pickupAddress
  dropoffLocation := some quote.dropoffLocation
  dropoffAddress := quote.dropoffAddress
  scheduledAt := r.scheduledAt
  estimatedFare := some quote.estimatedFare
  currency := "XOF"
  distanceKm := some quote.distanceKm
  durationSeconds := some quote.durationSeconds
  baseFare := some quote.baseFare
  distanceFare := some quote.distanceFare
  durationFare := some quote.durationFare
  surgeMultiplier := quote.surgeMultiplier
  surgeCap := quote.surgeCap
  commissionRate := quote.commissionRate
  platformCommission := some quote.platformCommission
  driverPayoutEstimate := some quote.driverPayoutEstimate
  paymentMethod := method
  quoteId := some quote.id
  requestedAt := some now

/-- `request_ride`. -/
def requestRide (r : RideRequest) (now : DateTime) : Action Ride := do
  match paymentMethodOf r.paymentMethod with
  | none => apiError 422 "INVALID_PAYMENT_METHOD" "Methode de paiement invalide."
  | some method =>
    match ← findQuoteById r.quoteId with
    | none => apiError 404 "QUOTE_NOT_FOUND" "Devis introuvable."
    | some quote =>
      apiErrorIf (quote.passengerUserId ≠ r.passengerUserId) 404 "QUOTE_NOT_FOUND" "Devis introuvable."
      apiErrorIf quote.consumedAt.isSome 409 "QUOTE_ALREADY_USED" "Ce devis a deja ete utilise."
      apiErrorIf (quote.expiresAt ≤ now) 409 "QUOTE_EXPIRED"
        "Ce devis a expire. Demandez un nouveau devis."
      let active ← hasActiveRide r.passengerUserId
      apiErrorIf (active = true) 409 "ACTIVE_RIDE_ALREADY_EXISTS"
        "Un passager ne peut pas avoir deux courses actives simultanement."
      let ride := quote.toRide r method now
      save ride ride
      consumeQuote quote.id ride.id now
      recordStatusTransitions ride.statusHistory
      return ride

/-! ## The map trace -/

/-- Ask DiddiMap: an `ApiError` is handed back, any other exception goes to the caller. -/
def askMap {α : Type} (read : Reply → Option α) (q : Query) : Action (Except ApiError α) := do
  match ← Prog.ask q with
  | .error (.api e) => return .error e
  | .error e => throw e
  | .ok reply =>
    match read reply with
    | some a => return .ok a
    | none => throw (.other "TypeError")

/-- A bad answer of DiddiMap. -/
def invalidMapResponse (message : String) : ApiError where
  statusCode := 502
  code := "DIDDIMAP_INVALID_RESPONSE"
  message := message

/-- The identifier of a new trace. -/
def Reply.trace? : Reply → Option String
  | trace id => some id
  | _ => none

/-- The analysis of a trace. -/
def Reply.analysis? : Reply → Option RouteTraceAnalysis
  | analysis a => some a
  | _ => none

/-- `_ensure_map_trace_started`. -/
def ensureMapTraceStarted (ride : Ride) : Action (Except ApiError Ride) :=
  if ride.mapTraceId.getD "" ≠ "" then return .ok ride
  else
    match ride.pickupLocation, ride.dropoffLocation with
    | some pickup, some dropoff => do
      match ← askMap Reply.trace?
          (.startTrace ride.id pickup dropoff ride.distanceKm ride.durationSeconds "palh_vtc") with
      | .ok traceId => return .ok { ride with mapTraceId := some traceId }
      | .error e => return .error e
    | _, _ => return .error (invalidMapResponse "Coordonnees course incompletes.")

/-- Send the samples, finish the trace and have it analysed. -/
def analyzeTrace (traceId : String) (points : List RideRoutePoint) (finishedAt : DateTime) :
    Action (Except ApiError RouteTraceAnalysis) := do
  match ← askMap (fun _ => some ()) (.appendTracePositions traceId points) with
  | .error e => return .error e
  | .ok _ =>
    match ← askMap (fun _ => some ()) (.finishTrace traceId finishedAt) with
    | .error e => return .error e
    | .ok _ => askMap Reply.analysis? (.analyzeTrace traceId)

namespace Ride

/-- The quality of the trace is noted. -/
def noteAnalysis (r : Ride) (a : RouteTraceAnalysis) : Ride :=
  { r with
    traceRecommendation := a.recommendation
    traceQualityLabel := a.qualityLabel
    traceQualityScore := a.qualityScore
    tracePointsCount := a.pointsCount
    traceUsablePointsCount := a.usablePointsCount }

/-- The actual trip is priced; the locked fare stays. -/
def applyMetrics (r : Ride) (env : Env) (distanceKm : Decimal) (durationSeconds : Int) : Ride :=
  let fare := (r.pricing env distanceKm durationSeconds).totalFare
  { r with
    actualDistanceKm := some distanceKm
    actualDurationSeconds := some durationSeconds
    actualPricingFare := some fare
    pricingDelta := r.lockedFare.map fun locked => fare - locked
    traceAnalysisStatus := some "applied"
    traceAnalysisErrorCode := none
    finalFare := if r.lockedFare.isSome then r.lockedFare else r.finalFare }

/-- What the analysis of the trace does to the ride. -/
def applyAnalysis (r : Ride) (env : Env) (a : RouteTraceAnalysis) : Ride × Option ApiError :=
  let r := r.noteAnalysis a
  if a.usableForScoring = false then
    ({ r with traceAnalysisStatus := some "ignored", traceAnalysisErrorCode := none }, none)
  else
    match a.actualDistanceKm, a.actualDurationSeconds with
    | some km, some n => (r.applyMetrics env km n, none)
    | _, _ => (r, some (invalidMapResponse "Metriques DiddiMap absentes."))

end Ride

/-- `_apply_actual_pricing_if_possible`: the ride as far as it was changed, and the `ApiError` that was
raised then. -/
def applyActualPricingIfPossible (env : Env) (ride : Ride) (finishedAt : DateTime) :
    Action (Ride × Option ApiError) := do
  let points ← listRoutePoints ride.id
  if points = [] then
    return ({ ride with traceAnalysisStatus := some "no_samples", traceAnalysisErrorCode := none }, none)
  else
    match ← ensureMapTraceStarted ride with
    | .error e => return (ride, some e)
    | .ok ride =>
      match ride.mapTraceId with
      | none => return (ride, some (invalidMapResponse "Trace DiddiMap absente."))
      | some traceId =>
        match ← analyzeTrace traceId points finishedAt with
        | .error e => return (ride, some e)
        | .ok a => return ride.applyAnalysis env a

/-! ## Waiting -/

/-- A float in an error; its text is left out. -/
def jsonFloat (q : ℚ) : Json := .float q ""

/-- `round(q, 1)`. -/
def jsonTenths (q : ℚ) : Json := jsonFloat (Decimal.roundHalfEven (10 * q) / 10)

/-- A wait begins. -/
def Ride.beginWait (r : Ride) (s : Settings) (now : DateTime) : Ride :=
  { r with
    waitingStartedAt := some now
    waitingRatePerMinute := some (s.waitingPricePerMinuteXof : Decimal) }

/-- `start_waiting`. -/
def startWaiting (env : Env) (rideId : UUID) (actor : Actor) (speedKmh : Option ℚ) (clock : Clock) :
    Action Ride := do
  let ride ← loadRide rideId
  checkDriver ride actor "Seul le chauffeur assigne peut activer l'attente."
  if ride.status = .waiting then
    return ride
  apiErrorIf (ride.status ≠ .inProgress) 409 "WAITING_INVALID_RIDE_STATUS"
    "L'attente exige une course en cours."
  match speedKmh with
  | none => apiError 409 "WAITING_TELEMETRY_REQUIRED" "Une vitesse GPS recente est necessaire."
  | some speed =>
    apiErrorIf (env.settings.waitingStationarySpeedThresholdKmh < speed) 409 "VEHICLE_NOT_STOPPED"
      "Le vehicule doit etre arrete pour activer l'attente."
      (.ofMembers [("speed_kmh", jsonFloat speed),
        ("maximum_kmh", jsonFloat env.settings.waitingStationarySpeedThresholdKmh)])
    let waiting ← transitionOrRaise (ride.beginWait env.settings clock.now) .waiting clock.now
      (some (.ofMembers [("reason", .str "manual")]))
    save ride waiting
    return waiting

namespace Ride

/-- How long the wait that began at `startedAt` lasted, in whole seconds. -/
def waitSeconds (startedAt now : DateTime) : Int := max 0 (ceilSeconds (now - startedAt))

/-- The minutes that are billed for `elapsed` seconds. -/
def billedMinutes (elapsed : Int) : Int := max 1 (ceilDiv elapsed 60)

/-- `ride.waiting_rate_per_minute or Decimal(settings.waiting_price_per_minute_xof)`. -/
def waitingRate (r : Ride) (s : Settings) : Decimal :=
  if r.waitingRatePerMinute.getD 0 = 0 then (s.waitingPricePerMinuteXof : Decimal)
  else r.waitingRatePerMinute.getD 0

/-- The wait that began at `startedAt` is billed. -/
def billWait (r : Ride) (s : Settings) (startedAt now : DateTime) : Ride :=
  let elapsed := waitSeconds startedAt now
  { r with
    waitingDurationSeconds := r.waitingDurationSeconds + elapsed
    waitingFee := r.waitingFee + r.waitingRate s * (billedMinutes elapsed : Decimal)
    waitingStartedAt := none }

end Ride

/-- `_stop_waiting`: the caller has already been authorized. -/
def finishWaiting (env : Env) (ride : Ride) (reason : String) (now : DateTime) : Action Ride :=
  match ride.status, ride.waitingStartedAt with
  | .waiting, some startedAt => do
    let elapsed := Ride.waitSeconds startedAt now
    let resumed ← transitionOrRaise (ride.billWait env.settings startedAt now) .inProgress now
      (some (.ofMembers [("reason", .str reason), ("duration_seconds", .int elapsed),
        ("billed_minutes", .int (Ride.billedMinutes elapsed))]))
    save ride resumed
    return resumed
  | _, _ => apiError 409 "WAITING_NOT_ACTIVE" "Aucune attente active pour cette course."

/-- `stop_waiting`. -/
def stopWaiting (env : Env) (rideId : UUID) (actor : Actor) (reason : String) (now : DateTime) :
    Action Ride := do
  let ride ← loadRide rideId
  checkDriver ride actor "Seul le chauffeur assigne peut arreter l'attente."
  finishWaiting env ride reason now

/-- A wait that is open when the ride ends is closed, and the ride is loaded again. -/
def closeWait (env : Env) (ride : Ride) (actor : Actor) (reason : String) (now : DateTime) :
    Action Ride :=
  if ride.status = .waiting then do
    let _ ← stopWaiting env ride.id actor reason now
    loadRide ride.id
  else return ride

/-! ## The status route and completion -/

/-- The actual trip is priced if possible; a failure of DiddiMap is noted and the locked fare stays. -/
def priceCompletion (env : Env) (ride : Ride) (finishedAt : DateTime) : Action Ride := do
  match ← applyActualPricingIfPossible env ride finishedAt with
  | (ride, none) => return ride
  | (ride, some e) =>
    return { ride with
      traceAnalysisStatus := some "provider_error"
      traceAnalysisErrorCode := some e.code }

/-- What completion at the destination fixes. -/
def Ride.complete (r : Ride) : Ride :=
  { r.settle (r.lockedFare.getD 0 + r.extras) with
    completionReason := if r.completionReason.getD "" = "" then some "destination_reached"
      else r.completionReason }

/-- What is fixed when the ride gets the status. -/
def Ride.completeIf (r : Ride) (newStatus : RideStatus) : Ride :=
  if newStatus = .completed then r.complete else r

/-- Before the transition to the status: if it ends the ride, an open wait is closed. The ride is loaded
again then. -/
def closeWaitIf (env : Env) (ride : Ride) (newStatus : RideStatus) (actor : Actor) (now : DateTime) :
    Action Ride :=
  if newStatus = .completed then closeWait env ride actor "ride_completed" now else return ride

/-- Before the transition to the status: if it ends the ride, the actual trip is priced. -/
def priceIf (env : Env) (ride : Ride) (newStatus : RideStatus) (finishedAt : DateTime) : Action Ride :=
  if newStatus = .completed then priceCompletion env ride finishedAt else return ride

/-- `update_status`. -/
def updateStatus (env : Env) (cfg : DispatchConfig) (rideId : UUID) (newStatus : RideStatus)
    (actor : Actor) (clock : Clock) : Action Ride := do
  let ride ← loadRide rideId
  checkDriver ride actor "Seul le chauffeur assigne peut modifier l'etat de cette course."
  if ride.status = .completed ∧ newStatus = .completed then
    return ride
  apiErrorIf (ride.status = .waiting ∧ newStatus = .inProgress) 409 "WAITING_STOP_ENDPOINT_REQUIRED"
    "Utilisez la route d'arret d'attente pour reprendre la course."
  apiErrorIf (newStatus = .inProgress) 409 "RIDE_START_CODE_REQUIRED"
    "Utilisez la route de demarrage avec le code passager."
  -- the start of the map trace for `in_progress`, which follows in the source, is never reached
  let ride ← closeWaitIf env ride newStatus actor clock.stoppedAt
  let priced ← priceIf env ride newStatus clock.finishedAt
  match priced.transition newStatus clock.doneAt with
  | none =>
    apiError 409 "INVALID_STATUS_TRANSITION" "Transition de statut invalide."
      (.ofMembers [("current_status", .str priced.status.value),
        ("attempted_status", .str newStatus.value)])
  | some moved =>
    save ride (moved.completeIf newStatus)
    recordStatusTransitions moved.statusHistory
    recordRideOutcome cfg moved
    return moved.completeIf newStatus

/-! ## Early stop -/

/-- `_provisional_early_stop_amount`. -/
def provisionalEarlyStopAmount (env : Env) (ride : Ride) (now : DateTime) : Action Decimal := do
  let points ← listRoutePoints ride.id
  let distanceKm := ((points.zip points.tail).map fun (previous, current) =>
    env.distanceMeters previous.location current.location / 1000).sum
  let durationSeconds := match ride.startedAt with
    | some startedAt => max 0 (wholeSeconds (now - startedAt))
    | none => 0
  return max ride.floorFare (ride.pricing env distanceKm durationSeconds).totalFare + ride.extras

/-- The passenger asks for an early stop; the request expires after two minutes. -/
def Ride.askEarlyStop (r : Ride) (passengerUserId : UUID) (now : DateTime) : Ride :=
  { r with
    earlyStopRequestedAt := some now
    earlyStopExpiresAt := some (now + seconds 120)
    earlyStopRequestedByUserId := some passengerUserId }

/-- `request_early_stop`: the ride and the provisional amount. -/
def requestEarlyStop (env : Env) (rideId passengerUserId : UUID) (clock : Clock) :
    Action (Ride × Decimal) := do
  let ride ← loadRide rideId
  apiErrorIf (ride.passengerUserId ≠ passengerUserId) 403 "RIDE_NOT_OWNED_BY_USER"
    "Cette course ne vous appartient pas."
  apiErrorIf (ride.status ≠ .inProgress ∧ ride.status ≠ .waiting) 409 "EARLY_STOP_INVALID_RIDE_STATUS"
    "L'arret anticipe exige une course en cours."
  save ride (ride.askEarlyStop passengerUserId clock.now)
  let amount ← provisionalEarlyStopAmount env (ride.askEarlyStop passengerUserId clock.now) clock.now
  return (ride.askEarlyStop passengerUserId clock.now, amount)

/-- What the confirmation of an early stop fixes, at the actual price of the trip. -/
def Ride.stopEarly (r : Ride) (actualPricingFare : Decimal) (now : DateTime) : Ride :=
  { r.settle (max r.floorFare actualPricingFare + r.extras) with
    completionReason := some "early_stop"
    earlyStopConfirmedAt := some now }

/-- An early stop was asked for and has not expired. -/
def checkEarlyStopRequest (ride : Ride) (now : DateTime) : Action Unit :=
  match ride.earlyStopRequestedAt, ride.earlyStopExpiresAt with
  | some _, some expiresAt =>
    apiErrorIf (expiresAt ≤ now) 409 "EARLY_STOP_REQUEST_EXPIRED"
      "La demande d'arret anticipe a expire."
  | _, _ => apiError 409 "EARLY_STOP_NOT_REQUESTED" "Aucune demande d'arret anticipe active."

/-- `confirm_early_stop`. -/
def confirmEarlyStop (env : Env) (cfg : DispatchConfig) (rideId : UUID) (actor : Actor)
    (clock : Clock) : Action Ride := do
  let ride ← loadRide rideId
  checkDriver ride actor "Seul le chauffeur assigne peut confirmer l'arret."
  apiErrorIf (ride.status ≠ .inProgress ∧ ride.status ≠ .waiting) 409 "EARLY_STOP_INVALID_RIDE_STATUS"
    "Cette course ne peut plus etre arretee."
  checkEarlyStopRequest ride clock.now
  let ride ← closeWait env ride actor "early_stop" clock.stoppedAt
  match ← applyActualPricingIfPossible env ride clock.finishedAt with
  | (_, some e) => throw (.api e)
  | (priced, none) =>
    match priced.traceAnalysisStatus, priced.actualPricingFare with
    | some "applied", some fare =>
      let stopped ← transitionOrRaise (priced.stopEarly fare clock.now) .completed clock.now
        (some (.ofMembers [("completion_reason", .str "early_stop")]))
      save ride stopped
      recordStatusTransitions stopped.statusHistory
      recordRideOutcome cfg stopped
      return stopped
    | _, _ =>
      apiError 503 "EARLY_STOP_PRICING_UNAVAILABLE"
        "La trace chauffeur ne permet pas encore de calculer le prix de l'arret anticipe."

/-! ## Arrival and start -/

/-- The driver is there: the code of the passenger is armed and the wait before the ride begins. -/
def Ride.armStartCode (r : Ride) (s : Settings) (now : DateTime) : Ride :=
  { r with
    startCodeHash := some (hashStartCode s r.id (rideStartCode s r.id))
    preRideWaitStartedAt := some now }

/-- `mark_arrived`. -/
def markArrived (env : Env) (rideId : UUID) (actor : Actor) (driverPosition : Option GeoPoint)
    (clock : Clock) : Action Ride := do
  let ride ← loadRide rideId
  checkDriver ride actor "Seul le chauffeur assigne peut signaler son arrivee."
  if ride.status = .arrived then
    return ride
  apiErrorIf (ride.status ≠ .driverEnRoute) 409 "ARRIVAL_INVALID_RIDE_STATUS"
    "La course ne permet pas de signaler l'arrivee."
  match driverPosition, ride.pickupLocation with
  | some position, some pickup =>
    let distance := env.distanceMeters position pickup
    apiErrorIf ((env.settings.driverArrivalMaxDistanceMeters : ℚ) < distance) 422
      "DRIVER_TOO_FAR_FROM_PICKUP" "Le chauffeur est trop loin du point de prise en charge."
      (.ofMembers [("distance_meters", jsonTenths distance),
        ("maximum_meters", .int env.settings.driverArrivalMaxDistanceMeters)])
    let arrived ← transitionOrRaise (ride.armStartCode env.settings clock.now) .arrived clock.now
      (some (.ofMembers [("distance_meters", jsonTenths distance)]))
    save ride arrived
    recordLastTransition arrived
    return arrived
  | _, _ => apiError 422 "DRIVER_LOCATION_REQUIRED" "Une position chauffeur recente est requise."

namespace Ride

/-- A wrong code is counted, and the ride is blocked when there were too many. -/
def countWrongCode (r : Ride) (s : Settings) (now : DateTime) : Ride :=
  { r with
    startCodeAttempts := r.startCodeAttempts + 1
    startCodeBlockedAt := if (s.rideStartCodeMaxAttempts : Int) ≤ r.startCodeAttempts + 1 then some now
      else r.startCodeBlockedAt }

/-- The wait of the driver before the start, in seconds. -/
def preRideElapsed (r : Ride) (now : DateTime) : Int :=
  max 0 (wholeSeconds (now - r.preRideWaitStartedAt.getD now))

/-- The price of the wait before the start: the first seconds are free. -/
def preRideFee (s : Settings) (elapsed : Int) : Decimal :=
  Decimal.roundHalfEven ((s.preRideWaitPricePerMinuteXof : Decimal) *
    (max 0 (elapsed - s.preRideWaitFreeSeconds) : Int) / 60)

/-- The wait before the start is billed and the code is used. -/
def useCode (r : Ride) (s : Settings) (now : DateTime) : Ride :=
  { r with
    preRideWaitSeconds := r.preRideElapsed now
    preRideWaitFee := preRideFee s (r.preRideElapsed now)
    startCodeUsedAt := some now }

end Ride

/-- A wrong code: the counter is committed before the error goes out. -/
def rejectCode {α : Type} (s : Settings) (ride : Ride) (now : DateTime) : Action α := do
  Prog.mark (.wrongCode ride)
  let counted := ride.countWrongCode s now
  save ride counted
  Prog.commitNow
  let details := Json.ofMembers [("attempts", .int counted.startCodeAttempts),
    ("maximum_attempts", .int s.rideStartCodeMaxAttempts)]
  if counted.startCodeBlockedAt.isSome then
    apiError 423 "RIDE_START_CODE_BLOCKED" "Code de demarrage invalide." details
  else apiError 422 "INVALID_RIDE_START_CODE" "Code de demarrage invalide." details

/-- `start_ride_with_code`. -/
def startRideWithCode (env : Env) (rideId : UUID) (actor : Actor) (code : String) (clock : Clock) :
    Action Ride := do
  let ride ← loadRide rideId
  checkDriver ride actor "Seul le chauffeur assigne peut demarrer la course."
  apiErrorIf (ride.status ≠ .arrived) 409 "RIDE_START_INVALID_STATUS"
    "Le chauffeur doit d'abord signaler son arrivee."
  apiErrorIf ride.startCodeUsedAt.isSome 409 "RIDE_START_CODE_ALREADY_USED"
    "Le code de demarrage a deja ete utilise."
  apiErrorIf ride.startCodeBlockedAt.isSome 423 "RIDE_START_CODE_BLOCKED"
    "Le code est bloque. Contactez le support."
  if ride.startCodeHash.getD "" ≠ hashStartCode env.settings ride.id code then
    rejectCode env.settings ride clock.now
  else
    let started ← transitionOrRaise (ride.useCode env.settings clock.now) .inProgress clock.now
      (some (.ofMembers [("start_code_verified", .bool true)]))
    match ← ensureMapTraceStarted started with
    | .error e => throw (.api e)
    | .ok traced =>
      save ride traced
      recordLastTransition traced
      return traced

/-- The passenger did not come; the driver waited `elapsed` seconds. -/
def Ride.markAbsent (r : Ride) (elapsed : Int) : Ride :=
  { r with
    preRideWaitSeconds := elapsed
    preRideWaitFee := 0
    cancellationReason := some "passenger_no_show" }

/-- `mark_passenger_no_show`. -/
def markPassengerNoShow (env : Env) (rideId : UUID) (actor : Actor) (clock : Clock) : Action Ride := do
  let ride ← loadRide rideId
  checkDriver ride actor "Seul le chauffeur assigne peut declarer l'absence."
  match ride.status, ride.preRideWaitStartedAt with
  | .arrived, some startedAt =>
    let elapsed := wholeSeconds (clock.now - startedAt)
    apiErrorIf (elapsed < env.settings.preRideNoShowSeconds) 409 "NO_SHOW_TOO_EARLY"
      "Le delai client absent n'est pas atteint."
      (.ofMembers [("remaining_seconds", .int (env.settings.preRideNoShowSeconds - elapsed))])
    let absent ← transitionOrRaise (ride.markAbsent elapsed) .cancelledByDriver clock.doneAt
      (some (.ofMembers [("reason", .str "passenger_no_show")]))
    save ride absent
    recordLastTransition absent
    return absent
  | _, _ => apiError 409 "NO_SHOW_INVALID_RIDE_STATUS" "L'attente pre-course n'est pas active."

/-! ## Supplements -/

/-- `_SUPPLEMENT_FIXED_AMOUNTS`. -/
def supplementFixedAmounts : List (String × Int) :=
  [("toll", 500), ("parking", 200), ("baggage_standard", 500), ("baggage_large", 1000)]

/-- `_SUPPLEMENT_OTHER_MAX`. -/
def supplementOtherMax : Decimal := 1000

/-- `_supplement_amount`. -/
def supplementAmount (supplementType : String) (requestedAmount : Option Decimal) : Action Decimal :=
  match supplementFixedAmounts.lookup supplementType with
  | some fixed => do
    apiErrorIf (requestedAmount.isSome ∧ requestedAmount ≠ some (fixed : Decimal)) 422
      "INVALID_SUPPLEMENT_AMOUNT" "Le montant ne correspond pas au tarif du supplement."
      (.ofMembers [("type", .str supplementType), ("expected_amount", .int fixed)])
    return fixed
  | none => do
    apiErrorIf (supplementType ≠ "other") 422 "INVALID_SUPPLEMENT_TYPE" "Type de supplement inconnu."
      (.ofMembers [("allowed", ((supplementFixedAmounts.map Prod.fst) ++ ["other"]).foldr
        (fun t rest => .arrCons (.str t) rest) .arrNil)])
    match requestedAmount.filter fun a => 0 < a ∧ a ≤ supplementOtherMax with
    | some amount => return amount
    | none =>
      apiError 422 "INVALID_SUPPLEMENT_AMOUNT"
        "Le montant autre frais doit etre compris entre 1 et 1000 XOF."
        (.ofMembers [("minimum_amount", .int 1), ("maximum_amount", .int 1000)])

/-- The label of a supplement: only other fees carry one. -/
def supplementLabel (supplementType : String) (customLabel : Option String) : Action (Option String) :=
  if supplementType = "other" then do
    let label := Data.strip (customLabel.getD "")
    apiErrorIf (label = "") 422 "SUPPLEMENT_LABEL_REQUIRED" "Un libelle est requis pour un autre frais."
      (.ofMembers [("field", .str "custom_label")])
    return some label
  else return none

/-- `_require_active_ride_for_driver`. -/
def requireActiveRideForDriver (rideId : UUID) (actor : Actor) (action : String) : Action Ride := do
  let ride ← loadRide rideId
  checkDriver ride actor ("Seul le chauffeur assigne peut " ++ action ++ ".")
  apiErrorIf (ride.status ≠ .inProgress ∧ ride.status ≠ .waiting) 409 "RIDE_NOT_ACTIVE"
    "Action possible uniquement pendant la course."
  return ride

/-- `add_supplement`. -/
def addSupplement (rideId : UUID) (actor : Actor) (supplementType : String) (amount : Option Decimal)
    (customLabel : Option String) (supplementId : UUID) (now : DateTime) : Action RideSupplement := do
  let ride ← requireActiveRideForDriver rideId actor "ajouter un supplement"
  let supplementType := Data.lower (Data.strip supplementType)
  let amount ← supplementAmount supplementType amount
  let label ← supplementLabel supplementType customLabel
  let supplement : RideSupplement :=
    { id := supplementId, rideId := ride.id, amount := amount, reason := supplementType
      customLabel := label, createdByUserId := some actor.userId, createdAt := now }
  insertSupplement supplement
  return supplement

/-- The supplement is decided. -/
def RideSupplement.decide (s : RideSupplement) (decision : SupplementStatus) (userId : UUID)
    (now : DateTime) : RideSupplement :=
  { s with status := decision, decidedByUserId := some userId, decidedAt := some now }

/-- The passenger owes these supplements. -/
def Ride.withSupplements (r : Ride) (total : Decimal) : Ride := { r with supplementsTotal := total }

/-- `decide_supplement`. -/
def decideSupplement (rideId supplementId : UUID) (actor : Actor) (decision : SupplementStatus)
    (now : DateTime) : Action RideSupplement := do
  let ride ← loadRide rideId
  apiErrorIf (actor.isAdmin = false ∧ ride.passengerUserId ≠ actor.userId) 403 "RIDE_NOT_OWNED_BY_USER"
    "Seul le passager peut valider ce supplement."
  apiErrorIf (ride.status ≠ .inProgress ∧ ride.status ≠ .waiting) 409 "RIDE_NOT_ACTIVE"
    "Le supplement doit etre traite pendant la course."
  match ← findSupplementForUpdate ride.id supplementId with
  | none => apiError 404 "SUPPLEMENT_NOT_FOUND" "Supplement introuvable pour cette course."
  | some supplement =>
    if supplement.status = decision then
      return supplement
    apiErrorIf (supplement.status ≠ .pending) 409 "SUPPLEMENT_ALREADY_DECIDED"
      "Le supplement a deja ete accepte ou conteste."
      (.ofMembers [("status", .str supplement.status.value)])
    saveSupplement (supplement.decide decision actor.userId now)
    let total ← acceptedSupplementsTotal ride.id
    save ride (ride.withSupplements total)
    return supplement.decide decision actor.userId now

/-! ## Cancellation -/

/-- The status that `cancel` leads to. -/
def cancelledStatus (reason : String) (isDriver : Bool) (actor : Actor) : RideStatus :=
  if reason = CancelReason.driverUnavailable.value ∨ (isDriver = true ∧ actor.isAdmin = false) then
    .cancelledByDriver
  else .cancelledByPassenger

/-- A wait that is open when the ride is cancelled is closed. -/
def abandonWait (env : Env) (ride : Ride) (now : DateTime) : Action Ride :=
  if ride.status = .waiting then finishWaiting env ride "ride_cancelled" now else return ride

/-- The reason of a cancellation is noted. -/
def Ride.withReason (r : Ride) (reason : String) : Ride := { r with cancellationReason := some reason }

/-- `cancel`. -/
def cancel (env : Env) (cfg : DispatchConfig) (rideId : UUID) (reason : String) (actor : Actor)
    (clock : Clock) : Action Ride := do
  apiErrorIf (reason ∉ validCancelReasons) 422 "INVALID_CANCEL_REASON" "Motif d'annulation invalide."
  let ride ← loadRide rideId
  let isDriver ← isAssignedDriver ride actor.userId
  apiErrorIf (actor.isAdmin = false ∧ ride.passengerUserId ≠ actor.userId ∧ isDriver = false) 403
    "RIDE_NOT_OWNED_BY_USER" "Cette course ne vous appartient pas."
  apiErrorIf (ride.status = .completed) 409 "RIDE_ALREADY_COMPLETED" "La course est deja terminee."
  apiErrorIf (ride.status = .cancelledByPassenger ∨ ride.status = .cancelledByDriver) 409
    "RIDE_ALREADY_CANCELLED" "La course est deja annulee."
  apiErrorIf (ride.status = .noDriverFound) 409 "RIDE_NOT_CANCELLABLE"
    "Cette course n'a pas trouve de chauffeur."
  let ride ← abandonWait env ride clock.stoppedAt
  let cancelled ← transitionOrRaise ride (cancelledStatus reason isDriver actor) clock.doneAt
    (some (.ofMembers [("reason", .str reason)]))
  save ride.toDomain (cancelled.withReason reason)
  recordRideOutcome cfg cancelled
  return cancelled.withReason reason

/-! ## Sharing and alerts -/

/-- The ride is shared for a day. -/
def Ride.share (r : Ride) (token : String) (now : DateTime) : Ride :=
  { r with
    shareToken := if r.shareToken.getD "" = "" then some token else r.shareToken
    shareExpiresAt := some (now + seconds 86400) }

/-- `create_share_link`; `token` is the one that is drawn if the ride has none. -/
def createShareLink (rideId : UUID) (actor : Actor) (token : String) (now : DateTime) :
    Action Ride := do
  let ride ← loadRide rideId
  checkParticipant ride actor
  save ride (ride.share token now)
  return ride.share token now

/-- The contact of a user. -/
def Reply.contact? : Reply → Option (Option EmergencyContact)
  | contact c => some c
  | _ => none

/-- What became of the notifications. -/
def Reply.results? : Reply → Option (List Json)
  | results items => some items
  | _ => none

/-- The last alert is not too recent. -/
def checkEmergencyRate (s : Settings) (latest : Option RideEmergencyEvent) (now : DateTime) :
    Action Unit :=
  match latest with
  | none => return ()
  | some event =>
    apiErrorIf (now - event.requestedAt < seconds s.rideEmergencyRateLimitSeconds) 429
      "EMERGENCY_RATE_LIMITED" "Une alerte vient deja d'etre envoyee."
      (.ofMembers [("retry_after_seconds",
        .int (ceilSeconds (seconds s.rideEmergencyRateLimitSeconds - (now - event.requestedAt))))])

/-- An alert is open. -/
def Ride.alert (r : Ride) (note : Option String) (now : DateTime) : Ride :=
  { r with
    emergencyRequestedAt := r.emergencyRequestedAt.or (some now)
    emergencyStatus := some "open"
    emergencyNote := r.emergencyNote.or note }

/-- `request_emergency`. -/
def requestEmergency (env : Env) (rideId : UUID) (actor : Actor) (note : Option String)
    (eventId : UUID) (now : DateTime) : Action RideEmergencyEvent := do
  let ride ← loadRide rideId
  checkParticipant ride actor
  let latest ← latestEmergencyEvent ride.id
  checkEmergencyRate env.settings latest now
  save ride (ride.alert note now)
  let notified := (latest.map RideEmergencyEvent.contactNotified).getD false
  let contact ← askFor Reply.contact? (.emergencyContact actor.userId)
  let results ← askFor Reply.results? (.notifyEmergency
    { rideId := ride.id, actorUserId := actor.userId, actorRole := actor.role, contact := contact
      note := note
      includeContact := !(env.settings.rideEmergencyContactNotifyOnce && notified) })
  let event : RideEmergencyEvent :=
    { id := eventId, rideId := ride.id, actorUserId := actor.userId, actorRole := actor.role
      requestedAt := now, note := note
      sequence := (latest.map RideEmergencyEvent.sequence).getD 0 + 1
      contactNotified := notified || results.any fun item =>
        item.get "target" = .str "emergency_contact" ∧ item.get "status" = .str "sent"
      notificationResults := results }
  saveEmergencyEvent event
  return event

end DiddiGo.Rides
