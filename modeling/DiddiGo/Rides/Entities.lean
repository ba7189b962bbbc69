import DiddiGo.Basic
import DiddiGo.Data.Table

/-!
# Ride entities

The entity owns the business rules: `Ride.transition` is the state machine, and services call it
instead of validating on their own. The other entities are the rows that ride operations read or write.
-/

namespace DiddiGo.Rides

open Data (Json Keyed)

/-- Where a ride is in its life. -/
inductive RideStatus
  | requested
  | matched
  | driverEnRoute
  | arrived
  | inProgress
  | waiting
  | completed
  | cancelledByPassenger
  | cancelledByDriver
  | noDriverFound
  deriving DecidableEq, Repr

namespace RideStatus

/-- The stored text. -/
def value : RideStatus → String
  | requested => "requested"
  | matched => "matched"
  | driverEnRoute => "driver_en_route"
  | arrived => "arrived"
  | inProgress => "in_progress"
  | waiting => "waiting"
  | completed => "completed"
  | cancelledByPassenger => "cancelled_by_passenger"
  | cancelledByDriver => "cancelled_by_driver"
  | noDriverFound => "no_driver_found"

/-- `ALLOWED_TRANSITIONS`: the transitions allowed from each status. -/
def allowedTransitions : RideStatus → List RideStatus
  | requested => [matched, noDriverFound, cancelledByPassenger, cancelledByDriver]
  | matched => [driverEnRoute, cancelledByPassenger, cancelledByDriver]
  | driverEnRoute => [arrived, cancelledByPassenger, cancelledByDriver]
  | arrived => [inProgress, cancelledByPassenger, cancelledByDriver]
  | inProgress => [waiting, completed, cancelledByPassenger, cancelledByDriver]
  | waiting => [inProgress, completed, cancelledByPassenger, cancelledByDriver]
  | completed => []
  | cancelledByPassenger => []
  | cancelledByDriver => []
  | noDriverFound => []

/-- No further transitions are allowed. -/
def isTerminal (s : RideStatus) : Bool := s.allowedTransitions.isEmpty

/-- Statuses in which a driver is bound to the ride (`uq_rides_one_active_per_driver`). -/
def bindsDriver : RideStatus → Bool
  | matched | driverEnRoute | arrived | inProgress | waiting => true
  | _ => false

end RideStatus

/-- The vehicle category of a ride. -/
inductive VehicleCategory
  | standard
  | comfort
  | van
  deriving DecidableEq, Repr

/-- The comfort level of a ride. -/
inductive ComfortLevel
  | standard
  | comfort
  | premium
  deriving DecidableEq, Repr

/-- How the passenger chose to pay when the ride was created. -/
inductive PaymentMethod
  | cash
  | mobileMoney
  deriving DecidableEq, Repr

/-- `PaymentMethod.value`. -/
def PaymentMethod.value : PaymentMethod → String
  | .cash => "cash"
  | .mobileMoney => "mobile_money"

/-- A position in degrees. -/
structure GeoPoint where
  lat : ℚ
  lng : ℚ
  deriving DecidableEq, Repr

/-- One row of `ride_status_history`. -/
structure RideStatusTransition where
  rideId : UUID
  fromStatus : Option RideStatus
  toStatus : RideStatus
  changedAt : DateTime
  metadata : Option Json := none
  deriving DecidableEq, Repr

/-- Core entity for a ride request. -/
structure Ride where
  id : UUID
  passengerUserId : UUID
  status : RideStatus := .requested
  vehicleCategory : VehicleCategory := .standard
  comfortLevel : ComfortLevel := .standard
  isReviewAccount : Bool := false
  pickupLocation : Option GeoPoint := none
  pickupAddress : Option String := none
  dropoffLocation : Option GeoPoint := none
  dropoffAddress : Option String := none
  scheduledAt : Option DateTime := none
  requestedAt : Option DateTime := none
  matchedAt : Option DateTime := none
  arrivedAt : Option DateTime := none
  startedAt : Option DateTime := none
  completedAt : Option DateTime := none
  cancelledAt : Option DateTime := none
  cancellationReason : Option String := none
  completionReason : Option String := none
  earlyStopRequestedAt : Option DateTime := none
  earlyStopExpiresAt : Option DateTime := none
  earlyStopRequestedByUserId : Option UUID := none
  earlyStopConfirmedAt : Option DateTime := none
  estimatedFare : Option Decimal := none
  finalFare : Option Decimal := none
  waitingStartedAt : Option DateTime := none
  waitingDurationSeconds : Int := 0
  waitingFee : Decimal := 0
  waitingRatePerMinute : Option Decimal := none
  preRideWaitStartedAt : Option DateTime := none
  preRideWaitSeconds : Int := 0
  preRideWaitFee : Decimal := 0
  supplementsTotal : Decimal := 0
  currency : String := "XOF"
  distanceKm : Option Decimal := none
  durationSeconds : Option Int := none
  baseFare : Option Decimal := none
  distanceFare : Option Decimal := none
  durationFare : Option Decimal := none
  surgeMultiplier : Decimal := 1
  surgeCap : Decimal := 8 / 5
  commissionRate : Decimal := 9 / 50
  driverPayoutEstimate : Option Decimal := none
  platformCommission : Option Decimal := none
  actualDistanceKm : Option Decimal := none
  actualDurationSeconds : Option Int := none
  actualPricingFare : Option Decimal := none
  pricingDelta : Option Decimal := none
  mapTraceId : Option String := none
  traceAnalysisStatus : Option String := none
  traceAnalysisErrorCode : Option String := none
  traceRecommendation : Option String := none
  traceQualityLabel : Option String := none
  traceQualityScore : Option Decimal := none
  tracePointsCount : Option Int := none
  traceUsablePointsCount : Option Int := none
  paymentMethod : PaymentMethod := .cash
  quoteId : Option UUID := none
  startCodeHash : Option String := none
  startCodeAttempts : Int := 0
  startCodeBlockedAt : Option DateTime := none
  startCodeUsedAt : Option DateTime := none
  driverId : Option UUID := none
  vehicleId : Option UUID := none
  paymentTransactionId : Option UUID := none
  shareToken : Option String := none
  shareExpiresAt : Option DateTime := none
  emergencyRequestedAt : Option DateTime := none
  emergencyStatus : Option String := none
  emergencyNote : Option String := none
  statusHistory : List RideStatusTransition := []
  deriving DecidableEq, Repr

namespace Ride

/-- `Ride.transition`: `none` is an `InvalidStatusTransition`. The identical status is a no-op; the
timestamp of a status is set on the first visit; completion fixes the final fare if it is still
open. -/
def transition (r : Ride) (newStatus : RideStatus) (now : DateTime) (metadata : Option Json := none) :
    Option Ride :=
  if newStatus = r.status then some r
  else if newStatus ∈ r.status.allowedTransitions then
    let isCancellation := newStatus = .cancelledByPassenger ∨ newStatus = .cancelledByDriver
    let completes := newStatus = .completed ∧ r.completedAt = none
    some { r with
      status := newStatus
      matchedAt := if newStatus = .matched ∧ r.matchedAt = none then some now else r.matchedAt
      arrivedAt := if newStatus = .arrived ∧ r.arrivedAt = none then some now else r.arrivedAt
      startedAt := if newStatus = .inProgress ∧ r.startedAt = none then some now else r.startedAt
      completedAt := if completes then some now else r.completedAt
      finalFare := if completes ∧ r.finalFare = none then r.estimatedFare else r.finalFare
      cancelledAt := if isCancellation ∧ r.cancelledAt = none then some now else r.cancelledAt
      statusHistory := r.statusHistory ++
        [{ rideId := r.id, fromStatus := some r.status, toStatus := newStatus, changedAt := now
           metadata := metadata }] }
  else none

/-- The statuses in which a passenger cannot request another ride (`_ACTIVE_STATES`). -/
def isActive (r : Ride) : Bool :=
  match r.status with
  | .requested | .matched | .driverEnRoute | .arrived | .inProgress | .waiting => true
  | _ => false

end Ride

instance : Keyed Ride UUID := ⟨Ride.id⟩

/-! ## Who acts -/

/-- The authenticated user of a request. The role is the one in the access token. -/
structure Actor where
  userId : UUID
  role : String
  deriving DecidableEq, Repr

/-- `actor_role == "admin"`. -/
def Actor.isAdmin (a : Actor) : Bool := a.role = "admin"

/-- The reasons a caller of `cancel` may give. -/
inductive CancelReason
  | passengerChangedMind
  | passengerNoShow
  | driverUnavailable
  | foundAlternative
  | other
  deriving DecidableEq, Repr

/-- `CancelReason.value`. -/
def CancelReason.value : CancelReason → String
  | passengerChangedMind => "passenger_changed_mind"
  | passengerNoShow => "passenger_no_show"
  | driverUnavailable => "driver_unavailable"
  | foundAlternative => "found_alternative"
  | other => "other"

/-- `VALID_CANCEL_REASONS`. -/
def validCancelReasons : List String :=
  [CancelReason.passengerChangedMind, .passengerNoShow, .driverUnavailable, .foundAlternative,
    .other].map CancelReason.value

/-! ## Drivers and vehicles -/

/-- Where a driver's account is in its life. -/
inductive DriverStatus
  | pendingVerification
  | active
  | suspended
  | offline
  deriving DecidableEq, Repr

/-- The stored text. -/
def DriverStatus.value : DriverStatus → String
  | pendingVerification => "pending_verification"
  | active => "active"
  | suspended => "suspended"
  | offline => "offline"

/-- A driver profile. -/
structure DriverProfile where
  id : UUID
  userId : UUID
  status : DriverStatus := .pendingVerification
  isReviewAccount : Bool := false
  deriving DecidableEq, Repr

instance : Keyed DriverProfile UUID := ⟨DriverProfile.id⟩

/-- Whether the papers of a vehicle were approved. -/
inductive VehicleVerificationStatus
  | pendingVerification
  | active
  | suspended
  | rejected
  deriving DecidableEq, Repr

/-- The stored text. -/
def VehicleVerificationStatus.value : VehicleVerificationStatus → String
  | pendingVerification => "pending_verification"
  | active => "active"
  | suspended => "suspended"
  | rejected => "rejected"

/-- A vehicle. -/
structure Vehicle where
  id : UUID
  driverId : UUID
  category : VehicleCategory := .standard
  comfortLevel : ComfortLevel := .standard
  verificationStatus : VehicleVerificationStatus := .pendingVerification
  active : Bool := true
  deriving DecidableEq, Repr

instance : Keyed Vehicle UUID := ⟨Vehicle.id⟩

/-! ## What belongs to a ride -/

/-- A priced offer that a passenger can turn into one ride. -/
structure RideQuote where
  id : UUID
  passengerUserId : UUID
  pickupLocation : GeoPoint
  pickupAddress : Option String := none
  dropoffLocation : GeoPoint
  dropoffAddress : Option String := none
  vehicleCategory : VehicleCategory := .standard
  comfortLevel : ComfortLevel := .standard
  estimatedFare : Decimal
  distanceKm : Decimal
  durationSeconds : Int
  baseFare : Decimal
  distanceFare : Decimal
  durationFare : Decimal
  surgeMultiplier : Decimal
  surgeCap : Decimal
  commissionRate : Decimal
  platformCommission : Decimal
  driverPayoutEstimate : Decimal
  expiresAt : DateTime
  consumedAt : Option DateTime := none
  rideId : Option UUID := none
  deriving DecidableEq, Repr

instance : Keyed RideQuote UUID := ⟨RideQuote.id⟩

/-- Where a proposed supplement is in its life. -/
inductive SupplementStatus
  | pending
  | accepted
  | disputed
  deriving DecidableEq, Repr

/-- The stored text. -/
def SupplementStatus.value : SupplementStatus → String
  | pending => "pending"
  | accepted => "accepted"
  | disputed => "disputed"

/-- An extra amount that the driver proposes during the ride. -/
structure RideSupplement where
  id : UUID
  rideId : UUID
  amount : Decimal
  reason : String
  customLabel : Option String := none
  source : String := "catalog"
  status : SupplementStatus := .pending
  createdByUserId : Option UUID := none
  createdAt : DateTime
  decidedByUserId : Option UUID := none
  decidedAt : Option DateTime := none
  deriving DecidableEq, Repr

instance : Keyed RideSupplement UUID := ⟨RideSupplement.id⟩

/-- An alert of a participant. -/
structure RideEmergencyEvent where
  id : UUID
  rideId : UUID
  actorUserId : UUID
  actorRole : String
  requestedAt : DateTime
  note : Option String
  sequence : Int
  contactNotified : Bool
  notificationResults : List Json
  deriving DecidableEq, Repr

instance : Keyed RideEmergencyEvent (UUID × Int) := ⟨fun e => (e.rideId, e.sequence)⟩

/-- A GPS sample of a ride. -/
structure RideRoutePoint where
  rideId : UUID
  location : GeoPoint
  recordedAt : DateTime
  heading : Option Int := none
  speedKmh : Option Decimal := none
  accuracyM : Option Decimal := none
  source : String := "driver"
  deriving DecidableEq, Repr

/-! ## Priority -/

/-- Why a driver's priority moved. -/
inductive PriorityEventKind
  | rideCompleted
  | rideCancelledByDriver
  | tempBoost
  deriving DecidableEq, Repr

/-- The stored text. -/
def PriorityEventKind.value : PriorityEventKind → String
  | rideCompleted => "ride_completed"
  | rideCancelledByDriver => "ride_cancelled_by_driver"
  | tempBoost => "temp_boost"

/-- One fact of the priority ledger. -/
structure PriorityEvent where
  driverId : UUID
  kind : PriorityEventKind
  points : Int
  zoneId : Option UUID := none
  rideId : Option UUID := none
  reason : Option String := none
  expiresAt : Option DateTime := none
  deriving DecidableEq, Repr

/-- The dispatch tunables. -/
structure DispatchConfig where
  searchRadiusKm : ℚ := 5
  searchRadiusStepKm : ℚ
  searchRadiusMaxKm : ℚ
  offerWaveSize : Nat := 5
  searchBudgetSeconds : Int
  etaShortlistSize : Nat := 10
  priorityWindowDays : Int
  priorityCapSeconds : Int
  prioritySecondsPerPoint : Int
  pointsRideCompleted : Int
  pointsRideCancelledByDriver : Int
  deriving DecidableEq, Repr

namespace DispatchConfig

/-- `PriorityPolicy.points_for_ride_outcome`. -/
def pointsForRideOutcome (c : DispatchConfig) : PriorityEventKind → Int
  | .rideCompleted => c.pointsRideCompleted
  | .rideCancelledByDriver => c.pointsRideCancelledByDriver
  | .tempBoost => 0

/-- `PriorityPolicy.bonus_seconds`. -/
def bonusSeconds (c : DispatchConfig) (points : Int) : Int := points * c.prioritySecondsPerPoint

end DispatchConfig

end DiddiGo.Rides
