import DiddiGo.Rides.Database

/-!
# The ride repositories

The statements that each repository method sends, in order. A ride object is a copy of its row: `save`
reloads the row, and the ORM writes the columns in which the object differs from what was reloaded.
-/

namespace DiddiGo.Rides

open Data (Json Keyed Table)
open Transactions

/-! ## Rides -/

/-- The object for a row (`_to_domain`). -/
def Ride.toDomain (row : Ride) : Ride := { row with statusHistory := [] }

/-- A column of a row that was loaded with `loaded` and is flushed with `new`, if it holds `current`. -/
def column {α : Type} [DecidableEq α] (loaded new current : α) : α :=
  if new = loaded then current else new

/-- The row `current` after the object `ride`, whose row was loaded as `loaded`, is flushed. -/
def Ride.flush (loaded ride current : Ride) : Ride where
  id := current.id
  passengerUserId := column loaded.passengerUserId ride.passengerUserId current.passengerUserId
  status := column loaded.status ride.status current.status
  vehicleCategory := column loaded.vehicleCategory ride.vehicleCategory current.vehicleCategory
  comfortLevel := column loaded.comfortLevel ride.comfortLevel current.comfortLevel
  isReviewAccount := column loaded.isReviewAccount ride.isReviewAccount current.isReviewAccount
  pickupLocation := column loaded.pickupLocation (ride.pickupLocation.or loaded.pickupLocation)
    current.pickupLocation
  pickupAddress := column loaded.pickupAddress ride.pickupAddress current.pickupAddress
  dropoffLocation := column loaded.dropoffLocation (ride.dropoffLocation.or loaded.dropoffLocation)
    current.dropoffLocation
  dropoffAddress := column loaded.dropoffAddress ride.dropoffAddress current.dropoffAddress
  scheduledAt := column loaded.scheduledAt ride.scheduledAt current.scheduledAt
  requestedAt := column loaded.requestedAt ride.requestedAt current.requestedAt
  matchedAt := column loaded.matchedAt ride.matchedAt current.matchedAt
  arrivedAt := column loaded.arrivedAt ride.arrivedAt current.arrivedAt
  startedAt := column loaded.startedAt ride.startedAt current.startedAt
  completedAt := column loaded.completedAt ride.completedAt current.completedAt
  cancelledAt := column loaded.cancelledAt ride.cancelledAt current.cancelledAt
  cancellationReason := column loaded.cancellationReason ride.cancellationReason
    current.cancellationReason
  completionReason := column loaded.completionReason ride.completionReason current.completionReason
  earlyStopRequestedAt := column loaded.earlyStopRequestedAt ride.earlyStopRequestedAt
    current.earlyStopRequestedAt
  earlyStopExpiresAt := column loaded.earlyStopExpiresAt ride.earlyStopExpiresAt
    current.earlyStopExpiresAt
  earlyStopRequestedByUserId := column loaded.earlyStopRequestedByUserId
    ride.earlyStopRequestedByUserId current.earlyStopRequestedByUserId
  earlyStopConfirmedAt := column loaded.earlyStopConfirmedAt ride.earlyStopConfirmedAt
    current.earlyStopConfirmedAt
  estimatedFare := column loaded.estimatedFare ride.estimatedFare current.estimatedFare
  finalFare := column loaded.finalFare ride.finalFare current.finalFare
  waitingStartedAt := column loaded.waitingStartedAt ride.waitingStartedAt current.waitingStartedAt
  waitingDurationSeconds := column loaded.waitingDurationSeconds ride.waitingDurationSeconds
    current.waitingDurationSeconds
  waitingFee := column loaded.waitingFee ride.waitingFee current.waitingFee
  waitingRatePerMinute := column loaded.waitingRatePerMinute ride.waitingRatePerMinute
    current.waitingRatePerMinute
  preRideWaitStartedAt := column loaded.preRideWaitStartedAt ride.preRideWaitStartedAt
    current.preRideWaitStartedAt
  preRideWaitSeconds := column loaded.preRideWaitSeconds ride.preRideWaitSeconds
    current.preRideWaitSeconds
  preRideWaitFee := column loaded.preRideWaitFee ride.preRideWaitFee current.preRideWaitFee
  supplementsTotal := column loaded.supplementsTotal ride.supplementsTotal current.supplementsTotal
  currency := column loaded.currency ride.currency current.currency
  distanceKm := column loaded.distanceKm ride.distanceKm current.distanceKm
  durationSeconds := column loaded.durationSeconds ride.durationSeconds current.durationSeconds
  baseFare := column loaded.baseFare ride.baseFare current.baseFare
  distanceFare := column loaded.distanceFare ride.distanceFare current.distanceFare
  durationFare := column loaded.durationFare ride.durationFare current.durationFare
  surgeMultiplier := column loaded.surgeMultiplier ride.surgeMultiplier current.surgeMultiplier
  surgeCap := column loaded.surgeCap ride.surgeCap current.surgeCap
  commissionRate := column loaded.commissionRate ride.commissionRate current.commissionRate
  driverPayoutEstimate := column loaded.driverPayoutEstimate ride.driverPayoutEstimate
    current.driverPayoutEstimate
  platformCommission := column loaded.platformCommission ride.platformCommission
    current.platformCommission
  actualDistanceKm := column loaded.actualDistanceKm ride.actualDistanceKm current.actualDistanceKm
  actualDurationSeconds := column loaded.actualDurationSeconds ride.actualDurationSeconds
    current.actualDurationSeconds
  actualPricingFare := column loaded.actualPricingFare ride.actualPricingFare current.actualPricingFare
  pricingDelta := column loaded.pricingDelta ride.pricingDelta current.pricingDelta
  mapTraceId := column loaded.mapTraceId ride.mapTraceId current.mapTraceId
  traceAnalysisStatus := column loaded.traceAnalysisStatus ride.traceAnalysisStatus
    current.traceAnalysisStatus
  traceAnalysisErrorCode := column loaded.traceAnalysisErrorCode ride.traceAnalysisErrorCode
    current.traceAnalysisErrorCode
  traceRecommendation := column loaded.traceRecommendation ride.traceRecommendation
    current.traceRecommendation
  traceQualityLabel := column loaded.traceQualityLabel ride.traceQualityLabel current.traceQualityLabel
  traceQualityScore := column loaded.traceQualityScore ride.traceQualityScore current.traceQualityScore
  tracePointsCount := column loaded.tracePointsCount ride.tracePointsCount current.tracePointsCount
  traceUsablePointsCount := column loaded.traceUsablePointsCount ride.traceUsablePointsCount
    current.traceUsablePointsCount
  paymentMethod := column loaded.paymentMethod ride.paymentMethod current.paymentMethod
  quoteId := column loaded.quoteId ride.quoteId current.quoteId
  startCodeHash := column loaded.startCodeHash ride.startCodeHash current.startCodeHash
  startCodeAttempts := column loaded.startCodeAttempts ride.startCodeAttempts current.startCodeAttempts
  startCodeBlockedAt := column loaded.startCodeBlockedAt ride.startCodeBlockedAt
    current.startCodeBlockedAt
  startCodeUsedAt := column loaded.startCodeUsedAt ride.startCodeUsedAt current.startCodeUsedAt
  driverId := column loaded.driverId ride.driverId current.driverId
  vehicleId := column loaded.vehicleId ride.vehicleId current.vehicleId
  paymentTransactionId := column loaded.paymentTransactionId ride.paymentTransactionId
    current.paymentTransactionId
  shareToken := column loaded.shareToken ride.shareToken current.shareToken
  shareExpiresAt := column loaded.shareExpiresAt ride.shareExpiresAt current.shareExpiresAt
  emergencyRequestedAt := column loaded.emergencyRequestedAt ride.emergencyRequestedAt
    current.emergencyRequestedAt
  emergencyStatus := column loaded.emergencyStatus ride.emergencyStatus current.emergencyStatus
  emergencyNote := column loaded.emergencyNote ride.emergencyNote current.emergencyNote
  statusHistory := current.statusHistory

namespace Ride

/-- The driver that the ride keeps from other rides. -/
def activeDriver (r : Ride) : Option UUID := if r.status.bindsDriver then r.driverId else none

/-- The unique keys of the ride. -/
def keys (r : Ride) : List Row :=
  [.ride r.id] ++ (r.activeDriver.map Row.activeDriver).toList ++ (r.quoteId.map Row.rideQuote).toList ++
    (r.shareToken.map Row.shareToken).toList

/-- Two different rides cannot both be stored. -/
def Conflicts (r x : Ride) : Prop :=
  (r.activeDriver.isSome ∧ x.activeDriver = r.activeDriver) ∨
    (r.quoteId.isSome ∧ x.quoteId = r.quoteId) ∨ (r.shareToken.isSome ∧ x.shareToken = r.shareToken)

instance (r x : Ride) : Decidable (r.Conflicts x) := by unfold Conflicts; infer_instance

end Ride

namespace RideDb

/-- A unique key of `r` belongs to another ride. -/
def conflict (db : RideDb) (r : Ride) : Bool := db.rides.rows.any fun x => x.id ≠ r.id ∧ r.Conflicts x

/-- A new ride. -/
def insertRide (db : RideDb) (r : Ride) : RideDb :=
  { db with rides := db.rides.insert r.toDomain }

/-- The ride object, loaded from the row `loaded`, is flushed. -/
def flushRide (db : RideDb) (loaded ride : Ride) : RideDb :=
  { db with rides := db.rides.update ride.id (Ride.flush loaded ride) }

/-- The row of the ride after it is flushed. -/
def flushed (db : RideDb) (loaded ride : Ride) : Ride :=
  Ride.flush loaded ride ((db.rides.find? ride.id).getD loaded)

end RideDb

/-- `find_by_id`. -/
def findRideById (id : UUID) : Action (Option Ride) :=
  Prog.select fun (db : RideDb) => (db.rides.find? id).map Ride.toDomain

/-- `save`, by code that read the ride as `read`: the row is reloaded, and written or inserted. -/
def save (read ride : Ride) : Action Unit := do
  match ← Prog.selectAs (.save read) fun (db : RideDb) => db.rides.find? ride.id with
  | none =>
    Prog.writeOrRaise ride.keys (fun (db : RideDb) => (db.rides.find? ride.id).isSome || db.conflict ride)
      (fun (db : RideDb) => db.insertRide ride) .integrity
  | some loaded =>
    Prog.writeOrRaiseAs (.save read) ride.keys
      (fun (db : RideDb) => db.conflict (db.flushed loaded ride))
      (fun (db : RideDb) => db.flushRide loaded ride) .integrity

/-- `record_status_transition`. -/
def recordStatusTransition (t : RideStatusTransition) : Action Unit :=
  Prog.update [] fun (db : RideDb) => { db with history := db.history ++ [t] }

/-- `for transition in ride.status_history: record_status_transition(transition)`. -/
def recordStatusTransitions : List RideStatusTransition → Action Unit
  | [] => return ()
  | t :: ts => do
    recordStatusTransition t
    recordStatusTransitions ts

/-- `record_status_transition(ride.status_history[-1])`. -/
def recordLastTransition (ride : Ride) : Action Unit :=
  match ride.statusHistory.getLast? with
  | some t => recordStatusTransition t
  | none => throw (.other "IndexError")

/-- `has_active_ride`. -/
def hasActiveRide (passengerUserId : UUID) : Action Bool :=
  Prog.selectAs (.activeRides passengerUserId) fun (db : RideDb) =>
    db.rides.rows.any fun r => r.passengerUserId = passengerUserId ∧ r.isActive

/-- `find_active_by_driver_user_id`: the latest one. -/
def findActiveByDriverUserId (userId : UUID) : Action (Option Ride) :=
  Prog.select fun (db : RideDb) =>
    (((db.rides.rows.filter fun r => r.isActive ∧
        (db.profiles.rows.any fun p => p.userId = userId ∧ r.driverId = some p.id)).mergeSort
      fun a b => b.requestedAt.getD 0 ≤ a.requestedAt.getD 0).head?).map Ride.toDomain

/-! ## Supplements -/

/-- `add_supplement`. -/
def insertSupplement (s : RideSupplement) : Action Unit :=
  Prog.writeOrRaise [.supplement s.id]
    (fun (db : RideDb) => (db.supplements.find? s.id).isSome)
    (fun (db : RideDb) => { db with supplements := db.supplements.insert s }) .integrity

/-- `find_supplement_for_update`: locks the ride and the supplement. -/
def findSupplementForUpdate (rideId supplementId : UUID) : Action (Option RideSupplement) := do
  let _ ← Prog.selectForUpdate (.ride rideId) fun (db : RideDb) => db.rides.find? rideId
  Prog.selectForUpdate (.supplement supplementId) fun (db : RideDb) =>
    (db.supplements.find? supplementId).filter fun s => s.rideId = rideId

/-- `save_supplement`. -/
def saveSupplement (s : RideSupplement) : Action Unit := do
  match ← Prog.select fun (db : RideDb) => db.supplements.find? s.id with
  | none => throw .conversion
  | some _ =>
    Prog.update [.supplement s.id] fun (db : RideDb) =>
      { db with supplements := db.supplements.update s.id fun row =>
          { row with
            status := s.status
            decidedByUserId := s.decidedByUserId
            decidedAt := s.decidedAt } }

/-- The sum of the supplements of the ride that the passenger accepted. -/
def RideDb.acceptedSupplements (db : RideDb) (rideId : UUID) : Decimal :=
  db.supplements.sum fun s => if s.rideId = rideId ∧ s.status = .accepted then s.amount else 0

/-- `accepted_supplements_total`. -/
def acceptedSupplementsTotal (rideId : UUID) : Action Decimal :=
  Prog.select fun (db : RideDb) => db.acceptedSupplements rideId

/-! ## Alerts and GPS samples -/

/-- `latest_emergency_event`. -/
def latestEmergencyEvent (rideId : UUID) : Action (Option RideEmergencyEvent) :=
  Prog.selectAs (.latestAlert rideId) fun (db : RideDb) =>
    ((db.emergencyEvents.rows.filter fun e => e.rideId = rideId).mergeSort
      fun a b => b.sequence ≤ a.sequence).head?

/-- `save_emergency_event`. -/
def saveEmergencyEvent (e : RideEmergencyEvent) : Action Unit :=
  Prog.writeOrRaise [.emergencyEvent e.rideId e.sequence]
    (fun (db : RideDb) => (db.emergencyEvents.find? (Keyed.key e)).isSome)
    (fun (db : RideDb) => { db with emergencyEvents := db.emergencyEvents.insert e }) .integrity

/-- `list_route_points`: in the order in which they were recorded. -/
def listRoutePoints (rideId : UUID) : Action (List RideRoutePoint) :=
  Prog.select fun (db : RideDb) =>
    (db.routePoints.filter fun p => p.rideId = rideId).mergeSort fun a b => a.recordedAt ≤ b.recordedAt

/-! ## Quotes -/

/-- `find_by_id` of a quote: locks the row. -/
def findQuoteById (id : UUID) : Action (Option RideQuote) :=
  Prog.selectForUpdate (.quote id) fun (db : RideDb) => db.quotes.find? id

/-- `consume`. -/
def consumeQuote (quoteId rideId : UUID) (consumedAt : DateTime) : Action Unit :=
  Prog.update [.quote quoteId] fun (db : RideDb) =>
    { db with quotes := db.quotes.update quoteId fun q =>
        { q with rideId := some rideId, consumedAt := some consumedAt } }

/-! ## Drivers -/

/-- The profile of a user. -/
def RideDb.profileOf (db : RideDb) (userId : UUID) : Option DriverProfile :=
  db.profiles.rows.find? fun p => p.userId = userId

/-- `find_by_user_id`. -/
def findProfileByUserId (userId : UUID) : Action (Option DriverProfile) :=
  Prog.select fun (db : RideDb) => db.profileOf userId

/-- `find_by_id` of a driver profile. -/
def findProfileById (id : UUID) : Action (Option DriverProfile) :=
  Prog.select fun (db : RideDb) => db.profiles.find? id

/-- `profile_ids_for_users`. -/
def profileIdsForUsers (userIds : List UUID) : Action (List (UUID × UUID)) :=
  Prog.select fun (db : RideDb) =>
    (db.profiles.rows.filter fun p => p.userId ∈ userIds).map fun p => (p.userId, p.id)

/-- `find_active_for_driver`: takes the first one. -/
def findActiveVehicle (driverId : UUID) : Action (Option Vehicle) :=
  Prog.select fun (db : RideDb) => db.vehicles.rows.find? fun v => v.driverId = driverId ∧ v.active

/-! ## Priority -/

/-- `append`. -/
def appendPriorityEvent (e : PriorityEvent) : Action Unit :=
  Prog.update [] fun (db : RideDb) => { db with priorityEvents := db.priorityEvents ++ [e] }

end DiddiGo.Rides
