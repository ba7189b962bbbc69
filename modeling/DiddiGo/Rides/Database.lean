import DiddiGo.Rides.Entities
import DiddiGo.Transactions.Prog

/-!
# The ride database and the services around it

The tables of the `ride` schema, the commands that ride code sends to Redis, DiddiMap and the other
modules, and the vocabulary of the transactions.
-/

namespace DiddiGo.Rides

open Data (Json Table)
open Transactions

/-- The tables that ride operations read or write. -/
structure RideDb where
  rides : Table Ride := .empty
  /-- `ride_status_history`, oldest row first. -/
  history : List RideStatusTransition := []
  supplements : Table RideSupplement := .empty
  quotes : Table RideQuote := .empty
  profiles : Table DriverProfile := .empty
  vehicles : Table Vehicle := .empty
  emergencyEvents : Table RideEmergencyEvent := .empty
  /-- `ride_route_points`, oldest row first. -/
  routePoints : List RideRoutePoint := []
  /-- The ride outcomes in the priority ledger, oldest row first. -/
  priorityEvents : List PriorityEvent := []

/-- Rows and unique keys that a statement can lock. -/
inductive Row
  | ride (id : UUID)
  /-- `uq_rides_one_active_per_driver`. -/
  | activeDriver (driverId : UUID)
  | rideQuote (quoteId : UUID)
  | shareToken (token : String)
  | quote (id : UUID)
  | supplement (id : UUID)
  | emergencyEvent (rideId : UUID) (sequence : Int)
  deriving DecidableEq, Repr

/-- Statements that properties of runs refer to. -/
inductive Label
  /-- A ride is reloaded or written by code that read it as `read`. -/
  | save (read : Ride)
  /-- A wrong start code was compared with the ride `read`. -/
  | wrongCode (read : Ride)
  /-- The active rides of a passenger are looked up. -/
  | activeRides (passengerUserId : UUID)
  /-- The latest alert of a ride is read. -/
  | latestAlert (rideId : UUID)
  deriving DecidableEq, Repr

/-- The type of a Redis key. -/
inductive KeyType
  | none
  | string
  | set
  deriving DecidableEq, Repr

/-- What DiddiMap says about a finished trace. -/
structure RouteTraceAnalysis where
  actualDistanceKm : Option Decimal
  actualDurationSeconds : Option Int
  usableForScoring : Bool := true
  recommendation : Option String := none
  qualityLabel : Option String := none
  qualityScore : Option Decimal := none
  pointsCount : Option Int := none
  usablePointsCount : Option Int := none
  deriving DecidableEq, Repr

/-- Whom a passenger wants to be told about an alert. -/
structure EmergencyContact where
  userId : UUID
  contactName : Option String := none
  phone : Option String := none
  email : Option String := none
  relationship : Option String := none
  deriving DecidableEq, Repr

/-- An alert that goes out by mail, SMS or WhatsApp. -/
structure EmergencyNotice where
  rideId : UUID
  actorUserId : UUID
  actorRole : String
  contact : Option EmergencyContact
  note : Option String
  includeContact : Bool
  deriving DecidableEq, Repr

/-- Commands to Redis, requests to DiddiMap, and questions to other modules. Where one request may send a
command again, `nth` counts. -/
inductive Query
  /-- `TYPE rides:offer:{ride}`. -/
  | offerType (rideId : UUID) (nth : Nat)
  /-- `SMEMBERS rides:offer:{ride}`, or `GET` if the key is a string. -/
  | offerMembers (rideId : UUID) (nth : Nat)
  /-- The pipeline of `open_offers`. -/
  | openOffers (rideId : UUID) (driverUserIds : List UUID)
  /-- `SREM rides:offer:{ride}`. -/
  | removeOffer (rideId driverUserId : UUID)
  /-- `SCARD rides:offer:{ride}`. -/
  | countOffers (rideId : UUID)
  /-- `DEL rides:offer:{ride}`. -/
  | deleteOffers (rideId : UUID)
  /-- `SMEMBERS rides:offer:tried:{ride}`. -/
  | triedMembers (rideId : UUID)
  /-- `SET rides:claim:{ride} NX`. -/
  | claim (rideId driverUserId : UUID)
  /-- `DEL rides:claim:{ride}`. -/
  | releaseClaim (rideId : UUID)
  /-- The pipeline of `clear`. -/
  | clear (rideId : UUID)
  /-- `SET` or `DEL drivers:available:{user}`. -/
  | setAvailable (userId : UUID) (available : Bool)
  /-- `GEOSEARCH drivers:positions`, nearest first. -/
  | geosearch (location : GeoPoint) (radiusKm : ℚ) (count : Nat)
  /-- The pipeline of `EXISTS` for the presence markers, and the availability markers if asked. -/
  | markers (members : List String) (requireAvailable : Bool)
  /-- `GEOPOS drivers:positions` of several drivers. -/
  | coordinates (userIds : List UUID)
  /-- `GEOPOS drivers:positions` of one driver. -/
  | position (userId : UUID)
  /-- `GET drivers:speed:{user}`. -/
  | speed (userId : UUID)
  /-- The travel time of a driver to a pickup. -/
  | estimate (driverUserId : UUID) (origin destination : GeoPoint) (profile : String)
  | startTrace (rideId : UUID) (origin destination : GeoPoint) (plannedDistanceKm : Option Decimal)
      (plannedDurationSeconds : Option Int) (profile : String)
  | appendTracePositions (traceId : String) (points : List RideRoutePoint)
  | finishTrace (traceId : String) (finishedAt : DateTime)
  | analyzeTrace (traceId : String)
  /-- `partner_service.driver_is_blocked_by_partner`. -/
  | blockedByPartner (driverId : UUID)
  /-- The balance of `payment_repo.get_or_create_wallet`. -/
  | walletBalance (driverId : UUID)
  /-- `priority.scores_for`. -/
  | priorityScores (driverIds : List UUID) (now : DateTime)
  /-- `emergency_contact_repo.find_by_user_id`. -/
  | emergencyContact (userId : UUID)
  /-- `emergency_notifications.notify`. -/
  | notifyEmergency (notice : EmergencyNotice)
  deriving DecidableEq, Repr

/-- What they say. -/
inductive Reply
  | done
  | keyType (type : KeyType)
  | users (userIds : List UUID)
  | count (n : Nat)
  | flag (b : Bool)
  | members (texts : List String)
  | flags (bs : List Bool)
  | positions (ps : List (UUID × GeoPoint))
  | position (p : Option GeoPoint)
  | speed (kmh : Option ℚ)
  | seconds (n : Int)
  | trace (id : String)
  | analysis (a : RouteTraceAnalysis)
  | blocked (b : Bool) (reason : Option String)
  | amount (d : Decimal)
  | scores (points : List (UUID × Int))
  | contact (c : Option EmergencyContact)
  | results (items : List Json)
  deriving DecidableEq, Repr

/-- An answer, or the exception that the client raises. -/
abbrev Answer := Except Err Reply

/-- Ride transactions. -/
abbrev sig : Signature where
  State := RideDb
  Row := Row
  Label := Label
  Query := Query
  Answer := Answer
  Err := Err

/-- A program of the ride module. -/
abbrev Action (α : Type) := Prog sig α

/-- Raise an `ApiError`. -/
def apiError {α : Type} (statusCode : Nat) (code message : String) (details : Json := .null) :
    Action α :=
  throw (.api { statusCode := statusCode, code := code, message := message, details := details })

/-- Raise an `ApiError` if `c` holds. -/
def apiErrorIf (c : Prop) [Decidable c] (statusCode : Nat) (code message : String)
    (details : Json := .null) : Action Unit :=
  Prog.raiseIf c
    (.api { statusCode := statusCode, code := code, message := message, details := details })

/-- Ask, and go on with the part of the reply that `read` finds; an exception goes to the caller. -/
def askFor {α : Type} (read : Reply → Option α) (q : Query) : Action α := do
  match ← Prog.ask q with
  | .error e => throw e
  | .ok reply =>
    match read reply with
    | some a => return a
    | none => throw (.other "TypeError")

/-- Send a command whose reply does not matter. -/
def tell (q : Query) : Action Unit := askFor (fun _ => some ()) q

end DiddiGo.Rides
