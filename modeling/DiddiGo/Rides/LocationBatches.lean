import DiddiGo.Data.JsonText
import DiddiGo.Data.Numeric
import DiddiGo.Data.Sha256
import DiddiGo.Rides.Changes
import DiddiGo.Transactions.System

/-!
# Batches of GPS samples

`add_location_samples` stores the samples of a batch once. The receipt of a batch holds a hash of the samples, by
which a call that sends the batch again is told from one that sends another batch under its identifier.

Floats are given by their `repr` and times by their `isoformat`, which is what the hash is made of.
-/

namespace DiddiGo.Rides.LocationBatches

open Data (Json Keyed Table)
open Transactions

/-! ## Samples -/

/-- The characters of the `repr` of a finite float. -/
def isFloatChar (c : Char) : Bool := c.isDigit || c = '.' || c = '-' || c = '+' || c = 'e'

/-- A float, by its `repr`. -/
structure PyFloat where
  text : String
  chars : text.toList.all isFloatChar = true
  deriving DecidableEq

/-- `Decimal(str(x))`. -/
def PyFloat.toDecimal (x : PyFloat) : Decimal :=
  let mantissa := x.text.toList.takeWhile (· ≠ 'e')
  let exponent := (x.text.toList.dropWhile (· ≠ 'e')).drop 1
  (Data.decimalOfString (String.ofList mantissa)).getD 0 *
    10 ^ (Data.intOfString (String.ofList exponent)).getD 0

/-- A time, by its `isoformat`. -/
structure PyDatetime where
  iso : String
  deriving DecidableEq

/-- The number in the characters from `first` on, `n` of them. -/
def numberAt (cs : List Char) (first n : Nat) : Int := (Data.natOfChars ((cs.drop first).take n)).getD 0

/-- The days from 1 January 1970 to a date of the Gregorian calendar. -/
def daysFromCivil (year month day : Int) : Int :=
  let year := if month ≤ 2 then year - 1 else year
  let dayOfYear := (153 * ((month + 9) % 12) + 2) / 5 + day - 1
  365 * year + year / 4 - year / 100 + year / 400 + dayOfYear - 719468

/-- The instant of a time; without an offset the time is UTC, which is where the server runs. -/
def PyDatetime.instant (t : PyDatetime) : DateTime :=
  let cs := t.iso.toList
  let days := daysFromCivil (numberAt cs 0 4) (numberAt cs 5 2) (numberAt cs 8 2)
  let time := seconds (86400 * days + 3600 * numberAt cs 11 2 + 60 * numberAt cs 14 2 + numberAt cs 17 2)
  let fraction := if cs[19]? = some '.' then numberAt cs 20 6 else 0
  let rest := if cs[19]? = some '.' then cs.drop 26 else cs.drop 19
  let offset := seconds (3600 * numberAt rest 1 2 + 60 * numberAt rest 4 2)
  match rest.head? with
  | some '+' => time + fraction - offset
  | some '-' => time + fraction + offset
  | _ => time + fraction

/-- `RideLocationSamplePayload`. -/
structure RideLocationSample where
  lat : PyFloat
  lng : PyFloat
  recordedAt : Option PyDatetime := none
  heading : Option Int := none
  speedKmh : Option PyFloat := none
  accuracyM : Option PyFloat := none
  source : String := "driver"
  deriving DecidableEq

/-- The JSON value of a float. -/
def PyFloat.toJson (x : PyFloat) : Json := .float x.toDecimal x.text

/-- `_json_default` of a time. -/
def PyDatetime.toJson (t : PyDatetime) : Json := .str t.iso

/-- The JSON value of what may be `None`. -/
def optional {α : Type} (toJson : α → Json) : Option α → Json
  | some a => toJson a
  | none => .null

/-- `sample.model_dump()`. -/
def RideLocationSample.toJson (sample : RideLocationSample) : Json :=
  .ofMembers [("lat", sample.lat.toJson), ("lng", sample.lng.toJson),
    ("recorded_at", optional PyDatetime.toJson sample.recordedAt), ("heading", optional Json.int sample.heading),
    ("speed_kmh", optional PyFloat.toJson sample.speedKmh), ("accuracy_m", optional PyFloat.toJson sample.accuracyM),
    ("source", .str sample.source)]

/-- The JSON array of the samples. -/
def samplesJson (samples : List RideLocationSample) : Json :=
  samples.foldr (fun sample rest => .arrCons sample.toJson rest) .arrNil

/-- `json.dumps(samples, sort_keys=True, separators=(",", ":"), default=_json_default)`. -/
def payloadText (samples : List RideLocationSample) : String := (samplesJson samples).dumps

/-- `hashlib.sha256(text.encode("utf-8")).hexdigest()`. -/
def hashText (text : String) : String := Data.hexdigest (Data.sha256 (Data.utf8 text))

/-! ## The database -/

/-- A row of `ride_location_batches`. -/
structure RideLocationBatch where
  rideId : UUID
  batchId : UUID
  actorUserId : UUID
  samplesCount : Nat
  payloadHash : String
  deriving DecidableEq, Repr

instance : Keyed RideLocationBatch (UUID × UUID) := ⟨fun batch => (batch.rideId, batch.batchId)⟩

/-- The tables of rides, and the receipts of batches. -/
structure LocationDb extends RideDb where
  batches : Table RideLocationBatch := .empty

/-- The unique keys that a statement can lock. -/
inductive Row
  /-- `uq_ride_location_batch`. -/
  | batch (rideId batchId : UUID)
  deriving DecidableEq, Repr

/-- The calls ask nobody. -/
abbrev sig : Signature where
  State := LocationDb
  Row := Row
  Label := Empty
  Query := Empty
  Answer := Empty
  Err := Err

/-- A program on batches. -/
abbrev Action := Prog sig

/-- What a text column of `n` characters stores; `none` is a `DataError`. -/
def varchar (n : Nat) (text : String) : Option String :=
  if text.toList.contains (Char.ofNat 0) then none
  else if ((text.toList.drop n).all (· = ' ')) = true then some (String.ofList (text.toList.take n))
  else none

/-- What the columns of a point store; `none` is a `DataError`. -/
def storedPoint (point : RideRoutePoint) : Option RideRoutePoint := do
  let speedKmh ← point.speedKmh.mapM (Data.numeric 7 2)
  let accuracyM ← point.accuracyM.mapM (Data.numeric 7 2)
  let source ← varchar 20 point.source
  return { point with speedKmh := speedKmh, accuracyM := accuracyM, source := source }

/-- `save_route_points`. -/
def saveRoutePoints (points : List RideRoutePoint) : Action Unit :=
  match points.mapM storedPoint with
  | some rows => Prog.update [] fun db => { db with routePoints := db.routePoints ++ rows }
  | none => throw (.other "DataError")

/-- `save_route_point_batch`: the number of samples, whether the batch was replayed, and whether it is another one. -/
def saveRoutePointBatch (rideId batchId actorUserId : UUID) (payloadHash : String) (points : List RideRoutePoint) :
    Action (Nat × Bool × Bool) := do
  if points = [] then
    return (0, false, false)
  let receipt : RideLocationBatch :=
    { rideId := rideId, batchId := batchId, actorUserId := actorUserId, samplesCount := points.length
      payloadHash := payloadHash }
  let inserted ← Prog.insertOnce (.batch rideId batchId) (fun db => (db.batches.find? (rideId, batchId)).isSome)
    fun db => { db with batches := db.batches.insert receipt }
  if inserted then
    saveRoutePoints points
    return (points.length, false, false)
  match ← Prog.select fun db => db.batches.find? (rideId, batchId) with
  | some existing => return (existing.samplesCount, true, decide (existing.payloadHash ≠ payloadHash))
  | none => throw .noResult

/-! ## Calls -/

/-- A call of `add_location_samples`. -/
structure LocationCall where
  rideId : UUID
  samples : List RideLocationSample
  actorUserId : UUID
  batchId : UUID
  now : DateTime
  deriving DecidableEq

/-- What a call returns. -/
structure LocationResponse where
  rideId : UUID
  batchId : UUID
  acceptedSamples : Nat
  replayed : Bool
  deriving DecidableEq, Repr

namespace LocationCall

/-- The point of a sample. -/
def point (call : LocationCall) (sample : RideLocationSample) : RideRoutePoint where
  rideId := call.rideId
  location := ⟨sample.lat.toDecimal, sample.lng.toDecimal⟩
  recordedAt := (sample.recordedAt.map PyDatetime.instant).getD call.now
  heading := sample.heading
  speedKmh := sample.speedKmh.map PyFloat.toDecimal
  accuracyM := sample.accuracyM.map PyFloat.toDecimal
  source := sample.source

/-- The points of the samples. -/
def points (call : LocationCall) : List RideRoutePoint := call.samples.map call.point

/-- `payload_hash`. -/
def payloadHash (call : LocationCall) : String := hashText (payloadText call.samples)

/-- `GPS_BATCH_IDEMPOTENCY_CONFLICT`. -/
def conflict (call : LocationCall) : Err :=
  .api
    { statusCode := 409, code := "GPS_BATCH_IDEMPOTENCY_CONFLICT"
      message := "Ce batch_id a deja ete utilise avec un lot GPS different."
      details := Json.ofMembers [("batch_id", .str (UUID.str call.batchId))] }

/-- The error of `load_ride`. -/
def rideNotFound : Err :=
  .api { statusCode := 404, code := "RIDE_NOT_FOUND", message := "Aucune course trouvee avec cet identifiant." }

/-- `RIDE_NOT_OWNED_BY_USER`. -/
def notOwned : Err :=
  .api
    { statusCode := 403, code := "RIDE_NOT_OWNED_BY_USER"
      message := "Seul le chauffeur assigne peut envoyer ces traces." }

/-- `load_ride`. -/
def loadRide (call : LocationCall) : Action Ride := do
  match ← Prog.select fun db => db.ride? call.rideId with
  | some ride => return ride
  | none => throw rideNotFound

/-- `_is_assigned_driver`. -/
def isAssignedDriver (call : LocationCall) (ride : Ride) : Action Bool :=
  match ride.driverId with
  | none => return false
  | some driverId => do
    let profile ← Prog.select fun db => db.profileOf call.actorUserId
    return profile.map DriverProfile.id = some driverId

/-- `add_location_samples`. -/
def action (call : LocationCall) : Action LocationResponse := do
  let ride ← call.loadRide
  let assigned ← call.isAssignedDriver ride
  Prog.raiseIf (assigned = false) notOwned
  let (acceptedSamples, replayed, conflict) ←
    saveRoutePointBatch call.rideId call.batchId call.actorUserId call.payloadHash call.points
  Prog.raiseIf (conflict = true) call.conflict
  return { rideId := call.rideId, batchId := call.batchId, acceptedSamples := acceptedSamples, replayed := replayed }

end LocationCall

end DiddiGo.Rides.LocationBatches
