import DiddiGo.Rides.Changes
import DiddiGo.Rides.DriverService
import DiddiGo.Rides.Locations

/-!
# Availability and assignments

The assignments in the database and the availability markers in Redis, which different requests keep.
-/

namespace DiddiGo.Rides

open Transactions

/-- The user is the driver of a ride that keeps him from other rides. -/
def RideDb.Busy (db : RideDb) (userId : UUID) : Prop :=
  ∃ id ride profile, db.ride? id = some ride ∧ ride.activeDriver = some profile.id ∧
    db.profiles.find? profile.id = some profile ∧ profile.userId = userId

/-- A user has one driver profile at most. -/
def RideDb.OneProfileEach (db : RideDb) : Prop :=
  ∀ p ∈ db.profiles.rows, ∀ q ∈ db.profiles.rows, p.userId = q.userId → p = q

instance (db : RideDb) : Decidable db.OneProfileEach := by unfold RideDb.OneProfileEach; infer_instance

/-- The database, and the keys of the drivers. -/
structure Fleet where
  db : RideDb
  locations : Locations

/-- A driver who has a ride has no availability marker, so no search finds him. -/
def Fleet.InStep (f : Fleet) : Prop :=
  ∀ userId, f.db.Busy userId → f.locations.available (UUID.str userId) = none ∧
    ∀ distanceKm now location radiusKm limit,
      userId ∉ f.locations.nearby distanceKm now location radiusKm limit true

/-- The marker that a command sets or removes. -/
def Query.marker? : Query → Option (UUID × Bool)
  | setAvailable userId available => some (userId, available)
  | _ => none

/-- Redis keeps the markers; apart from them, what is asked is answered by `ask`. -/
def keepMarkers (ask : Query → Answer) (now : DateTime) : Services sig Locations := fun l q =>
  (ask q, match q.marker?, ask q with
    | some (userId, available), .ok _ => l.setAvailable userId available now
    | _, _ => l)

/-- The ride whose driver is released when the request succeeds. -/
def RideOp.released? : RideOp → Option UUID
  | updateStatus rideId status => if rideStatusOf status = some .completed then some rideId else none
  | confirmEarlyStop rideId | markNoShow rideId | cancel rideId _ => some rideId
  | _ => none

/-- What happens to the rides and to the drivers. -/
inductive FleetStep
  /-- `POST /drivers/online`. -/
  | goOnline (actor : Actor) (isReviewAccount : Bool) (location : GeoPoint) (ask : Query → Answer)
      (now : DateTime)
  /-- `POST /drivers/offline`, or a socket is closed. -/
  | goOffline (userId : UUID)
  | push (userId : UUID) (location : GeoPoint) (speedKmh : Option ℚ) (now : DateTime)
  | request (c : RideCall) (ask : Query → Answer) (now : DateTime)
  /-- Another module writes its tables. -/
  | elsewhere (patch : RideDb → RideDb) (h : ∀ db, Elsewhere db (patch db))

namespace FleetStep

variable (env : Env)

/-- What the step leaves behind. -/
def after (step : FleetStep) (f : Fleet) : Fleet :=
  match step with
  | goOnline actor isReviewAccount location ask now =>
    match (admitOnline env actor isReviewAccount).run ask f.db with
    | (.ok _, db) =>
      { db := db
        locations := (f.locations.updatePosition actor.userId location none now).setAvailable actor.userId true now }
    | (.error _, db) => { f with db := db }
  | goOffline userId => { f with locations := f.locations.goOffline userId }
  | push userId location speedKmh now =>
    { f with locations := f.locations.updatePosition userId location speedKmh now }
  | request c ask now =>
    let (_, locations, db) := serveRequest (keepMarkers ask now) (c.action env) (f.locations, f.db)
    { db := db, locations := locations }
  | elsewhere patch _ => { f with db := patch f.db }

/-- The identifier that a request draws is not in use, and the column of the user is unique. -/
def Possible (step : FleetStep) (f : Fleet) : Prop :=
  f.db.OneProfileEach ∧
    match step with
    | request c ask _ => (RideStep.request c ask).Draws f.db
    | _ => True

instance (step : FleetStep) (f : Fleet) : Decidable (step.Possible f) :=
  match step with
  | request c ask _ => inferInstanceAs (Decidable (f.db.OneProfileEach ∧ (RideStep.request c ask).Draws f.db))
  | goOnline _ _ _ _ _ | goOffline _ | push _ _ _ _ | elsewhere _ _ =>
    inferInstanceAs (Decidable (f.db.OneProfileEach ∧ True))

/-- Nobody goes online while he has a ride, and a completion is not repeated while the driver has another one. -/
def SparesBusy (step : FleetStep) (f : Fleet) : Prop :=
  match step with
  | goOnline actor isReviewAccount _ ask _ =>
    ((admitOnline env actor isReviewAccount).run ask f.db).1 = .ok () → ¬ f.db.Busy actor.userId
  | request c ask _ => RideStep.Succeeds env c ask f.db → ∀ rideId status ride profile,
      c.op = .updateStatus rideId status → rideStatusOf status = some .completed →
        f.db.ride? rideId = some ride → ride.status = .completed → ride.driverId = some profile.id →
          f.db.profiles.find? profile.id = some profile → ¬ f.db.Busy profile.userId
  | _ => True

end FleetStep

namespace Sample

/-- The vehicle of the driver 2 is verified. -/
def fleet : Fleet where
  db := { db with vehicles := .insert .empty { id := 30, driverId := 20, verificationStatus := .active } }
  locations := {}

/-- No partner blocks the driver 2, and he owes nothing. -/
def askOnline : Query → Answer
  | .blockedByPartner _ => .ok (.blocked false none)
  | .walletBalance _ => .ok (.amount 0)
  | q => ask q

/-- The driver 2 goes online. -/
def online (now : Int) : FleetStep := .goOnline ⟨2, "driver"⟩ false pickup askOnline (seconds now)

/-- A request of a user at an instant in seconds. -/
def fleetRequest (op : RideOp) (userId : UUID) (role : String) (now : Int) : FleetStep :=
  .request { op := op, actor := ⟨userId, role⟩, config := dispatchConfigFromSettings env.settings
             clock := { now := seconds now } } ask (seconds now)

/-- The driver 2 goes online, and accepts the ride 50. -/
def onlineThenAccepted : List FleetStep :=
  [online 0, fleetRequest (.createRide false 40 "cash" none 50) 1 "passenger" 10,
    fleetRequest (.accept 50) 2 "driver" 20]

end Sample

end DiddiGo.Rides
