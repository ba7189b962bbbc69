import DiddiGo.Rides.Changes

/-!
# Arrival and start

What a ride owes to the arrival of its driver at the pickup and to the code that the passenger hands over
there: no ride gets under way without them.
-/

namespace DiddiGo.Rides

open Transactions

variable (env : Env)

namespace RideStep

/-- `start_ride_with_code` succeeds for the ride `x`. -/
def Starts (x : UUID) : RideStep → RideDb → Prop
  | request c ask, db => (∃ code, c.op = .startRide x code) ∧ Succeeds env c ask db
  | elsewhere _ _, _ => False

/-- `mark_arrived` succeeds for the ride `x`, whose driver was on his way, within the distance from the
pickup that is allowed, and stores `hash`. -/
def Arms (x : UUID) (hash : String) : RideStep → RideDb → Prop
  | request c ask, db => c.op = .markArrived x ∧ Succeeds env c ask db ∧
    (∃ r position pickup, db.ride? x = some r ∧ r.status = .driverEnRoute ∧
      ask (.position c.actor.userId) = .ok (.position (some position)) ∧
      r.pickupLocation = some pickup ∧
      env.distanceMeters position pickup ≤ env.settings.driverArrivalMaxDistanceMeters) ∧
    ∃ r, ((request c ask).after env db).ride? x = some r ∧ r.startCodeHash = some hash
  | elsewhere _ _, _ => False

/-- The step is a request to start the ride `x`, which is there with the start code hash `hash`: the
driver has arrived, he or an administrator asks, the ride is not blocked, and the code has that hash. -/
def PassesGate (x : UUID) (hash : String) : RideStep → RideDb → Prop
  | request c _, db => ∃ code r, c.op = .startRide x code ∧ db.ride? x = some r ∧ db.MayDrive r c.actor ∧
    r.status = .arrived ∧ r.startCodeBlockedAt = none ∧ r.startCodeHash = some hash ∧
    hashStartCode env.settings x code = hash
  | elsewhere _ _, _ => False

/-- The status that a `PATCH /status` asks for. -/
def patchedTo : RideStep → Option RideStatus
  | request { op := .updateStatus _ status, .. } _ => rideStatusOf status
  | _ => none

/-- `PATCH /status` to `arrived` by somebody who may, for a ride whose driver is on his way. -/
def PatchesArrived : RideStep → RideDb → Prop
  | request c _, db => ∃ r status, c.op = .updateStatus r.id status ∧ rideStatusOf status = some .arrived ∧
    db.ride? r.id = some r ∧ r.status = .driverEnRoute ∧ db.BusinessDriver c.actor ∧
    db.MayDrive r c.actor
  | elsewhere _ _, _ => False

end RideStep

/-- The ride was started and may have ended at its destination since. -/
def Ride.Begun (r : Ride) : Prop := r.UnderWay ∨ r.status = .completed

/-- The ride was not started and can still be. -/
def Ride.Early (r : Ride) : Prop := r.status ∈ [.requested, .matched, .driverEnRoute, .arrived]

/-- Every ride gets under way through the gate. -/
structure StartGate (steps : List RideStep) (db : RideDb) : Prop where
  started : ∀ before later x r, steps = before ++ later → (runRides env before db).ride? x = some r →
    r.Begun → SomeStep (RideStep.after env) (RideStep.Starts env x) before db
  passed : ∀ before step later x, steps = before ++ step :: later →
    step.Starts env x (runRides env before db) →
    ∃ hash, step.PassesGate env x hash (runRides env before db) ∧
      SomeStep (RideStep.after env) (RideStep.Arms env x hash) before db
  once : ∀ before first between second later x,
    steps = before ++ first :: (between ++ second :: later) →
    first.Starts env x (runRides env before db) →
    ¬ second.Starts env x (runRides env (before ++ first :: between) db)

/-- The trace of the ride is there, or DiddiMap starts one. -/
def Traceable (ask : Query → Answer) (r : Ride) : Prop :=
  r.mapTraceId.getD "" ≠ "" ∨ ∃ pickup dropoff id, r.pickupLocation = some pickup ∧
    r.dropoffLocation = some dropoff ∧
    ask (.startTrace r.id pickup dropoff r.distanceKm r.durationSeconds "palh_vtc") = .ok (.trace id)

/-- The commands that release a driver are answered. -/
structure ReleaseAnswers (ask : Query → Answer) : Prop where
  clear : ∀ rideId, ∃ reply, ask (.clear rideId) = .ok reply
  available : ∀ userId, ∃ reply, ask (.setAvailable userId true) = .ok reply

/-- The ride `r`, whose driver has arrived, can go on: the passenger has a code that starts it, and once
the delay is over it can be given up because the passenger is absent. -/
structure ArrivalUsable (db : RideDb) (r : Ride) : Prop where
  hash : r.startCodeHash.isSome
  wait : r.preRideWaitStartedAt.isSome
  code : ∃ code, startAuthorizationCode env.settings r "passenger" = some code ∧
    ∀ c ask, c.op = .startRide r.id code → db.BusinessDriver c.actor → db.MayDrive r c.actor →
      r.startCodeBlockedAt = none → Traceable ask r → RideStep.Succeeds env c ask db
  absence : ∀ c ask startedAt, c.op = .markNoShow r.id → db.BusinessDriver c.actor →
    db.MayDrive r c.actor → r.preRideWaitStartedAt = some startedAt →
    (env.settings.preRideNoShowSeconds : Int) ≤ wholeSeconds (c.clock.now - startedAt) →
    ReleaseAnswers ask → RideStep.Succeeds env c ask db

/-- In every state of the history, the driver of a ride that is `arrived` went through `mark_arrived`, and
the ride can go on. -/
def ArrivalChecked (steps : List RideStep) (db : RideDb) : Prop :=
  ∀ before later x r, steps = before ++ later → (runRides env before db).ride? x = some r →
    r.status = .arrived →
    (∃ hash, r.startCodeHash = some hash ∧
      SomeStep (RideStep.after env) (RideStep.Arms env x hash) before db) ∧
    ArrivalUsable env (runRides env before db) r

end DiddiGo.Rides
