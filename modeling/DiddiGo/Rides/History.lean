import DiddiGo.Rides.Waiting

/-!
# The status history

The rows of `ride_status_history` against the statuses that a ride goes through.
-/

namespace DiddiGo.Rides

open Transactions

variable (env : Env)

namespace RideDb

/-- The rows of the ride `x`, oldest first. -/
def historyOf (db : RideDb) (x : UUID) : List RideStatusTransition := db.history.filter fun t => t.rideId = x

/-- The status of the ride `x`; a ride that is not there yet is about to be requested. -/
def statusOf (db : RideDb) (x : UUID) : RideStatus := ((db.ride? x).map Ride.status).getD .requested

end RideDb

/-- The rows lead from one status to another along allowed transitions. -/
def Chain : RideStatus → List RideStatusTransition → RideStatus → Prop
  | first, [], last => first = last
  | first, t :: ts, last => t.fromStatus = some first ∧ t.toStatus ∈ first.allowedTransitions ∧
    Chain t.toStatus ts last

/-- The changes of the status of the ride `x` in a history. -/
def changesOf (x : UUID) : List RideStep → RideDb → List (RideStatus × RideStatus)
  | [], _ => []
  | step :: steps, db =>
    let before := db.statusOf x
    let later := (step.after env db).statusOf x
    (if before = later then [] else [(before, later)]) ++ changesOf x steps (step.after env db)

/-- After the history, the rows of the ride `r` form a chain from `requested` to its status, and there is
one for each change of its status. -/
structure HistoryFaithful (steps : List RideStep) (db : RideDb) (r : Ride) : Prop where
  chain : Chain .requested ((runRides env steps db).historyOf r.id) r.status
  none : (runRides env steps db).historyOf r.id = [] ↔ r.status = .requested
  complete : ((runRides env steps db).historyOf r.id).map (fun t => (t.fromStatus, t.toStatus))
    = (changesOf env r.id steps db).map fun (before, later) => (some before, later)

/-- The commands that release the driver of the ride are answered. -/
def Releasable (ask : Query → Answer) (db : RideDb) (r : Ride) : Prop :=
  (∃ reply, ask (.clear r.id) = .ok reply) ∧ ∀ driverId profile, r.driverId = some driverId →
    db.profiles.find? driverId = some profile →
    ∃ reply, ask (.setAvailable profile.userId true) = .ok reply

/-- A request that cancels a ride: somebody who may asks for a valid reason, the ride is open, its wait, if
it waits, is one, and its driver can be released. -/
def RideStep.Cancels : RideStep → RideDb → Prop
  | request c ask, db => ∃ r reason, c.op = .cancel r.id reason ∧ reason ∈ validCancelReasons ∧
    db.ride? r.id = some r ∧ (db.MayDrive r c.actor ∨ r.passengerUserId = c.actor.userId) ∧
    r.status ∉ [.completed, .cancelledByPassenger, .cancelledByDriver, .noDriverFound] ∧
    (r.status = .waiting → r.waitingStartedAt.isSome) ∧ Releasable ask db r
  | elsewhere _ _, _ => False

/-- The step asks for a wait or for a cancellation. -/
def RideStep.asksToWaitOrCancel : RideStep → Bool
  | request { op := .startWaiting _, .. } _ | request { op := .cancel _ _, .. } _ => true
  | _ => false

/-- A step that changes no status without its row. -/
def RideStep.Records (step : RideStep) (db : RideDb) : Prop := ¬ step.OpensWait env db ∧ ¬ step.Cancels db

end DiddiGo.Rides
