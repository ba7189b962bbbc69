import DiddiGo.Projections.Outbox
import DiddiGo.Transactions.System

/-!
# Publishing and reconciling capability projections

Requests enqueue what a driver may do, a worker delivers what is due, and now and then it compares all drivers
with what was published and sends old statuses again.
-/

namespace DiddiGo.Projections

open Transactions

/-! ## Delivery -/

/-- The settings of the dispatcher. -/
structure DispatcherSettings where
  retryBaseSeconds : Nat := 5
  retryMaxSeconds : Nat := 300
  deriving DecidableEq, Repr

/-- `deliver_due`, for one event. -/
def deliver (settings : DispatcherSettings) (now : DateTime) (event : ProjectionEvent) : Action Unit := do
  match ← Prog.ask (.sendDriverStatus event) with
  | .delivered => markSucceeded event now
  | .failed statusCode conflict message =>
    if conflict then markConflict event now message
    -- The user does not exist in the identity service, so a retry cannot succeed.
    else if statusCode = some 404 then markDeadLetter event now message
    else
      let delay := min (settings.retryBaseSeconds * 2 ^ min event.attempts 8) settings.retryMaxSeconds
      markRetry event now (now + seconds delay) message
  | .crashed name => throw (.other name)

/-- `deliver_due`, for the events that are left. -/
def deliverAll (settings : DispatcherSettings) (now : DateTime) : List ProjectionEvent → Action Unit
  | [] => return ()
  | event :: rest => do
    deliver settings now event
    deliverAll settings now rest

/-- `deliver_due`. -/
def deliverDue (settings : DispatcherSettings) (now : DateTime) (batchSize : Nat) (free : UUID → Bool) :
    Action Nat := do
  let events ← listDue now batchSize free
  deliverAll settings now events
  return events.length

/-! ## Reconciliation -/

/-- `DriverProjectionCandidate`. -/
structure DriverProjectionCandidate where
  userId : UUID
  profileStatus : String
  kycStatus : String
  vehicleStatus : Option String
  vehicleActive : Option Bool
  deriving DecidableEq, Repr

/-- `_candidate_status`. -/
def candidateStatus (candidate : DriverProjectionCandidate) : String × List String :=
  if candidate.kycStatus = "rejected" then ("kyc_rejected", ["resubmit_kyc"])
  else if candidate.profileStatus = "pending_verification" then ("pending_verification", ["await_kyc_review"])
  else if candidate.profileStatus = "suspended" then ("suspended", ["contact_support"])
  else match candidate.vehicleStatus with
    | none => ("vehicle_missing", ["add_vehicle"])
    | some vehicleStatus =>
      if vehicleStatus = "pending_verification" then ("vehicle_pending_verification", ["await_vehicle_review"])
      else if vehicleStatus = "rejected" then ("vehicle_rejected", ["resubmit_vehicle"])
      else if vehicleStatus ≠ "active" ∨ candidate.vehicleActive.getD false = false then
        ("vehicle_unavailable", ["contact_support"])
      else ("offline", ["go_online"])

/-- What the reconciliation publishes for a candidate. -/
def desiredStatus (candidate : DriverProjectionCandidate) (online : UUID → Bool) : String × List String :=
  if (candidateStatus candidate).1 = "offline" ∧ online candidate.userId then ("online", ["go_offline"])
  else candidateStatus candidate

/-- `reconcile`, for the candidates that are left; each comes with the `uuid4` and the time of its event. -/
def enqueueAll (online : UUID → Bool) : List (DriverProjectionCandidate × UUID × DateTime) → Action Nat
  | [] => return 0
  | (candidate, id, now) :: rest => do
    let desired := desiredStatus candidate online
    let event ← enqueue candidate.userId desired.1 desired.2 (some "capability-reconciliation") id now
    let enqueued ← enqueueAll online rest
    return if event.isSome then enqueued + 1 else enqueued

/-- `reconcile`. -/
def reconcile (candidates : List (DriverProjectionCandidate × UUID × DateTime)) (online : UUID → Bool)
    (refreshBefore now : DateTime) (batchSize : Nat) (free : UUID → Bool) : Action (Nat × Nat) := do
  let enqueued ← enqueueAll online candidates
  let refreshed ← scheduleStaleRefresh refreshBefore now batchSize free
  return (enqueued, refreshed)

/-! ## Processes -/

/-- What a process does to the outbox in one transaction. -/
inductive OutboxCall
  /-- `publish_driver_status`. -/
  | publication (userId : UUID) (operationalStatus : String) (actions : List String) (requestId : Option String)
      (id : UUID) (now : DateTime)
  /-- One iteration of the worker. -/
  | delivery (settings : DispatcherSettings) (now : DateTime) (batchSize : Nat) (free : UUID → Bool)
  /-- `_reconcile`. -/
  | reconciliation (candidates : List (DriverProjectionCandidate × UUID × DateTime)) (online : UUID → Bool)
      (refreshBefore now : DateTime) (batchSize : Nat) (free : UUID → Bool)

/-- The process delivers events. -/
def OutboxCall.Delivers : OutboxCall → Prop
  | .delivery .. => True
  | _ => False

/-- The program of a process. -/
def OutboxCall.action : OutboxCall → Action Unit
  | .publication userId operationalStatus actions requestId id now =>
    Prog.ignore (enqueue userId operationalStatus actions requestId id now)
  | .delivery settings now batchSize free => Prog.ignore (deliverDue settings now batchSize free)
  | .reconciliation candidates online refreshBefore now batchSize free =>
    Prog.ignore (reconcile candidates online refreshBefore now batchSize free)

/-- A set of processes and the identity service. -/
structure Scenario (Proc World : Type) where
  call : Proc → OutboxCall
  /-- See `Machine.receives`. -/
  receives : World → Proc → Query → World
  /-- See `Machine.answers`. -/
  answers : World → Proc → Query → Delivery → Option World

variable {Proc World : Type}

/-- The system of a scenario. -/
abbrev Scenario.machine (σ : Scenario Proc World) : Machine sig where
  Proc := Proc
  World := World
  Out := Unit
  receives := σ.receives
  answers := σ.answers

/-- Nothing has happened yet. -/
def Scenario.initial (σ : Scenario Proc World) (db : OutboxDb) (world : World) : Config σ.machine :=
  Config.initial db world fun i => (σ.call i).action

end DiddiGo.Projections
