import DiddiGo.Rides.History

/-!
# The priority ledger

What rides and administrators write to the ledger, and how the points of a driver are counted. A no-show has
the status of a cancellation by the driver, but the driver did not cancel.
-/

namespace DiddiGo.Rides

open Transactions

/-- `record_boost`. -/
def recordBoost (driverId : UUID) (points : Int) (expiresAt : DateTime) (reason : String)
    (zoneId : Option UUID) : Action Unit :=
  appendPriorityEvent
    { driverId := driverId, kind := .tempBoost, points := points, zoneId := zoneId, reason := some reason
      expiresAt := some expiresAt }

/-- One step of a history of the ledger. -/
inductive LedgerStep
  | ride (step : RideStep)
  | boost (driverId : UUID) (points : Int) (expiresAt : DateTime) (reason : String) (zoneId : Option UUID)

/-- The database after the step; nobody is asked about a boost. -/
def LedgerStep.after (env : Env) : LedgerStep → RideDb → RideDb
  | ride step, db => step.after env db
  | boost driverId points expiresAt reason zoneId, db =>
    ((recordBoost driverId points expiresAt reason zoneId).run (fun _ => (.error .conversion : Answer)) db).2

/-- The database after a history. -/
def runLedger (env : Env) (steps : List LedgerStep) (db : RideDb) : RideDb :=
  runSteps (LedgerStep.after env) steps db

/-- See `RideStep.Draws`. -/
def LedgerStep.Draws : LedgerStep → RideDb → Prop
  | ride step, db => step.Draws db
  | boost .., _ => True

instance (db : RideDb) : (step : LedgerStep) → Decidable (step.Draws db)
  | .ride step => inferInstanceAs (Decidable (step.Draws db))
  | .boost .. => isTrue trivial

namespace RideDb

/-- The facts that the ride `x` contributed to the ledger. -/
def ledgerOf (db : RideDb) (x : UUID) : List PriorityEvent := db.priorityEvents.filter fun e => e.rideId = some x

/-- Whose outcomes they are, and of which kind. -/
def outcomesOf (db : RideDb) (x : UUID) : List (UUID × PriorityEventKind) :=
  (db.ledgerOf x).map fun e => (e.driverId, e.kind)

end RideDb

/-! ## Points -/

/-- What `windowed_points` adds for a row that was created then. -/
def PriorityEvent.counted (e : PriorityEvent) (createdAt : DateTime) (driverId : UUID) (since : DateTime)
    (zoneId : UUID) (now : DateTime) : Int :=
  if e.driverId = driverId ∧ since < createdAt ∧ (∀ expiresAt ∈ e.expiresAt, now < expiresAt) ∧
      (e.zoneId = some zoneId ∨ e.zoneId = none) then e.points
  else 0

namespace RideDb

variable (db : RideDb) (createdAt : ℕ → DateTime)

/-- The rows of the ledger with the times at which the database says they were created. -/
def ledgerRows : List (PriorityEvent × DateTime) := db.priorityEvents.zipIdx.map fun (e, k) => (e, createdAt k)

/-- `windowed_points` of one driver. -/
def windowedPoints (driverId : UUID) (since : DateTime) (zoneId : UUID) (now : DateTime) : Int :=
  ((db.ledgerRows createdAt).map fun (e, t) => e.counted t driverId since zoneId now).sum

/-- The points of his boosts. -/
def boostPoints (driverId : UUID) (since : DateTime) (zoneId : UUID) (now : DateTime) : Int :=
  (((db.ledgerRows createdAt).filter fun (e, _) => e.rideId = none).map fun (e, t) =>
    e.counted t driverId since zoneId now).sum

/-- The points of the outcome of the ride `x`, if it has one. -/
def outcomePoints (x : UUID) (driverId : UUID) (since : DateTime) (zoneId : UUID) (now : DateTime) : Int :=
  (((db.ledgerRows createdAt).find? fun (e, _) => e.rideId = some x).map fun (e, t) =>
    e.counted t driverId since zoneId now).getD 0

end RideDb

/-! ## One outcome for each ride -/

variable (env : Env)

/-- The request cancels the ride `x` for its driver; it is not a no-show. -/
def LedgerStep.CancelsForDriver (x : UUID) : LedgerStep → RideDb → Prop
  | ride (.request c ask), db => c.op ≠ .markNoShow x ∧ db.statusOf x ≠ .cancelledByDriver ∧
    ((RideStep.request c ask).after env db).statusOf x = .cancelledByDriver
  | _, _ => False

/-- Somebody who may asks for the status `cancelled_by_driver` of a ride that has it and a driver. -/
def LedgerStep.RepeatsCancellation : LedgerStep → RideDb → Prop
  | ride (.request c _), db => ∃ r status, c.op = .updateStatus r.id status ∧
    rideStatusOf status = some .cancelledByDriver ∧ db.ride? r.id = some r ∧ r.status = .cancelledByDriver ∧
    r.driverId.isSome = true ∧ db.BusinessDriver c.actor ∧ db.MayDrive r c.actor
  | _, _ => False

/-- The ride `r` contributes its outcome to the ledger, once, if it has a driver. -/
structure OutcomeOnce (steps : List LedgerStep) (db : RideDb) (r : Ride) : Prop where
  completed : r.status = .completed →
    (runLedger env steps db).outcomesOf r.id = (r.driverId.map fun d => (d, .rideCompleted)).toList
  cancelled : SomeStep (LedgerStep.after env) (LedgerStep.CancelsForDriver env r.id) steps db →
    (runLedger env steps db).outcomesOf r.id = (r.driverId.map fun d => (d, .rideCancelledByDriver)).toList
  otherwise : r.status ≠ .completed →
    ¬ SomeStep (LedgerStep.after env) (LedgerStep.CancelsForDriver env r.id) steps db →
    (runLedger env steps db).outcomesOf r.id = []

/-- After the history every ride has contributed its outcome once, and the points of a driver are those of his
boosts and of the outcomes of the rides. -/
structure LedgerFaithful (steps : List LedgerStep) (db : RideDb) : Prop where
  rides : ∀ r, (runLedger env steps db).ride? r.id = some r → OutcomeOnce env steps db r
  points : ∀ createdAt driverId since zoneId now,
    (runLedger env steps db).windowedPoints createdAt driverId since zoneId now =
      (runLedger env steps db).boostPoints createdAt driverId since zoneId now +
        (runLedger env steps db).rides.sum fun r =>
          (runLedger env steps db).outcomePoints createdAt r.id driverId since zoneId now

/-- Nothing has been requested yet, and the ledger holds boosts only. -/
structure BoostsOnly (db : RideDb) : Prop extends Unrequested db where
  boosts : ∀ e ∈ db.priorityEvents, e.rideId = none

/-- The step asks for the status `cancelled_by_driver`. -/
def LedgerStep.asksForCancellation : LedgerStep → Bool
  | ride (.request { op := .updateStatus _ status, .. } _) => rideStatusOf status = some .cancelledByDriver
  | _ => false

/-! ## What is kept -/

/-- What the ledger holds of the ride `x` after a history. -/
inductive LedgerKept (steps : List LedgerStep) (db : RideDb) (x : UUID) : Prop
  /-- The ride is not there. -/
  | absent (hride : (runLedger env steps db).ride? x = none)
      (hnone : (runLedger env steps db).outcomesOf x = [])
      (hcancelled : ¬ SomeStep (LedgerStep.after env) (LedgerStep.CancelsForDriver env x) steps db)
  /-- The ride has no outcome, or it is a no-show. -/
  | noOutcome (r : Ride) (hride : (runLedger env steps db).ride? x = some r) (hstatus : r.status ≠ .completed)
      (hnone : (runLedger env steps db).outcomesOf x = [])
      (hcancelled : ¬ SomeStep (LedgerStep.after env) (LedgerStep.CancelsForDriver env x) steps db)
  | completed (r : Ride) (hride : (runLedger env steps db).ride? x = some r) (hstatus : r.status = .completed)
      (hone : (runLedger env steps db).outcomesOf x = (r.driverId.map fun d => (d, .rideCompleted)).toList)
      (hcancelled : ¬ SomeStep (LedgerStep.after env) (LedgerStep.CancelsForDriver env x) steps db)
  | cancelled (r : Ride) (hride : (runLedger env steps db).ride? x = some r)
      (hstatus : r.status = .cancelledByDriver)
      (hone : (runLedger env steps db).outcomesOf x =
        (r.driverId.map fun d => (d, .rideCancelledByDriver)).toList)
      (hcancelled : SomeStep (LedgerStep.after env) (LedgerStep.CancelsForDriver env x) steps db)

/-- What a change of the ride `r` to `r'` adds to the ledger. -/
inductive Outcome (c : RideCall) (db : RideDb) (r r' : Ride) (es : List PriorityEvent) : Prop
  /-- The status stays, and nothing is added. -/
  | stays (hstatus : r'.status = r.status) (hdriver : r'.driverId = r.driverId) (hes : es = [])
  /-- The ride gets a status that is no outcome. -/
  | goesOn (hstatus : r.status.allowedTransitions ≠ []) (hcompleted : r'.status ≠ .completed)
      (hcancelled : r'.status ≠ .cancelledByDriver) (hes : es = [])
  | noShow (hop : c.op = .markNoShow r.id) (hstatus : r.status.allowedTransitions ≠ [])
      (hcancelled : r'.status = .cancelledByDriver) (hes : es = [])
  | ends (hop : c.op ≠ .markNoShow r.id) (hstatus : r.status.allowedTransitions ≠ [])
      (hes : es = Rides.outcomesOf c.config r')
  /-- The status is set to what it is. -/
  | repeats (status : String) (hop : c.op = .updateStatus r.id status)
      (hnew : rideStatusOf status = some r.status) (hactor : db.BusinessDriver c.actor)
      (hmay : db.MayDrive r c.actor) (hcompleted : r.status ≠ .completed) (hr : r' = r)
      (hes : es = Rides.outcomesOf c.config r)

/-- What one step makes of the ride `x` and of its part of the ledger. -/
inductive LedgerChange (db : RideDb) (step : LedgerStep) (x : UUID) (db' : RideDb) : Prop
  | kept (hride : db'.ride? x = db.ride? x) (hledger : db'.outcomesOf x = db.outcomesOf x)
  | created (r' : Ride) (hfresh : db.ride? x = none) (hride : db'.ride? x = some r')
      (hcompleted : r'.status ≠ .completed) (hcancelled : r'.status ≠ .cancelledByDriver)
      (hledger : db'.outcomesOf x = db.outcomesOf x)
  | moved (c : RideCall) (ask : Query → Answer) (r r' : Ride) (es : List PriorityEvent)
      (hstep : step = .ride (.request c ask)) (hr : db.ride? x = some r) (hr' : db'.ride? x = some r'.toDomain)
      (houtcome : Outcome c db r r' es)
      (hledger : db'.outcomesOf x = db.outcomesOf x ++ es.map fun e => (e.driverId, e.kind))

/-! ## Samples -/

namespace Sample

/-- The driver is given a boost, and completes a ride after a wait. -/
def boosted : List LedgerStep := .boost 20 3 (seconds 5000) "busy" none :: waited.map .ride

/-- The driver cancels his ride on the way, twice. -/
def cancelledTwice : List LedgerStep :=
  (enRoute ++ List.replicate 2 (step (.updateStatus 50 "cancelled_by_driver") 2 "driver" 30)).map .ride

end Sample

end DiddiGo.Rides
