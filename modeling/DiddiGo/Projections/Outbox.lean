import DiddiGo.Basic
import DiddiGo.Data.Text
import DiddiGo.Data.Table
import DiddiGo.Rides.Repository
import DiddiGo.Transactions.Prog

/-!
# The outbox of capability projections

For every driver the backend keeps the status it wants the identity service to know, and an event for each
status it wanted. Events wait in the outbox until they are delivered.
-/

namespace DiddiGo.Projections

open Data (Keyed Table)
open Rides (column)
open Transactions

/-! ## Rows -/

/-- How far the delivery of an event is. -/
inductive SyncStatus
  | pending
  | retry
  | succeeded
  | conflict
  | deadLetter
  deriving DecidableEq, Repr

/-- A row of `driver_capability_projection_states`. -/
structure ProjectionState where
  userId : UUID
  projectionVersion : Nat := 0
  desiredOperationalStatus : Option String := none
  desiredActions : List String := []
  lastEventId : Option String := none
  syncStatus : SyncStatus := .pending
  lastAttemptAt : Option DateTime := none
  lastSucceededAt : Option DateTime := none
  nextRefreshAt : Option DateTime := none
  lastError : Option String := none
  deriving DecidableEq, Repr

instance : Keyed ProjectionState UUID := ⟨fun state => state.userId⟩

/-- A row of `driver_capability_projection_events`. -/
structure ProjectionEvent where
  id : UUID
  eventId : String
  userId : UUID
  projectionVersion : Nat
  operationalStatus : String
  actions : List String
  requestId : Option String := none
  status : SyncStatus := .pending
  attempts : Nat := 0
  nextAttemptAt : DateTime
  lastAttemptAt : Option DateTime := none
  deliveredAt : Option DateTime := none
  lastError : Option String := none
  deriving DecidableEq, Repr

instance : Keyed ProjectionEvent UUID := ⟨fun event => event.id⟩

/-- The columns that differ from the row that was loaded are written. -/
def ProjectionState.flush (loaded new row : ProjectionState) : ProjectionState where
  userId := row.userId
  projectionVersion := column loaded.projectionVersion new.projectionVersion row.projectionVersion
  desiredOperationalStatus :=
    column loaded.desiredOperationalStatus new.desiredOperationalStatus row.desiredOperationalStatus
  desiredActions := column loaded.desiredActions new.desiredActions row.desiredActions
  lastEventId := column loaded.lastEventId new.lastEventId row.lastEventId
  syncStatus := column loaded.syncStatus new.syncStatus row.syncStatus
  lastAttemptAt := column loaded.lastAttemptAt new.lastAttemptAt row.lastAttemptAt
  lastSucceededAt := column loaded.lastSucceededAt new.lastSucceededAt row.lastSucceededAt
  nextRefreshAt := column loaded.nextRefreshAt new.nextRefreshAt row.nextRefreshAt
  lastError := column loaded.lastError new.lastError row.lastError

/-- The same for an event; the columns that say what it is about are never written again. -/
def ProjectionEvent.flush (loaded new row : ProjectionEvent) : ProjectionEvent :=
  { row with
    status := column loaded.status new.status row.status
    attempts := column loaded.attempts new.attempts row.attempts
    nextAttemptAt := column loaded.nextAttemptAt new.nextAttemptAt row.nextAttemptAt
    lastAttemptAt := column loaded.lastAttemptAt new.lastAttemptAt row.lastAttemptAt
    deliveredAt := column loaded.deliveredAt new.deliveredAt row.deliveredAt
    lastError := column loaded.lastError new.lastError row.lastError }

/-- `f"diddigo:driver:{user_id}:{version}:{event_uuid}"`. -/
def eventIdOf (userId : UUID) (version : Nat) (id : UUID) : String :=
  "diddigo:driver:" ++ UUID.str userId ++ ":" ++ Nat.repr version ++ ":" ++ UUID.str id

/-- The tables of the outbox. -/
structure OutboxDb where
  states : Table ProjectionState := .empty
  events : Table ProjectionEvent := .empty

/-- The rows and unique keys that a statement can lock. -/
inductive Row
  | state (userId : UUID)
  | event (id : UUID)
  /-- `uq_driver_projection_event_id`. -/
  | eventId (text : String)
  /-- `uq_driver_projection_user_version`. -/
  | version (userId : UUID) (projectionVersion : Nat)
  deriving DecidableEq, Repr

/-- What the dispatcher asks the identity service. -/
inductive Query
  | sendDriverStatus (event : ProjectionEvent)
  deriving DecidableEq, Repr

/-- How a delivery ends. -/
inductive Delivery
  | delivered
  /-- `CapabilityDeliveryError`. -/
  | failed (statusCode : Option Nat) (conflict : Bool) (message : String)
  /-- Any other exception. -/
  | crashed (name : String)
  deriving DecidableEq, Repr

/-- Transactions on the outbox. -/
abbrev sig : Signature where
  State := OutboxDb
  Row := Row
  Label := Empty
  Query := Query
  Answer := Delivery
  Err := Err

/-- A program on the outbox. -/
abbrev Action (α : Type) := Prog sig α

/-! ## Statements -/

namespace OutboxDb

/-- Rewrite a state row. -/
def flushState (db : OutboxDb) (loaded new : ProjectionState) : OutboxDb :=
  { db with states := db.states.update loaded.userId (loaded.flush new) }

/-- Rewrite an event row. -/
def flushEvent (db : OutboxDb) (loaded new : ProjectionEvent) : OutboxDb :=
  { db with events := db.events.update loaded.id (loaded.flush new) }

/-- The event with the text as its identifier. -/
def eventNamed (db : OutboxDb) (eventId : String) : Option ProjectionEvent :=
  db.events.rows.find? fun event => event.eventId = eventId

/-- A unique key of the event is taken. -/
def taken (db : OutboxDb) (event : ProjectionEvent) : Bool :=
  (db.events.find? event.id).isSome || (db.eventNamed event.eventId).isSome ||
    db.events.rows.any fun row => row.userId = event.userId ∧ row.projectionVersion = event.projectionVersion

end OutboxDb

/-- `enqueue`; `id` is the `uuid4` it draws. -/
def enqueue (userId : UUID) (operationalStatus : String) (actions : List String) (requestId : Option String)
    (id : UUID) (now : DateTime) : Action (Option ProjectionEvent) := do
  let _ ← Prog.insertOnce (.state userId) (fun db => (db.states.find? userId).isSome) fun db =>
    { db with states := db.states.insert { userId := userId } }
  match ← Prog.selectForUpdate (.state userId) fun db => db.states.find? userId with
  | none => throw .noResult
  | some state =>
    let normalizedActions := actions.eraseDups
    if state.desiredOperationalStatus = some operationalStatus ∧ state.desiredActions = normalizedActions ∧
        state.lastEventId.getD "" ≠ "" then return none
    else
      let version := state.projectionVersion + 1
      let row : ProjectionEvent :=
        { id := id, eventId := eventIdOf userId version id, userId := userId, projectionVersion := version
          operationalStatus := operationalStatus, actions := normalizedActions, requestId := requestId
          nextAttemptAt := now }
      Prog.writeOrRaise [.event id, .eventId row.eventId, .version userId version] (fun db => db.taken row)
        (fun db => { db with events := db.events.insert row }) .integrity
      Prog.update [.state userId] fun db => db.flushState state
        { state with
          projectionVersion := version
          desiredOperationalStatus := some operationalStatus
          desiredActions := normalizedActions
          lastEventId := some row.eventId
          syncStatus := .pending
          lastError := none }
      return some row

/-- The events that `list_due` returns; the other transactions have left the rows in `free` unlocked. -/
def OutboxDb.due (db : OutboxDb) (now : DateTime) (limit : Nat) (free : UUID → Bool) : List ProjectionEvent :=
  ((db.events.rows.filter fun event => (event.status = .pending ∨ event.status = .retry) ∧
    event.nextAttemptAt ≤ now ∧ free event.id).mergeSort fun e e' => e.nextAttemptAt ≤ e'.nextAttemptAt).take limit

/-- `list_due`. -/
def listDue (now : DateTime) (limit : Nat) (free : UUID → Bool) : Action (List ProjectionEvent) :=
  Prog.selectAllForUpdate (fun db => (db.due now limit free).map fun event => .event event.id)
    fun db => db.due now limit free

/-- `_locked`. -/
def locked (event : ProjectionEvent) : Action (ProjectionEvent × ProjectionState) := do
  match ← Prog.selectForUpdate (.event event.id) fun db => db.events.find? event.id with
  | none => throw .noResult
  | some row =>
    match ← Prog.selectForUpdate (.state event.userId) fun db => db.states.find? event.userId with
    | none => throw .noResult
    | some state => return (row, state)

/-- The marks have this in common: the event is written, and the state too if the event is its last one. -/
def mark (event : ProjectionEvent) (row : ProjectionEvent → ProjectionEvent)
    (state : ProjectionState → ProjectionState) : Action Unit := do
  let (loaded, loadedState) ← locked event
  Prog.update [.event event.id] fun db => db.flushEvent loaded (row loaded)
  if loadedState.lastEventId = some event.eventId then
    Prog.update [.state event.userId] fun db => db.flushState loadedState (state loadedState)

/-- `mark_succeeded`. -/
def markSucceeded (event : ProjectionEvent) (now : DateTime) : Action Unit :=
  mark event
    (fun row =>
      { row with
        status := .succeeded
        attempts := row.attempts + 1
        lastAttemptAt := some now
        deliveredAt := some now
        lastError := none })
    fun state =>
      { state with
        syncStatus := .succeeded
        lastAttemptAt := some now
        lastSucceededAt := some now
        nextRefreshAt := none
        lastError := none }

/-- `error[:2000]`. -/
def shortened (error : String) : String := String.ofList (error.toList.take 2000)

/-- `mark_retry`. -/
def markRetry (event : ProjectionEvent) (now nextAttemptAt : DateTime) (error : String) : Action Unit :=
  mark event
    (fun row =>
      { row with
        status := .retry
        attempts := row.attempts + 1
        lastAttemptAt := some now
        nextAttemptAt := nextAttemptAt
        lastError := some (shortened error) })
    fun state =>
      { state with syncStatus := .retry, lastAttemptAt := some now, lastError := some (shortened error) }

/-- `mark_conflict`. -/
def markConflict (event : ProjectionEvent) (now : DateTime) (error : String) : Action Unit :=
  mark event
    (fun row =>
      { row with
        status := .conflict
        attempts := row.attempts + 1
        lastAttemptAt := some now
        lastError := some (shortened error) })
    fun state =>
      { state with syncStatus := .conflict, lastAttemptAt := some now, lastError := some (shortened error) }

/-- `mark_dead_letter`. -/
def markDeadLetter (event : ProjectionEvent) (now : DateTime) (error : String) : Action Unit :=
  mark event
    (fun row =>
      { row with
        status := .deadLetter
        attempts := row.attempts + 1
        lastAttemptAt := some now
        lastError := some (shortened error) })
    fun state =>
      { state with syncStatus := .deadLetter, lastAttemptAt := some now, lastError := some (shortened error) }

/-- The states that `schedule_stale_refresh` goes through; the rows in `free` are not locked. -/
def OutboxDb.stale (db : OutboxDb) (before : DateTime) (limit : Nat) (free : UUID → Bool) : List ProjectionState :=
  ((db.states.rows.filter fun state => state.syncStatus = .succeeded ∧
    (∃ t ∈ state.lastSucceededAt, t ≤ before) ∧ free state.userId).mergeSort fun s s' =>
      s.lastSucceededAt.getD 0 ≤ s'.lastSucceededAt.getD 0).take limit

/-- `schedule_stale_refresh`, for one state; tells whether an event was found. -/
def refresh (state : ProjectionState) (now : DateTime) : Action Bool := do
  match ← Prog.select fun db => state.lastEventId.bind db.eventNamed with
  | none => return false
  | some row =>
    Prog.update [.event row.id] fun db => db.flushEvent row { row with status := .pending, nextAttemptAt := now }
    Prog.update [.state state.userId] fun db => db.flushState state
      { state with syncStatus := .pending, nextRefreshAt := some now }
    return true

/-- `schedule_stale_refresh`, for the states that are left. -/
def refreshAll (now : DateTime) : List ProjectionState → Action Nat
  | [] => return 0
  | state :: rest => do
    let found ← refresh state now
    let refreshed ← refreshAll now rest
    return if found then refreshed + 1 else refreshed

/-- `schedule_stale_refresh`. -/
def scheduleStaleRefresh (before now : DateTime) (limit : Nat) (free : UUID → Bool) : Action Nat := do
  let states ← Prog.selectAllForUpdate (fun db => (db.stale before limit free).map fun state => .state state.userId)
    fun db => db.stale before limit free
  refreshAll now states

end DiddiGo.Projections
