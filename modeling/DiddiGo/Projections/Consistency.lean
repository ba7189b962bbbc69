import DiddiGo.Projections.Dispatcher
import DiddiGo.Transactions.RelyGuarantee

/-!
# States in step with their events

The row of a state locks everything that is stored for its user, his events included. Whatever a process is
about to publish is known under that lock.
-/

namespace DiddiGo.Projections

open Transactions

/-! ## The ledger of a user -/

/-- What an event publishes. -/
def ProjectionEvent.payload (event : ProjectionEvent) : String × List String :=
  (event.operationalStatus, event.actions)

/-- The events of a user, oldest first. -/
def OutboxDb.eventsOf (db : OutboxDb) (userId : UUID) : List ProjectionEvent :=
  db.events.rows.filter fun event => event.userId = userId

/-- A state is what its events say. -/
structure InStep (state : ProjectionState) (events : List ProjectionEvent) : Prop where
  /-- The events are numbered from 1 to the version of the state. -/
  versions : events.map ProjectionEvent.projectionVersion = List.range' 1 state.projectionVersion
  /-- The state is that of the event with the highest version. -/
  last : ∃ event, events.getLast? = some event ∧ event.projectionVersion = state.projectionVersion ∧
    state.lastEventId = some event.eventId ∧ state.desiredOperationalStatus = some event.operationalStatus ∧
    state.desiredActions = event.actions ∧ state.syncStatus = event.status
  distinct : (events.map ProjectionEvent.eventId).Nodup
  /-- Consecutive events publish something else. -/
  consecutive : events.IsChain fun event event' => event.payload ≠ event'.payload

/-- What the outbox holds for a user. -/
structure Ledger where
  state : Option ProjectionState
  events : List ProjectionEvent

/-- The ledger of a user. -/
def OutboxDb.ledger (db : OutboxDb) (userId : UUID) : Ledger := ⟨db.states.find? userId, db.eventsOf userId⟩

/-- The identifier of an event is made of its data. -/
def ProjectionEvent.Named (event : ProjectionEvent) : Prop :=
  event.eventId = eventIdOf event.userId event.projectionVersion event.id

/-- The state of a ledger, if there is one, is in step with the events. -/
structure Ledger.Faithful (l : Ledger) : Prop where
  named : ∀ event ∈ l.events, event.Named
  absent : l.state = none → l.events = []
  inStep : ∀ state, l.state = some state → InStep state l.events

/-- The events are about the same. -/
structure ProjectionEvent.About (event event' : ProjectionEvent) : Prop where
  eventId : event.eventId = event'.eventId
  userId : event.userId = event'.userId
  projectionVersion : event.projectionVersion = event'.projectionVersion

/-! ## The discipline -/

variable {Proc World : Type} {σ : Scenario Proc World}

/-- What the lock on a row protects. -/
def sameOutbox : Row → OutboxDb → OutboxDb → Prop
  | .state userId, db, db' => db.ledger userId = db'.ledger userId
  | .event id, db, db' => db.events.find? id = db'.events.find? id
  | _, _, _ => True

/-- Whatever the process was told about events of the user, they were not those of the state. -/
def OnlyOlder (i : Proc) (trace : List (Event σ.machine)) (userId : UUID) (state : ProjectionState) : Prop :=
  ∀ event answer, .answered i (.sendDriverStatus event) answer ∈ trace → event.userId = userId →
    event.projectionVersion < state.projectionVersion

/-- A process that delivers events leaves a state alone unless it was told about the last event. -/
def LeavesStates (i : Proc) (trace : List (Event σ.machine)) (db db' : OutboxDb) : Prop :=
  (σ.call i).Delivers → ∀ userId state, db.states.find? userId = some state → OnlyOlder i trace userId state →
    db'.states.find? userId = some state

/-- The discipline. -/
def outboxDiscipline (σ : Scenario Proc World) : RelyGuarantee σ.machine where
  inv s := ∀ userId, (s.db.ledger userId).Faithful
  rely _ s s' := s.trace <+: s'.trace
  guar i s s' := s.trace <+: s'.trace ∧ LeavesStates i s'.trace s.db s'.db
  same := sameOutbox
  rely_refl _ _ := List.prefix_rfl
  rely_trans _ _ _ _ h h' := h.trans h'
  rely_of_guar _ _ _ _ _ h := h.1
  same_refl r db := by cases r <;> simp [sameOutbox]
  same_trans r db db' db'' h h' := by
    cases r with
    | state userId => exact Eq.trans h h'
    | event id => exact Eq.trans h h'
    | _ => trivial

/-! ## What a process is about to publish -/

/-- The database agrees with the one the process sees on all rows it has locked. -/
def Agrees (P : Point σ.machine) (db : OutboxDb) : Prop := ∀ r, P.held r → sameOutbox r P.shared.db db

/-- The process has locked an event like the one it was given. -/
def Taken (event : ProjectionEvent) (P : Point σ.machine) : Prop :=
  P.held (.event event.id) ∧ ∃ row, P.view.events.find? event.id = some row ∧ row.About event

/-- The process has changed only what it has locked. The ledgers that it has locked satisfy `K`, and it has
taken the `events`. -/
structure Carries (i : Proc) (K : UUID → Ledger → Prop) (events : List ProjectionEvent) (P : Point σ.machine) :
    Prop where
  own : ∀ db, Agrees P db → ∀ userId, P.held (.state userId) →
    (P.pending db).ledger userId = P.view.ledger userId
  others : ∀ db, Agrees P db → ∀ userId, ¬ P.held (.state userId) →
    (P.pending db).ledger userId = db.ledger userId
  event : ∀ db db' id, db.events.find? id = db'.events.find? id →
    (P.pending db).events.find? id = (P.pending db').events.find? id
  unlocked : ∀ db id, ¬ P.held (.event id) → (P.pending db).events.find? id = db.events.find? id
  holds : ∀ userId, P.held (.state userId) → K userId (P.view.ledger userId)
  taken : ∀ event ∈ events, Taken event P
  leaves : LeavesStates i P.shared.trace P.shared.db P.view

/-- Every ledger is faithful. -/
def Everywhere (_ : UUID) (l : Ledger) : Prop := l.Faithful

/-- Every ledger is as in `K`, but that of `userId` is `l`. -/
def AllBut (K : UUID → Ledger → Prop) (userId : UUID) (l : Ledger) : UUID → Ledger → Prop :=
  Function.update K userId (· = l)

/-- A write to the ledger of `userId` and its events `ids`. -/
structure Writes (userId : UUID) (ids : UUID → Prop) (f : OutboxDb → OutboxDb) : Prop where
  event : ∀ db db' id, db.events.find? id = db'.events.find? id → (f db).events.find? id = (f db').events.find? id
  unlocked : ∀ db id, ¬ ids id → (f db).events.find? id = db.events.find? id
  others : ∀ db other, other ≠ userId →
    (∀ id row, ids id → db.events.find? id = some row → row.userId = userId) →
    (f db).ledger other = db.ledger other
  about : ∀ db id row, db.events.find? id = some row → ∃ row', (f db).events.find? id = some row' ∧ row'.About row

/-- No state and no event is stored. -/
structure NothingPublished (db : OutboxDb) : Prop where
  states : db.states = .empty
  events : db.events = .empty

section

variable [DecidableEq Proc]

/-- What holds of the outbox after a schedule `ms` that leads from `c` to `c'`. -/
structure OutboxConsistent (c : Config σ.machine) (ms : List (Move σ.machine)) (c' : Config σ.machine) : Prop where
  /-- Every state is what its events say. -/
  inStep : ∀ userId state, c'.shared.db.states.find? userId = some state →
    InStep state (c'.shared.db.eventsOf userId)
  /-- Marks on older events do not change the state. -/
  older : ∀ before m later c₁ c₂, ms = before ++ m :: later → c.run before = some c₁ → c₁.step m = some c₂ →
    LeavesStates (RelyGuarantee.mover m) c₂.shared.trace c₁.shared.db c₂.shared.db

end

end DiddiGo.Projections
