import DiddiGo.Data.Proofs.TableProofs
import DiddiGo.Data.Proofs.TextProofs
import DiddiGo.Projections.Consistency
import DiddiGo.Rides.Proofs.RideDbProofs

/-!
# Ledgers

What the statements of the outbox do to the ledger of a user, and which of their combinations keep a state in
step with its events.
-/

namespace DiddiGo.Projections

open Data (Keyed Table)

variable {db : OutboxDb} {state state' : ProjectionState} {event event' row : ProjectionEvent}
  {events : List ProjectionEvent} {l : Ledger} {userId : UUID}

@[simp] theorem key_state (state : ProjectionState) : Keyed.key state = state.userId := rfl

@[simp] theorem key_event (event : ProjectionEvent) : Keyed.key event = event.id := rfl

/-! ## Identifiers of events -/

theorem isDigit_of_mem_str {id : UUID} {c : Char} (h : c ∈ (UUID.str id).toList) : c.isDigit := by
  unfold UUID.str at h
  rw [Nat.toList_repr] at h
  exact Nat.isDigit_of_mem_toDigits (by decide) (by decide) h

theorem takeWhile_str (id : UUID) (rest : List Char) :
    ((UUID.str id).toList ++ ':' :: rest).takeWhile Char.isDigit = (UUID.str id).toList := by
  rw [List.takeWhile_append_of_pos fun c hc => isDigit_of_mem_str hc, List.takeWhile_cons_of_neg (by decide),
    List.append_nil]

/-- The user can be read off the identifier of his event. -/
theorem userId_of_eventIdOf {userId' id id' : UUID} {version version' : Nat}
    (h : eventIdOf userId version id = eventIdOf userId' version' id') : userId = userId' := by
  have htexts := congrArg String.toList h
  unfold eventIdOf at htexts
  simp only [String.toList_append, List.append_assoc] at htexts
  have hrest := List.append_cancel_left htexts
  have hdigits := congrArg (List.takeWhile Char.isDigit) hrest
  change List.takeWhile Char.isDigit ((UUID.str userId).toList ++ ':' :: _) =
    List.takeWhile Char.isDigit ((UUID.str userId').toList ++ ':' :: _) at hdigits
  rw [takeWhile_str, takeWhile_str] at hdigits
  exact UUID.str_injective (String.toList_inj.mp hdigits)

theorem eventIdOf_ne_empty (userId id : UUID) (version : Nat) : eventIdOf userId version id ≠ "" := by
  intro h
  have htext := congrArg String.toList h
  unfold eventIdOf at htext
  simp [String.toList_append] at htext

theorem ProjectionEvent.Named.userId_eq (h : event.Named) (h' : event'.Named) (heq : event.eventId = event'.eventId) :
    event.userId = event'.userId := by
  unfold Named at h h'
  rw [h, h'] at heq
  exact userId_of_eventIdOf heq

/-! ## Rows that are flushed -/

theorem ProjectionState.flush_self (loaded new : ProjectionState) (h : new.userId = loaded.userId) :
    loaded.flush new loaded = new := by
  unfold flush
  simp only [Rides.column_self]
  rw [← h]

@[simp] theorem ProjectionState.userId_flush (loaded new row : ProjectionState) :
    (loaded.flush new row).userId = row.userId := rfl

theorem ProjectionEvent.about_flush (loaded new row : ProjectionEvent) : (loaded.flush new row).About row :=
  ⟨rfl, rfl, rfl⟩

theorem ProjectionEvent.About.refl (event : ProjectionEvent) : event.About event := ⟨rfl, rfl, rfl⟩

theorem ProjectionEvent.About.trans {event'' : ProjectionEvent} (h : event.About event') (h' : event'.About event'') :
    event.About event'' :=
  ⟨h.eventId.trans h'.eventId, h.userId.trans h'.userId, h.projectionVersion.trans h'.projectionVersion⟩

@[simp] theorem ProjectionEvent.status_flush_self (loaded new : ProjectionEvent) :
    (loaded.flush new loaded).status = new.status := Rides.column_self _ _

/-! ## Ledgers after a write -/

/-- A ledger with another event. -/
def Ledger.withEvent (l : Ledger) (event : ProjectionEvent) : Ledger := { l with events := l.events ++ [event] }

/-- A ledger whose state is flushed. -/
def Ledger.flushState (l : Ledger) (loaded new : ProjectionState) : Ledger :=
  { l with state := l.state.map (loaded.flush new) }

/-- A ledger one of whose events is flushed. -/
def Ledger.flushEvent (l : Ledger) (loaded new : ProjectionEvent) : Ledger :=
  { l with events := l.events.map fun event => if event.id = loaded.id then loaded.flush new event else event }

theorem OutboxDb.mem_eventsOf : event ∈ db.eventsOf userId ↔ event ∈ db.events.rows ∧ event.userId = userId := by
  unfold eventsOf
  rw [List.mem_filter, decide_eq_true_eq]

theorem ledger_insertState (h : db.ledger userId = ⟨none, []⟩) :
    ({ db with states := db.states.insert { userId := userId } } : OutboxDb).ledger userId =
      ⟨some { userId := userId }, []⟩ := by
  have hnone : db.states.find? userId = none := congrArg Ledger.state h
  have hevents : db.eventsOf userId = [] := congrArg Ledger.events h
  unfold OutboxDb.ledger
  congr 1
  exact Table.find?_insert_self (r := ({ userId := userId } : ProjectionState)) hnone

theorem ledger_insertEvent (h : db.events.find? row.id = none) :
    ({ db with events := db.events.insert row } : OutboxDb).ledger row.userId =
      (db.ledger row.userId).withEvent row := by
  unfold OutboxDb.ledger Ledger.withEvent OutboxDb.eventsOf
  have hrow : [row].filter (fun event => decide (event.userId = row.userId)) = [row] := by simp
  rw [Table.rows_insert (r := row) h, List.filter_append, hrow]

theorem ledger_flushState (loaded new : ProjectionState) :
    (db.flushState loaded new).ledger loaded.userId = (db.ledger loaded.userId).flushState loaded new := by
  unfold OutboxDb.ledger Ledger.flushState OutboxDb.flushState
  dsimp only
  rw [Table.find?_update, if_pos rfl]
  rfl

theorem ledger_flushEvent (loaded new : ProjectionEvent) (userId : UUID) :
    (db.flushEvent loaded new).ledger userId = (db.ledger userId).flushEvent loaded new := by
  unfold OutboxDb.ledger Ledger.flushEvent OutboxDb.eventsOf
  congr 1
  change ((db.events.rows.map fun event => if event.id = loaded.id then loaded.flush new event else event).filter
    fun event => decide (event.userId = userId)) = _
  rw [List.filter_map]
  congr 1
  refine List.filter_congr fun event _ => ?_
  by_cases hid : event.id = loaded.id
  · simp only [Function.comp_apply, if_pos hid]
    rfl
  · simp only [Function.comp_apply, if_neg hid]

/-! ## Writes -/

theorem writes_insertState (userId : UUID) :
    Writes userId (fun _ => False) fun db => { db with states := db.states.insert { userId := userId } } where
  event _ _ _ h := h
  unlocked _ _ _ := rfl
  others db other hother _ := by
    unfold OutboxDb.ledger
    congr 1
    exact Table.find?_insert_of_ne db.states (r := { userId := userId }) (Ne.symm hother)
  about _ _ row h := ⟨row, h, .refl row⟩

theorem writes_insertEvent (row : ProjectionEvent) :
    Writes row.userId (· = row.id) fun db => { db with events := db.events.insert row } where
  event db db' id h := by
    dsimp only
    rw [Table.find?_insert, Table.find?_insert, h]
  unlocked db id hid := Table.find?_insert_of_ne db.events (r := row) (Ne.symm hid)
  others db other hother _ := by
    unfold OutboxDb.ledger OutboxDb.eventsOf
    congr 1
    dsimp only
    cases hfound : db.events.find? row.id with
    | some found => rw [Table.insert_of_some (r := row) hfound]
    | none =>
      have hrow : [row].filter (fun event => decide (event.userId = other)) = [] := by simp [Ne.symm hother]
      rw [Table.rows_insert (r := row) hfound, List.filter_append, hrow, List.append_nil]
  about db id found h := ⟨found, Table.find?_insert_of_some row h, .refl found⟩

theorem writes_flushState (loaded new : ProjectionState) :
    Writes loaded.userId (fun _ => False) fun db => db.flushState loaded new where
  event _ _ _ h := h
  unlocked _ _ _ := rfl
  others db other hother _ := by
    unfold OutboxDb.ledger OutboxDb.flushState
    congr 1
    exact Table.find?_update_of_ne db.states (loaded.flush new) (fun _ => rfl) hother
  about _ _ row h := ⟨row, h, .refl row⟩

/-- The event belongs to the user of the ledger. -/
theorem writes_flushEvent (loaded new : ProjectionEvent) :
    Writes loaded.userId (· = loaded.id) fun db => db.flushEvent loaded new where
  event db db' id h := by
    unfold OutboxDb.flushEvent
    dsimp only
    rw [Table.find?_update, Table.find?_update, h]
  unlocked db id hid := Table.find?_update_of_ne db.events (loaded.flush new) (fun _ => rfl) hid
  others db other hother howned := by
    rw [ledger_flushEvent]
    unfold Ledger.flushEvent
    have hsame : ∀ event ∈ (db.ledger other).events,
        (if event.id = loaded.id then loaded.flush new event else event) = event := by
      intro event hevent
      obtain ⟨hrow, huser⟩ := OutboxDb.mem_eventsOf.mp hevent
      refine if_neg fun hid => hother ?_
      have hfound : db.events.find? event.id = some event := Table.find?_key_of_mem hrow
      rw [← huser, howned event.id event hid hfound]
    rw [List.map_congr_left hsame, List.map_id']
  about db id row h := by
    unfold OutboxDb.flushEvent
    dsimp only
    rw [Table.find?_update, h]
    by_cases hid : id = loaded.id
    · rw [if_pos hid]
      exact ⟨_, rfl, ProjectionEvent.about_flush _ _ _⟩
    · rw [if_neg hid]
      exact ⟨row, rfl, .refl row⟩

/-! ## States in step -/

/-- The states want the same to be published, by the same event. -/
structure ProjectionState.Alike (state state' : ProjectionState) : Prop where
  userId : state.userId = state'.userId
  projectionVersion : state.projectionVersion = state'.projectionVersion
  desiredOperationalStatus : state.desiredOperationalStatus = state'.desiredOperationalStatus
  desiredActions : state.desiredActions = state'.desiredActions
  lastEventId : state.lastEventId = state'.lastEventId

theorem ProjectionState.Alike.refl (state : ProjectionState) : state.Alike state := ⟨rfl, rfl, rfl, rfl, rfl⟩

/-- Events that are rewritten stay in step if the last one has the status of the state. -/
theorem InStep.map {g : ProjectionEvent → ProjectionEvent} (h : InStep state events)
    (hg : ∀ event, (g event).About event ∧ (g event).payload = event.payload) (halike : state'.Alike state)
    (hsync : ∀ event, events.getLast? = some event → state'.syncStatus = (g event).status) :
    InStep state' (events.map g) where
  versions := by
    have hversion : ProjectionEvent.projectionVersion ∘ g = ProjectionEvent.projectionVersion :=
      funext fun event => (hg event).1.projectionVersion
    rw [List.map_map, hversion, h.versions, halike.projectionVersion]
  last := by
    obtain ⟨event, hlast, hversion, hid, hstatus, hactions, -⟩ := h.last
    refine ⟨g event, by rw [List.getLast?_map, hlast]; rfl, ?_, ?_, ?_, ?_, hsync event hlast⟩
    · rw [(hg event).1.projectionVersion, hversion, halike.projectionVersion]
    · rw [(hg event).1.eventId, halike.lastEventId, hid]
    · rw [halike.desiredOperationalStatus, hstatus]
      exact congrArg some (congrArg Prod.fst (hg event).2).symm
    · rw [halike.desiredActions, hactions]
      exact (congrArg Prod.snd (hg event).2).symm
  distinct := by
    have heventId : ProjectionEvent.eventId ∘ g = ProjectionEvent.eventId :=
      funext fun event => (hg event).1.eventId
    rw [List.map_map, heventId]
    exact h.distinct
  consecutive := by
    refine List.isChain_map_of_isChain g (fun event event' hne => ?_) h.consecutive
    rw [(hg event).2, (hg event').2]
    exact hne

/-- Only the last event has the identifier that the state has stored. -/
theorem InStep.eq_last (h : InStep state events) (hevent : event ∈ events)
    (hlast : state.lastEventId = some event.eventId) : events.getLast? = some event := by
  obtain ⟨last, hgetLast, -, hid, -⟩ := h.last
  have heventId : last.eventId = event.eventId := Option.some.inj (hid.symm.trans hlast)
  rw [hgetLast, List.inj_on_of_nodup_map h.distinct (List.mem_of_getLast? hgetLast) hevent heventId]

namespace Ledger.Faithful

variable {new : ProjectionEvent}

/-- A ledger one of whose events is flushed. -/
theorem named_flushEvent (h : l.Faithful) (loaded new : ProjectionEvent) :
    ∀ event ∈ (l.flushEvent loaded new).events, event.Named := by
  intro event hevent
  obtain ⟨event', hevent', rfl⟩ := List.mem_map.mp hevent
  by_cases hid : event'.id = loaded.id
  · rw [if_pos hid]
    exact h.named event' hevent'
  · rw [if_neg hid]
    exact h.named event' hevent'

/-- What a flush of `row` does to an event, if nothing else has its key. -/
theorem about_flushEvent (row new event : ProjectionEvent) :
    (if event.id = row.id then row.flush new event else event).About event ∧
      (if event.id = row.id then row.flush new event else event).payload = event.payload := by
  by_cases hid : event.id = row.id
  · rw [if_pos hid]
    exact ⟨ProjectionEvent.about_flush _ _ _, rfl⟩
  · rw [if_neg hid]
    exact ⟨.refl event, rfl⟩

/-- The last event and the state get the same status. -/
theorem flushed_last (h : l.Faithful) (hstate : l.state = some state) (hrow : row ∈ l.events)
    (hlast : state.lastEventId = some row.eventId) (halike : state'.Alike state)
    (hsync : state'.syncStatus = new.status) : ((l.flushEvent row new).flushState state state').Faithful where
  named := h.named_flushEvent row new
  absent hnone := by
    unfold flushState flushEvent at hnone
    rw [hstate] at hnone
    cases hnone
  inStep state'' hstate'' := by
    have hnew : state' = state'' := by
      unfold flushState flushEvent at hstate''
      rw [hstate, Option.map_some, ProjectionState.flush_self state state' halike.userId] at hstate''
      exact Option.some.inj hstate''
    subst hnew
    have hinStep := h.inStep state hstate
    refine hinStep.map (about_flushEvent row new) halike fun event hevent => ?_
    obtain rfl : row = event := Option.some.inj ((hinStep.eq_last hrow hlast).symm.trans hevent)
    rw [if_pos rfl, ProjectionEvent.status_flush_self, hsync]

/-- An event that is not the last one gets a status of its own. -/
theorem flushed_older (h : l.Faithful) (hstate : l.state = some state)
    (hids : ∀ event ∈ l.events, event.id = row.id → event = row)
    (hlast : state.lastEventId ≠ some row.eventId) : (l.flushEvent row new).Faithful where
  named := h.named_flushEvent row new
  absent hnone := by
    have hnone : l.state = none := hnone
    rw [hstate] at hnone
    cases hnone
  inStep state' hstate' := by
    obtain rfl : state = state' := Option.some.inj (hstate.symm.trans hstate')
    have hinStep := h.inStep state hstate
    refine hinStep.map (about_flushEvent row new) (.refl state) fun event hevent => ?_
    obtain ⟨last, hgetLast, -, hid, -, -, hsync⟩ := hinStep.last
    obtain rfl : last = event := Option.some.inj (hgetLast.symm.trans hevent)
    have hother : last.id ≠ row.id := by
      intro hsame
      rw [hids last (List.mem_of_getLast? hgetLast) hsame] at hid
      exact hlast hid
    rw [if_neg hother, hsync]

end Ledger.Faithful

/-! ## New events -/

/-- A ledger to which an event can be added: it is faithful, or its state was just inserted. -/
def Ledger.Ready (l : Ledger) (userId : UUID) : Prop := l.Faithful ∨ l = ⟨some { userId := userId }, []⟩

/-- The state before and after another event. -/
structure Succeeds (state state' : ProjectionState) (row : ProjectionEvent) : Prop where
  version : row.projectionVersion = state.projectionVersion + 1
  status : row.status = .pending
  named : row.Named
  userId : state'.userId = state.userId
  projectionVersion : state'.projectionVersion = row.projectionVersion
  desiredOperationalStatus : state'.desiredOperationalStatus = some row.operationalStatus
  desiredActions : state'.desiredActions = row.actions
  lastEventId : state'.lastEventId = some row.eventId
  syncStatus : state'.syncStatus = .pending

/-- The state of a new event is in step if the events before were. -/
theorem Succeeds.inStep (h : Succeeds state state' row)
    (hevents : events = [] ∧ state.projectionVersion = 0 ∨ InStep state events)
    (hpayload : ∀ event, events.getLast? = some event → event.payload ≠ row.payload)
    (hdistinct : ∀ event ∈ events, event.eventId ≠ row.eventId) : InStep state' (events ++ [row]) where
  versions := by
    have hversions : events.map ProjectionEvent.projectionVersion = List.range' 1 state.projectionVersion := by
      rcases hevents with ⟨rfl, hversion⟩ | hinStep
      · rw [hversion]
        rfl
      · exact hinStep.versions
    rw [List.map_append, hversions, h.projectionVersion, h.version, List.range'_1_concat, List.map_singleton, h.version,
      Nat.add_comm]
  last := ⟨row, List.getLast?_concat, h.projectionVersion.symm, h.lastEventId, h.desiredOperationalStatus,
    h.desiredActions, h.syncStatus.trans h.status.symm⟩
  distinct := by
    have hnodup : (events.map ProjectionEvent.eventId).Nodup := by
      rcases hevents with ⟨rfl, -⟩ | hinStep
      · exact List.nodup_nil
      · exact hinStep.distinct
    rw [List.map_append, List.nodup_append]
    refine ⟨hnodup, List.nodup_singleton _, fun text htext text' htext' => ?_⟩
    obtain ⟨event, hevent, rfl⟩ := List.mem_map.mp htext
    rw [List.map_singleton, List.mem_singleton] at htext'
    rw [htext']
    exact hdistinct event hevent
  consecutive := by
    have hchain : events.IsChain fun event event' => event.payload ≠ event'.payload := by
      rcases hevents with ⟨rfl, -⟩ | hinStep
      · exact .nil
      · exact hinStep.consecutive
    refine List.isChain_append.mpr ⟨hchain, .singleton row, fun event hevent event' hrow => ?_⟩
    obtain rfl : row = event' := Option.some.inj hrow
    exact hpayload event hevent

/-- A ledger with another event is faithful unless the state wants the same already. -/
theorem Ledger.Ready.succeeded (h : l.Ready userId) (hstate : l.state = some state)
    (hsucceeds : Succeeds state state' row)
    (hchanged : ¬ (state.desiredOperationalStatus = some row.operationalStatus ∧ state.desiredActions = row.actions ∧
      state.lastEventId.getD "" ≠ ""))
    (hdistinct : ∀ event ∈ l.events, event.eventId ≠ row.eventId) :
    ((l.withEvent row).flushState state state').Faithful := by
  have hstate' : ((l.withEvent row).flushState state state').state = some state' := by
    unfold flushState withEvent
    rw [hstate, Option.map_some, ProjectionState.flush_self state state' hsucceeds.userId]
  have hevents : ((l.withEvent row).flushState state state').events = l.events ++ [row] := rfl
  have hbefore : l.events = [] ∧ state.projectionVersion = 0 ∨ InStep state l.events := by
    rcases h with hfaithful | rfl
    · exact Or.inr (hfaithful.inStep state hstate)
    · obtain rfl := Option.some.inj hstate
      exact Or.inl ⟨rfl, rfl⟩
  have hnamed : ∀ event ∈ l.events, event.Named := by
    rcases h with hfaithful | rfl
    · exact hfaithful.named
    · exact fun event hevent => absurd hevent List.not_mem_nil
  refine ⟨fun event hevent => ?_, fun hnone => ?_, fun state'' hstate'' => ?_⟩
  · rw [hevents] at hevent
    rcases List.mem_append.mp hevent with hold | hnew
    · exact hnamed event hold
    · rw [List.mem_singleton.mp hnew]
      exact hsucceeds.named
  · rw [hstate'] at hnone
    cases hnone
  · rw [hstate'] at hstate''
    obtain rfl := Option.some.inj hstate''
    rw [hevents]
    refine hsucceeds.inStep hbefore (fun event hevent hpayload => hchanged ?_) hdistinct
    rcases hbefore with ⟨hnil, -⟩ | hinStep
    · rw [hnil] at hevent
      cases hevent
    · obtain ⟨last, hlast, -, hid, hstatus, hactions, -⟩ := hinStep.last
      obtain rfl : last = event := Option.some.inj (hlast.symm.trans hevent)
      refine ⟨hstatus.trans (congrArg some (congrArg Prod.fst hpayload)),
        hactions.trans (congrArg Prod.snd hpayload), ?_⟩
      rw [hid, Option.getD_some, hnamed last (List.mem_of_getLast? hlast)]
      exact eventIdOf_ne_empty _ _ _

end DiddiGo.Projections
