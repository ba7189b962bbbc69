import DiddiGo.Projections.Proofs.CarryingProofs

/-!
# Publishing, delivering and refreshing

Every process of the outbox carries faithful ledgers, so the outbox is consistent in every run.
-/

namespace DiddiGo.Projections

open Data (Keyed Table)
open Transactions Prog RelyGuarantee

variable {Proc World : Type} {σ : Scenario Proc World} {i : Proc} {taken : List ProjectionEvent}
  {P : Point σ.machine} {s : Shared σ.machine} {l : Ledger} {userId : UUID} {state state' : ProjectionState}
  {row : ProjectionEvent}

theorem everywhere_faithful (userId : UUID) (l : Ledger) (h : Everywhere userId l) : l.Faithful := h

/-! ## Rows that are flushed -/

/-- The process has gone on from `P` to `P'` in the same transaction. -/
structure Follows (P P' : Point σ.machine) : Prop where
  held : ∀ r, P.held r → P'.held r
  trace : P.shared.trace <+: P'.shared.trace

section

variable {K : UUID → Ledger → Prop} {loaded new : ProjectionState} {event event' : ProjectionEvent}

/-- A state is flushed. A process that delivers events must have been told about the last one. -/
theorem carries_flushState (hP : Carries i (AllBut K loaded.userId l) taken P) (hheld : P.held (.state loaded.userId))
    (hleaves : ∀ s, (outboxDiscipline σ).Interferes i P s → (σ.call i).Delivers → ∀ state,
      OnlyOlder i s.trace loaded.userId state → l.state = some state → False) :
    (outboxDiscipline σ).wpOk i (Prog.update [.state loaded.userId] fun db => db.flushState loaded new)
      (fun _ P' => Follows P P' ∧
        Carries i (AllBut K loaded.userId (l.flushState loaded new)) taken P') P := by
  refine wpOk_update fun s hs => ⟨⟨fun r hr => Or.inr hr, hs.rely⟩, ?_⟩
  have hP' := hP.interfere hs
  have hcarries := hP'.hold (· ∈ [Row.state loaded.userId]) fun other hother hnot =>
    absurd (Row.state.inj (List.mem_singleton.mp hother) ▸ hheld) hnot
  refine hcarries.write (writes_flushState loaded new) (Or.inr hheld) (fun _ hid => hid.elim)
    (fun _ _ hid => hid.elim) (fun db hdb _ => by rw [ledger_flushState, hdb]) ?_
  intro hdelivers other state _ honly hview
  by_cases hother : other = loaded.userId
  · subst hother
    have hfound : l.state = some state := (congrArg Ledger.state (hP'.view_eq hheld)).symm.trans hview
    exact (hleaves s hs hdelivers state honly hfound).elim
  · exact (Table.find?_update_of_ne _ (loaded.flush new) (fun _ => rfl) hother).trans hview

/-- An event of a ledger that is locked is flushed. -/
theorem carries_flushEvent (hP : Carries i (AllBut K event.userId l) taken P) (hheld : P.held (.state event.userId))
    (hevent : event ∈ l.events) :
    (outboxDiscipline σ).wpOk i (Prog.update [.event event.id] fun db => db.flushEvent event event')
      (fun _ P' => Follows P P' ∧
        Carries i (AllBut K event.userId (l.flushEvent event event')) taken P') P := by
  refine wpOk_update fun s hs => ⟨⟨fun r hr => Or.inr hr, hs.rely⟩, ?_⟩
  have hP' := hP.interfere hs
  have hcarries := hP'.hold (· ∈ [Row.event event.id]) fun other hother _ => by simp at hother
  refine hcarries.write (writes_flushEvent event event') (Or.inr hheld) ?_ ?_
    (fun db hdb _ => by rw [ledger_flushEvent, hdb]) fun _ _ _ _ _ hview => hview
  · rintro id rfl
    exact Or.inl List.mem_cons_self
  · rintro id row rfl hrow
    rw [← hP'.view_eq hheld] at hevent
    have hfound : (P.withShared s).view.events.find? event.id = some event :=
      Table.find?_key_of_mem (OutboxDb.mem_eventsOf.mp hevent).1
    rw [Option.some.inj (hrow.symm.trans hfound)]

end

/-! ## Enqueueing -/

/-- The process carries faithful ledgers, except for a state that it has just inserted. -/
def HasInserted (i : Proc) (userId : UUID) (P : Point σ.machine) : Prop :=
  Carries i Everywhere [] P ∨
    P.held (.state userId) ∧ Carries i (AllBut Everywhere userId ⟨some { userId := userId }, []⟩) [] P

/-- The process has locked the row of a state, which it has inserted or found. -/
structure HasState (i : Proc) (userId : UUID) (state : ProjectionState) (l : Ledger) (P : Point σ.machine) :
    Prop where
  held : P.held (.state userId)
  ready : l.Ready userId
  found : l.state = some state
  carries : Carries i (AllBut Everywhere userId l) [] P

/-- The process has inserted an event and has not yet written the state. -/
structure HasEvent (i : Proc) (row : ProjectionEvent) (l : Ledger) (P : Point σ.machine) : Prop where
  held : P.held (.state row.userId)
  distinct : ∀ event ∈ l.events, event.eventId ≠ row.eventId
  carries : Carries i (AllBut Everywhere row.userId (l.withEvent row)) [] P

/-- A ledger that is ready is the one of its user. -/
theorem HasState.userId_eq (hP : HasState i userId state l P) : state.userId = userId := by
  have hview : P.view.states.find? userId = l.state := congrArg Ledger.state (hP.carries.view_eq hP.held)
  exact Table.key_of_find? (hview.trans hP.found)

theorem hasInserted_insertOnce (hdelivers : ¬ (σ.call i).Delivers) (hP : Carries i Everywhere [] P) :
    (outboxDiscipline σ).wpOk i
      (Prog.insertOnce (.state userId) (fun db => (db.states.find? userId).isSome) fun db =>
        { db with states := db.states.insert { userId := userId } })
      (fun _ => HasInserted i userId) P := by
  refine wpOk_insertOnce (fun s hs _ => Or.inl (hP.interfere hs)) fun s hs htaken => Or.inr ⟨Or.inl rfl, ?_⟩
  have hP' := hP.interfere hs
  have hfaithful := hP'.faithful hs.inv everywhere_faithful
  have hnone : (P.withShared s).view.states.find? userId = none :=
    Option.not_isSome_iff_eq_none.mp (Bool.eq_false_iff.mp htaken)
  have hevents : (P.withShared s).view.eventsOf userId = [] := (hfaithful userId).absent hnone
  have hledger : (P.withShared s).view.ledger userId = ⟨none, []⟩ := by
    unfold OutboxDb.ledger
    rw [hnone, hevents]
  have hcarries := (hP'.hold (· = .state userId) fun other _ _ => hfaithful other).narrow userId
  refine Carries.write (l := ⟨none, []⟩) (hledger ▸ hcarries) (writes_insertState userId) (Or.inl rfl)
    (fun _ hid => hid.elim) (fun _ _ hid => hid.elim) (fun db hdb _ => ledger_insertState hdb)
    fun h => absurd h hdelivers

theorem hasState_selectForUpdate (hP : HasInserted i userId P) :
    (outboxDiscipline σ).wpOk i (Prog.selectForUpdate (.state userId) fun db => db.states.find? userId)
      (fun o P' => ∀ state, o = some state → ∃ l, HasState i userId state l P') P := by
  refine wpOk_selectForUpdate fun s hs state hstate => ?_
  have hlocked : ((P.pending s.db).states.find? userId).isSome ∧ Row.state userId = Row.state userId :=
    ⟨by rw [hstate]; rfl, rfl⟩
  rcases hP with hP | ⟨hheld, hP⟩
  · have hP' := hP.interfere hs
    have hfaithful := hP'.faithful hs.inv everywhere_faithful
    refine ⟨_, Or.inl hlocked, Or.inl (hfaithful userId), hstate, ?_⟩
    exact (hP'.hold _ fun other _ _ => hfaithful other).narrow userId
  · have hP' := hP.interfere hs
    have hview := congrArg Ledger.state (hP'.view_eq hheld)
    exact ⟨_, Or.inl hlocked, Or.inr rfl, hview.symm.trans hstate,
      hP'.hold _ fun other hother hnot => absurd (Row.state.inj hother.2 ▸ hheld) hnot⟩

theorem hasEvent_writeOrRaise (hdelivers : ¬ (σ.call i).Delivers) (hP : HasState i row.userId state l P) :
    (outboxDiscipline σ).wpOk i
      (Prog.writeOrRaise [.event row.id, .eventId row.eventId, .version row.userId row.projectionVersion]
        (fun db => db.taken row) (fun db => { db with events := db.events.insert row }) .integrity)
      (fun _ => HasEvent i row l) P := by
  refine wpOk_writeOrRaise fun s hs htaken => ?_
  have hP' := hP.carries.interfere hs
  unfold OutboxDb.taken at htaken
  rw [Bool.or_eq_false_iff, Bool.or_eq_false_iff] at htaken
  obtain ⟨⟨hid, heventId⟩, -⟩ := htaken
  have hfresh : (P.pending s.db).events.find? row.id = none :=
    Option.not_isSome_iff_eq_none.mp (Bool.eq_false_iff.mp hid)
  have hunnamed : (P.pending s.db).eventNamed row.eventId = none :=
    Option.not_isSome_iff_eq_none.mp (Bool.eq_false_iff.mp heventId)
  have hcarries := hP'.hold (· ∈ [Row.event row.id, .eventId row.eventId, .version row.userId row.projectionVersion])
    fun other hother _ => by simp at hother
  refine ⟨Or.inr hP.held, fun event hevent heq => ?_, ?_⟩
  · rw [← hP'.view_eq hP.held] at hevent
    have hmem : event ∈ (P.pending s.db).events.rows := (OutboxDb.mem_eventsOf.mp hevent).1
    exact List.find?_eq_none.mp hunnamed event hmem (decide_eq_true heq)
  · refine hcarries.write (writes_insertEvent row) (Or.inr hP.held) ?_ ?_ ?_ fun h => absurd h hdelivers
    · rintro id rfl
      exact Or.inl List.mem_cons_self
    · rintro id found rfl hfound
      exact nomatch hfresh.symm.trans hfound
    · intro db hdb hevents
      rw [ledger_insertEvent ((hevents row.id rfl).trans hfresh), hdb]

/-- Enqueueing keeps the ledgers faithful. -/
theorem carries_enqueue {operationalStatus : String} {actions : List String} {requestId : Option String} {id : UUID}
    {now : DateTime} (hdelivers : ¬ (σ.call i).Delivers) (hP : Carries i Everywhere [] P) :
    (outboxDiscipline σ).wpOk i (enqueue userId operationalStatus actions requestId id now)
      (fun _ => Carries i Everywhere []) P := by
  unfold enqueue
  refine wpOk_bind (hasInserted_insertOnce hdelivers hP) fun _ P hP => ?_
  refine wpOk_bind (hasState_selectForUpdate hP) fun o P hP => ?_
  cases o with
  | none => exact wpOk_raise
  | some state =>
    obtain ⟨l, hP⟩ := hP state rfl
    dsimp only
    split_ifs with hsame
    · refine wpOk_ret (hP.carries.widen ?_)
      rcases hP.ready with hfaithful | rfl
      · exact hfaithful
      · obtain rfl := Option.some.inj hP.found
        exact absurd rfl hsame.2.2
    · refine wpOk_bind (hasEvent_writeOrRaise hdelivers hP) fun _ P' hP' => ?_
      have huser : state.userId = userId := hP.userId_eq
      subst huser
      refine wpOk_bind (carries_flushState hP'.carries hP'.held fun _ _ h => absurd h hdelivers) fun _ P'' hP'' =>
        wpOk_ret (hP''.2.widen (hP.ready.succeeded hP.found ⟨rfl, rfl, rfl, rfl, rfl, rfl, rfl, rfl, rfl⟩ hsame hP'.distinct))

theorem carries_enqueueAll {online : UUID → Bool} (candidates : List (DriverProjectionCandidate × UUID × DateTime))
    (hdelivers : ¬ (σ.call i).Delivers) (hP : Carries i Everywhere [] P) :
    (outboxDiscipline σ).wpOk i (enqueueAll online candidates) (fun _ => Carries i Everywhere []) P := by
  induction candidates generalizing P with
  | nil => exact wpOk_ret hP
  | cons candidate rest ih =>
    obtain ⟨candidate, id, now⟩ := candidate
    exact wpOk_bind (carries_enqueue hdelivers hP) fun _ P hP => wpOk_bind (ih hP) fun _ P hP => wpOk_ret hP

/-! ## Refreshing -/

/-- The ledgers are faithful, and the `states` are those that were read. -/
def StillStale (states : List ProjectionState) (userId : UUID) (l : Ledger) : Prop :=
  l.Faithful ∧ ∀ state ∈ states, state.userId = userId → l.state = some state

/-- The process has locked the states that are left. -/
structure HasStale (i : Proc) (states : List ProjectionState) (P : Point σ.machine) : Prop where
  held : ∀ state ∈ states, P.held (.state state.userId)
  distinct : (states.map ProjectionState.userId).Nodup
  carries : Carries i (StillStale states) [] P

theorem HasStale.tail {states : List ProjectionState} (hP : HasStale i (state :: states) P) :
    HasStale i states P where
  held state hstate := hP.held state (List.mem_cons_of_mem _ hstate)
  distinct := (List.nodup_cons.mp hP.distinct).2
  carries := hP.carries.mono fun _ _ hK => ⟨hK.1, fun state hstate => hK.2 state (List.mem_cons_of_mem _ hstate)⟩

/-- The event that a refresh finds is the last one of the user. -/
theorem mem_eventsOf_eventNamed (hfaithful : ∀ userId, (P.view.ledger userId).Faithful)
    (hstate : P.view.states.find? state.userId = some state)
    (hrow : state.lastEventId.bind P.view.eventNamed = some row) :
    row ∈ P.view.eventsOf state.userId ∧ state.lastEventId = some row.eventId := by
  obtain ⟨text, htext, hnamed⟩ := Option.bind_eq_some_iff.mp hrow
  unfold OutboxDb.eventNamed at hnamed
  have hfound := List.find?_some hnamed
  have heventId : row.eventId = text := of_decide_eq_true hfound
  have hmem : row ∈ P.view.events.rows := List.mem_of_find?_eq_some hnamed
  have hlast : state.lastEventId = some row.eventId := by rw [htext, heventId]
  obtain ⟨last, hgetLast, -, hid, -⟩ := ((hfaithful state.userId).inStep state hstate).last
  have hlastMem : last ∈ P.view.eventsOf state.userId := List.mem_of_getLast? hgetLast
  have hrowNamed : row.Named := (hfaithful row.userId).named row (OutboxDb.mem_eventsOf.mpr ⟨hmem, rfl⟩)
  have hlastNamed : last.Named := (hfaithful state.userId).named last hlastMem
  have huser : row.userId = last.userId :=
    hrowNamed.userId_eq hlastNamed (Option.some.inj (hlast.symm.trans hid))
  rw [(OutboxDb.mem_eventsOf.mp hlastMem).2] at huser
  exact ⟨OutboxDb.mem_eventsOf.mpr ⟨hmem, huser⟩, hlast⟩

theorem hasStale_refresh {states : List ProjectionState} {now : DateTime} (hdelivers : ¬ (σ.call i).Delivers)
    (hP : HasStale i (state :: states) P) :
    (outboxDiscipline σ).wpOk i (refresh state now) (fun _ => HasStale i states) P := by
  unfold refresh
  refine wpOk_bind (Q := fun o P' => HasStale i (state :: states) P' ∧ ∀ row, o = some row →
    row ∈ P'.view.eventsOf state.userId ∧ state.lastEventId = some row.eventId) (wpOk_select fun s hs => ?_)
    fun o P' hP' => ?_
  · have hP' := hP.carries.interfere hs
    refine ⟨⟨hP.held, hP.distinct, hP'⟩, fun row hrow => ?_⟩
    have hstate := (hP'.holds state.userId (hP.held state List.mem_cons_self)).2 state List.mem_cons_self rfl
    exact mem_eventsOf_eventNamed (hP'.faithful hs.inv fun _ _ hK => hK.1) hstate hrow
  obtain ⟨hP', hrow⟩ := hP'
  cases o with
  | none => exact wpOk_ret hP'.tail
  | some row =>
    obtain ⟨hmem, hlast⟩ := hrow row rfl
    have huser : row.userId = state.userId := (OutboxDb.mem_eventsOf.mp hmem).2
    have hheld := hP'.held state List.mem_cons_self
    obtain ⟨hfaithful, hstill⟩ := hP'.carries.holds state.userId hheld
    have hnarrow := hP'.carries.narrow state.userId
    rw [← huser] at hnarrow hheld
    refine wpOk_bind (carries_flushEvent hnarrow hheld (huser ▸ hmem)) fun _ P₁ hP₁ => ?_
    have hnarrow₁ := hP₁.2
    rw [huser] at hnarrow₁ hheld
    refine wpOk_bind (carries_flushState hnarrow₁ (hP₁.1.held _ hheld) fun _ _ h => absurd h hdelivers)
      fun _ P₂ hP₂ => wpOk_ret ?_
    have hflushed : (((P'.view.ledger state.userId).flushEvent row
        { row with status := .pending, nextAttemptAt := now }).flushState state
        { state with syncStatus := .pending, nextRefreshAt := some now }).Faithful :=
      hfaithful.flushed_last (hstill state List.mem_cons_self rfl) hmem hlast ⟨rfl, rfl, rfl, rfl, rfl⟩ rfl
    have hother : ∀ other ∈ states, other.userId ≠ state.userId := fun other hmem' heq =>
      (List.nodup_cons.mp hP'.distinct).1 (heq ▸ List.mem_map_of_mem hmem')
    have htail : Carries i (AllBut (StillStale states) state.userId (((P'.view.ledger state.userId).flushEvent row
        { row with status := .pending, nextAttemptAt := now }).flushState state
        { state with syncStatus := .pending, nextRefreshAt := some now })) [] P₂ := by
      refine hP₂.2.mono fun userId _ hK => ?_
      by_cases hne : userId = state.userId
      · subst hne
        exact allBut_self.mpr (allBut_self.mp hK)
      · obtain ⟨hfaithful', hstill'⟩ := (allBut_of_ne hne).mp hK
        exact (allBut_of_ne hne).mpr ⟨hfaithful', fun other hmem' => hstill' other (List.mem_cons_of_mem _ hmem')⟩
    exact
      { held := fun other hmem' => hP₂.1.held _ (hP₁.1.held _ (hP'.held other (List.mem_cons_of_mem _ hmem')))
        distinct := (List.nodup_cons.mp hP'.distinct).2
        carries := htail.widen ⟨hflushed, fun other hmem' heq => absurd heq (hother other hmem')⟩ }

theorem carries_refreshAll {now : DateTime} (states : List ProjectionState) (hdelivers : ¬ (σ.call i).Delivers)
    (hP : HasStale i states P) :
    (outboxDiscipline σ).wpOk i (refreshAll now states) (fun _ => Carries i Everywhere []) P := by
  induction states generalizing P with
  | nil => exact wpOk_ret (hP.carries.mono fun _ _ hK => hK.1)
  | cons state rest ih =>
    exact wpOk_bind (hasStale_refresh hdelivers hP) fun _ P hP => wpOk_bind (ih hP) fun _ P hP => wpOk_ret hP

theorem carries_scheduleStaleRefresh {before now : DateTime} {limit : Nat} {free : UUID → Bool}
    (hdelivers : ¬ (σ.call i).Delivers) (hP : Carries i Everywhere [] P) :
    (outboxDiscipline σ).wpOk i (scheduleStaleRefresh before now limit free)
      (fun _ => Carries i Everywhere []) P := by
  unfold scheduleStaleRefresh
  refine wpOk_bind (wpOk_selectAllForUpdate fun s hs => ?_) fun states P hP => carries_refreshAll states hdelivers hP
  have hP' := hP.interfere hs
  have hfaithful := hP'.faithful hs.inv everywhere_faithful
  have hlocked := hP'.hold (· ∈ ((P.pending s.db).stale before limit free).map fun state => Row.state state.userId)
    fun other _ _ => hfaithful other
  refine ⟨fun state hstate => Or.inl (List.mem_map_of_mem hstate),
    Table.nodup_page (P.pending s.db).states _ _ _, hlocked.mono fun userId _ hK => ⟨hK, ?_⟩⟩
  rintro state hstate rfl
  exact Table.find?_key_of_mem (Table.mem_of_mem_page hstate).1

/-! ## Delivering -/

/-- The process was told about the event. -/
def Told (i : Proc) (event : ProjectionEvent) (s : Shared σ.machine) : Prop :=
  ∃ answer, .answered i (.sendDriverStatus event) answer ∈ s.trace

/-- What a mark writes. -/
structure Marks (status : SyncStatus) (row : ProjectionEvent → ProjectionEvent)
    (state : ProjectionState → ProjectionState) : Prop where
  status_row : ∀ event, (row event).status = status
  status_state : ∀ loaded, (state loaded).syncStatus = status
  alike : ∀ loaded, (state loaded).Alike loaded

/-- The process has locked an event that it was told about, and the state of the user. -/
structure HasLocked (i : Proc) (taken : List ProjectionEvent) (event row : ProjectionEvent) (state : ProjectionState)
    (l : Ledger) (P : Point σ.machine) : Prop where
  held : P.held (.state row.userId)
  told : Told i event P.shared
  about : row.About event
  id : row.id = event.id
  userId : state.userId = row.userId
  mem : row ∈ l.events
  unique : ∀ other ∈ l.events, other.id = row.id → other = row
  faithful : l.Faithful
  found : l.state = some state
  carries : Carries i (AllBut Everywhere row.userId l) taken P

/-- An event that is locked stays as it is. -/
theorem Carries.event_eq {K : UUID → Ledger → Prop} (hP : Carries i K taken P)
    (hs : (outboxDiscipline σ).Interferes i P s) {id : UUID} (hheld : P.held (.event id)) :
    (P.pending s.db).events.find? id = P.view.events.find? id := hP.event _ _ id (hs.same (.event id) hheld).symm

theorem hasLocked_locked {event : ProjectionEvent} (hevent : event ∈ taken) (hP : Carries i Everywhere taken P)
    (htold : Told i event P.shared) :
    (outboxDiscipline σ).wpOk i (locked event)
      (fun r P' => ∃ l, HasLocked i taken event r.1 r.2 l P') P := by
  unfold locked
  refine wpOk_bind (Q := fun o P' => Carries i Everywhere taken P' ∧ Told i event P'.shared ∧
    P'.held (.event event.id) ∧ ∀ row, o = some row → P'.view.events.find? event.id = some row ∧ row.About event)
    (wpOk_selectForUpdate fun s hs => ?_) fun o P₁ hP₁ => ?_
  · have hP' := hP.interfere hs
    obtain ⟨hheld, row, hrow, habout⟩ := hP'.taken event hevent
    obtain ⟨answer, hanswer⟩ := htold
    refine ⟨hP'.hold _ fun other hother _ => (nomatch hother.2), ⟨answer, hs.rely.subset hanswer⟩, Or.inr hheld,
      fun row' hrow' => ⟨hrow', ?_⟩⟩
    obtain rfl := Option.some.inj (hrow.symm.trans hrow')
    exact habout
  obtain ⟨hP₁, htold₁, hheld₁, hrow₁⟩ := hP₁
  cases o with
  | none => exact wpOk_raise
  | some row =>
    obtain ⟨hrow, habout⟩ := hrow₁ row rfl
    refine wpOk_bind (Q := fun o P' => ∀ state, o = some state → ∃ l, HasLocked i taken event row state l P')
      (wpOk_selectForUpdate fun s hs state hstate => ?_) fun o P₂ hP₂ => ?_
    · have hP' := hP₁.interfere hs
      have hfaithful := hP'.faithful hs.inv everywhere_faithful
      have hrow' : (P₁.withShared s).view.events.find? event.id = some row := (hP₁.event_eq hs hheld₁).trans hrow
      have hid : row.id = event.id := Table.key_of_find? hrow'
      have hstateId : state.userId = event.userId := Table.key_of_find? hstate
      obtain ⟨answer, hanswer⟩ := htold₁
      rw [← habout.userId] at hstate hstateId
      have hlocked := (hP'.hold (fun r => ((P₁.pending s.db).states.find? row.userId).isSome ∧ r = .state row.userId)
        fun other _ _ => hfaithful other).narrow row.userId
      have hheld : ((P₁.pending s.db).states.find? row.userId).isSome ∧ Row.state row.userId = .state row.userId :=
        ⟨by rw [hstate]; rfl, rfl⟩
      rw [← habout.userId]
      refine ⟨_, ⟨Or.inl hheld, ⟨answer, hs.rely.subset hanswer⟩, habout, hid, hstateId,
        OutboxDb.mem_eventsOf.mpr ⟨Table.mem_of_find? hrow', rfl⟩, fun other hother hsame => ?_,
        hfaithful row.userId, hstate, hlocked⟩⟩
      have hother : (P₁.withShared s).view.events.find? other.id = some other :=
        Table.find?_key_of_mem (OutboxDb.mem_eventsOf.mp hother).1
      rw [hsame, hid] at hother
      exact Option.some.inj (hother.symm.trans hrow')
    · cases o with
      | none => exact wpOk_raise
      | some state => exact wpOk_ret (hP₂ state rfl)

/-- A mark keeps the ledgers faithful, and it leaves the state alone unless the event is the last one. -/
theorem carries_mark (status : SyncStatus) {event : ProjectionEvent} {row : ProjectionEvent → ProjectionEvent}
    {state : ProjectionState → ProjectionState} (hmarks : Marks status row state) (hevent : event ∈ taken)
    (hP : Carries i Everywhere taken P) (htold : Told i event P.shared) :
    (outboxDiscipline σ).wpOk i (mark event row state) (fun _ => Carries i Everywhere taken) P := by
  unfold mark
  refine wpOk_bind (hasLocked_locked hevent hP htold) fun r P₁ hP₁ => ?_
  obtain ⟨loaded, loadedState⟩ := r
  obtain ⟨l, hP₁⟩ := hP₁
  dsimp only at hP₁ ⊢
  rw [← hP₁.id, ← hP₁.about.userId, ← hP₁.about.eventId]
  refine wpOk_bind (carries_flushEvent hP₁.carries hP₁.held hP₁.mem) fun _ P₂ hP₂ => ?_
  by_cases hlast : loadedState.lastEventId = some loaded.eventId
  · rw [if_pos hlast]
    have hP₂' := hP₂.2
    have hheld := hP₂.1.held _ hP₁.held
    rw [← hP₁.userId] at hP₂' hheld ⊢
    refine wpOk_mono (carries_flushState hP₂' hheld fun s hs _ state' honly hstate' => ?_) fun _ P₃ hP₃ =>
      hP₃.2.widen (hP₁.faithful.flushed_last hP₁.found hP₁.mem hlast (hmarks.alike loadedState) ?_)
    · obtain rfl := Option.some.inj (hP₁.found.symm.trans hstate')
      obtain ⟨answer, hanswer⟩ := hP₁.told
      have holder := honly event answer ((hP₂.1.trace.trans hs.rely).subset hanswer)
        (hP₁.about.userId.symm.trans hP₁.userId.symm)
      have hinStep := hP₁.faithful.inStep loadedState hP₁.found
      obtain ⟨last, hgetLast, hversion, -⟩ := hinStep.last
      obtain rfl : loaded = last := Option.some.inj ((hinStep.eq_last hP₁.mem hlast).symm.trans hgetLast)
      rw [← hP₁.about.projectionVersion, hversion] at holder
      exact lt_irrefl _ holder
    · rw [hmarks.status_row, hmarks.status_state]
  · rw [if_neg hlast]
    exact wpOk_ret (hP₂.2.widen (hP₁.faithful.flushed_older hP₁.found hP₁.unique hlast))

theorem carries_ask (event : ProjectionEvent) (hP : Carries i Everywhere taken P) :
    (outboxDiscipline σ).wpOk i (Prog.ask (.sendDriverStatus event))
      (fun _ P' => Carries i Everywhere taken P' ∧ Told i event P'.shared) P := by
  refine wpOk_ask fun s hs => ?_
  refine ⟨⟨hs.inv, ⟨List.prefix_append _ _, .refl _ _⟩, fun r _ => (outboxDiscipline σ).same_refl r _⟩, ?_⟩
  intro s' hs' answer w _
  refine ⟨⟨hs'.inv, ⟨List.prefix_append _ _, .refl _ _⟩, fun r _ => (outboxDiscipline σ).same_refl r _⟩, ?_⟩
  have hsent := (hP.interfere hs).record (s := s.send i (.sendDriverStatus event)) rfl (List.prefix_append _ _)
  refine ⟨(hsent.interfere hs').record rfl (List.prefix_append _ _), answer, ?_⟩
  exact List.mem_append_right _ (List.mem_singleton.mpr rfl)

theorem carries_deliver {settings : DispatcherSettings} {now : DateTime} {event : ProjectionEvent}
    (hevent : event ∈ taken) (hP : Carries i Everywhere taken P) :
    (outboxDiscipline σ).wpOk i (deliver settings now event) (fun _ => Carries i Everywhere taken) P := by
  unfold deliver
  refine wpOk_bind (carries_ask event hP) fun answer P hP => ?_
  cases answer with
  | delivered =>
    exact carries_mark .succeeded ⟨fun _ => rfl, fun _ => rfl, fun _ => ⟨rfl, rfl, rfl, rfl, rfl⟩⟩ hevent hP.1 hP.2
  | failed statusCode conflict message =>
    dsimp only
    split_ifs
    · exact carries_mark .conflict ⟨fun _ => rfl, fun _ => rfl, fun _ => ⟨rfl, rfl, rfl, rfl, rfl⟩⟩ hevent hP.1 hP.2
    · exact carries_mark .deadLetter ⟨fun _ => rfl, fun _ => rfl, fun _ => ⟨rfl, rfl, rfl, rfl, rfl⟩⟩ hevent hP.1 hP.2
    · exact carries_mark .retry ⟨fun _ => rfl, fun _ => rfl, fun _ => ⟨rfl, rfl, rfl, rfl, rfl⟩⟩ hevent hP.1 hP.2
  | crashed name => exact wpOk_raise

theorem carries_deliverAll {settings : DispatcherSettings} {now : DateTime} (events : List ProjectionEvent)
    (hevents : ∀ event ∈ events, event ∈ taken) (hP : Carries i Everywhere taken P) :
    (outboxDiscipline σ).wpOk i (deliverAll settings now events) (fun _ => Carries i Everywhere taken) P := by
  induction events generalizing P with
  | nil => exact wpOk_ret hP
  | cons event rest ih =>
    exact wpOk_bind (carries_deliver (hevents event List.mem_cons_self) hP) fun _ P hP =>
      ih (fun event hevent => hevents event (List.mem_cons_of_mem _ hevent)) hP

/-- The events that are due are locked, and each of them is the row that was read. -/
theorem carries_listDue {now : DateTime} {limit : Nat} {free : UUID → Bool} (hP : Carries i Everywhere [] P) :
    (outboxDiscipline σ).wpOk i (listDue now limit free) (fun events => Carries i Everywhere events) P := by
  refine wpOk_selectAllForUpdate fun s hs => ?_
  have hP' := (hP.interfere hs).hold
    (· ∈ ((P.pending s.db).due now limit free).map fun event => Row.event event.id) fun other hother _ => by
      obtain ⟨event, -, hevent⟩ := List.mem_map.mp hother
      cases hevent
  refine { hP' with taken := fun event hevent => ⟨Or.inl (List.mem_map_of_mem hevent), event, ?_, .refl event⟩ }
  exact Table.find?_key_of_mem (Table.mem_of_mem_page hevent).1

/-! ## Runs -/

/-- Every process of the outbox is verified. -/
theorem verified_action (σ : Scenario Proc World) (i : Proc) (s : Shared σ.machine) :
    (outboxDiscipline σ).Verified i (σ.call i).action s := by
  have hstart : Carries i Everywhere [] (Point.start s) := .start s
  generalize hcall : σ.call i = call
  cases call with
  | publication userId operationalStatus actions requestId id now =>
    have hdelivers : ¬ (σ.call i).Delivers := by
      rw [hcall]
      exact not_false
    exact verified_of_carries (wpOk_bind (carries_enqueue hdelivers hstart) fun _ P hP => wpOk_ret hP)
  | delivery settings now batchSize free =>
    refine verified_of_carries (wpOk_bind ?_ fun _ P hP => wpOk_ret hP)
    refine wpOk_bind (carries_listDue hstart) fun events P hP => ?_
    refine wpOk_bind (carries_deliverAll events (fun _ hevent => hevent) hP) fun _ P hP => wpOk_ret ?_
    exact { hP with taken := fun _ hevent => absurd hevent List.not_mem_nil }
  | reconciliation candidates online refreshBefore now batchSize free =>
    have hdelivers : ¬ (σ.call i).Delivers := by
      rw [hcall]
      exact not_false
    refine verified_of_carries (wpOk_bind ?_ fun _ P hP => wpOk_ret hP)
    exact wpOk_bind (carries_enqueueAll candidates hdelivers hstart) fun _ P hP =>
      wpOk_bind (carries_scheduleStaleRefresh hdelivers hP) fun _ P hP => wpOk_ret hP

theorem NothingPublished.faithful {db : OutboxDb} (h : NothingPublished db) (userId : UUID) :
    (db.ledger userId).Faithful := by
  unfold OutboxDb.ledger OutboxDb.eventsOf
  rw [h.states, h.events]
  exact ⟨fun _ hevent => absurd hevent List.not_mem_nil, fun _ => rfl, fun _ hstate => nomatch hstate⟩

/-- In every run that begins with an empty outbox, states are what their events say, and marks on older events
leave them alone. -/
theorem outboxConsistent_run [DecidableEq Proc] (σ : Scenario Proc World) {db : OutboxDb} {world : World}
    {ms : List (Move σ.machine)} {c' : Config σ.machine} (hnew : NothingPublished db)
    (hrun : (σ.initial db world).run ms = some c') : OutboxConsistent (σ.initial db world) ms c' := by
  have hsound : (outboxDiscipline σ).Sound (σ.initial db world) :=
    sound_initial hnew.faithful fun i => verified_action σ i _
  refine ⟨fun userId state hstate => ?_, fun before m later c₁ c₂ _ hbefore hstep => ?_⟩
  · exact ((hsound.run hrun).inv userId).inStep state hstate
  · rcases ((hsound.run hbefore).step hstep).2 with hsame | hguar
    · rw [hsame]
      exact .refl _ _
    · exact hguar.2

namespace Sample

/-- A driver goes online, and the worker delivers the event. -/
def scenario : Scenario Bool Unit where
  call
    | true => .publication 10 "online" ["go_offline"] none 70 0
    | false => .delivery {} 5 20 fun _ => true
  receives _ _ _ := ()
  answers _ _ _ _ := some ()

def schedule : List (Move scenario.machine) :=
  List.replicate 5 (.go true) ++ List.replicate 2 (.go false) ++ [.reply false .delivered] ++
    List.replicate 5 (.go false)

end Sample

theorem outboxConsistent_run_delivered : ∃ c', (Sample.scenario.initial {} ()).run Sample.schedule = some c' ∧
    OutboxConsistent (Sample.scenario.initial {} ()) Sample.schedule c' := by
  have hrun : ((Sample.scenario.initial {} ()).run Sample.schedule).map (fun c =>
      (c.shared.db.states.find? 10).map fun state => (state.projectionVersion, state.syncStatus)) =
      some (some (1, .succeeded)) := by decide +kernel
  obtain ⟨c', hc', -⟩ := Option.map_eq_some_iff.mp hrun
  exact ⟨c', hc', outboxConsistent_run Sample.scenario ⟨rfl, rfl⟩ hc'⟩

end DiddiGo.Projections
