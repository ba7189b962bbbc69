import DiddiGo.Projections.Proofs.LedgerProofs
import DiddiGo.Transactions.Proofs.RelyGuaranteeProofs

/-!
# What a process carries

What a process is about to publish survives the others, more locks, and writes to ledgers it has locked.
-/

namespace DiddiGo.Projections

open Data (Keyed Table)
open Transactions RelyGuarantee

variable {Proc World : Type} {σ : Scenario Proc World} {i : Proc} {K K' : UUID → Ledger → Prop}
  {taken : List ProjectionEvent} {P : Point σ.machine} {s s' : Shared σ.machine} {l l' : Ledger} {userId : UUID}
  {ids : UUID → Prop} {f : OutboxDb → OutboxDb}

theorem OnlyOlder.mono {trace trace' : List (Event σ.machine)} {state : ProjectionState} (htrace : trace <+: trace')
    (h : OnlyOlder i trace' userId state) : OnlyOlder i trace userId state :=
  fun event answer hanswered => h event answer (htrace.subset hanswered)

theorem LeavesStates.refl (trace : List (Event σ.machine)) (db : OutboxDb) : LeavesStates i trace db db :=
  fun _ _ _ hstate _ => hstate

theorem LeavesStates.of_not_delivers (h : ¬ (σ.call i).Delivers) (trace : List (Event σ.machine))
    (db db' : OutboxDb) : LeavesStates i trace db db' := fun hdelivers => absurd hdelivers h

theorem allBut_self : AllBut K userId l userId l' ↔ l' = l := by
  unfold AllBut
  rw [Function.update_self]

theorem allBut_of_ne {other : UUID} (h : other ≠ userId) : AllBut K userId l other l' ↔ K other l' := by
  unfold AllBut
  rw [Function.update_of_ne h]

/-- The database after the others have acted agrees with the one before. -/
theorem agrees_of_interferes (hs : (outboxDiscipline σ).Interferes i P s) : Agrees P s.db := fun r hr => hs.same r hr

theorem Agrees.of_withShared (hs : (outboxDiscipline σ).Interferes i P s) {db : OutboxDb}
    (h : Agrees (P.withShared s) db) : Agrees P db := fun r hr =>
  (outboxDiscipline σ).same_trans r _ _ _ (hs.same r hr) (h r hr)

namespace Carries

/-! ## Steps of the others and of the process -/

theorem start (s : Shared σ.machine) : Carries i K [] (Point.start s) where
  own _ _ _ hheld := hheld.elim
  others _ _ _ _ := rfl
  event _ _ _ h := h
  unlocked _ _ _ := rfl
  holds _ hheld := hheld.elim
  taken _ h := absurd h List.not_mem_nil
  leaves := .refl _ _

theorem interfere (h : Carries i K taken P) (hs : (outboxDiscipline σ).Interferes i P s) :
    Carries i K taken (P.withShared s) where
  own db hdb userId hheld :=
    (h.own db (hdb.of_withShared hs) userId hheld).trans (h.own s.db (agrees_of_interferes hs) userId hheld).symm
  others db hdb := h.others db (hdb.of_withShared hs)
  event := h.event
  unlocked := h.unlocked
  holds userId hheld := by
    have hledger : (P.withShared s).view.ledger userId = P.view.ledger userId :=
      h.own s.db (agrees_of_interferes hs) userId hheld
    rw [hledger]
    exact h.holds userId hheld
  taken event hevent := by
    obtain ⟨hheld, row, hrow, habout⟩ := h.taken event hevent
    have hsame : (P.withShared s).view.events.find? event.id = P.view.events.find? event.id :=
      h.event _ _ event.id (hs.same (.event event.id) hheld).symm
    exact ⟨hheld, row, hsame.trans hrow, habout⟩
  leaves hdelivers userId state hstate honly := by
    by_cases hheld : P.held (.state userId)
    · have hbefore : P.shared.db.states.find? userId = s.db.states.find? userId :=
        congrArg Ledger.state (hs.same (.state userId) hheld)
      have hview : (P.pending s.db).states.find? userId = P.view.states.find? userId :=
        congrArg Ledger.state (h.own s.db (agrees_of_interferes hs) userId hheld)
      exact hview.trans (h.leaves hdelivers userId state (hbefore.trans hstate) (honly.mono hs.rely))
    · have hview : (P.pending s.db).states.find? userId = s.db.states.find? userId :=
        congrArg Ledger.state (h.others s.db (agrees_of_interferes hs) userId hheld)
      exact hview.trans hstate

/-- The same database, and more of the run recorded. -/
theorem record (h : Carries i K taken P) (hdb : s.db = P.shared.db) (htrace : P.shared.trace <+: s.trace) :
    Carries i K taken (P.withShared s) := by
  have hview : (P.withShared s).view = P.view := congrArg P.pending hdb
  have hagrees (db : OutboxDb) (hdb' : Agrees (P.withShared s) db) : Agrees P db := by
    intro r hr
    have hsame := hdb' r hr
    rwa [show (P.withShared s).shared.db = P.shared.db from hdb] at hsame
  refine ⟨fun db hdb' userId hheld => ?_, fun db hdb' => h.others db (hagrees db hdb'), h.event, h.unlocked,
    fun userId hheld => ?_, fun event hevent => ?_, fun hdelivers userId state hstate honly => ?_⟩
  · rw [hview]
    exact h.own db (hagrees db hdb') userId hheld
  · rw [hview]
    exact h.holds userId hheld
  · obtain ⟨hheld, hrow⟩ := h.taken event hevent
    refine ⟨hheld, ?_⟩
    rw [hview]
    exact hrow
  · rw [hview]
    have hstate : s.db.states.find? userId = some state := hstate
    rw [hdb] at hstate
    exact h.leaves hdelivers userId state hstate (OnlyOlder.mono htrace honly)

/-- More rows are locked. -/
theorem hold (h : Carries i K taken P) (more : Row → Prop)
    (hnew : ∀ userId, more (.state userId) → ¬ P.held (.state userId) → K userId (P.view.ledger userId)) :
    Carries i K taken { P with held := fun r => more r ∨ P.held r } where
  own db hdb userId hstate := by
    have hdb' : Agrees P db := fun r hr => hdb r (Or.inr hr)
    by_cases hold : P.held (.state userId)
    · exact h.own db hdb' userId hold
    · have hsame : P.shared.db.ledger userId = db.ledger userId := hdb (.state userId) hstate
      have hview : P.view.ledger userId = P.shared.db.ledger userId :=
        h.others P.shared.db (fun r _ => (outboxDiscipline σ).same_refl r _) userId hold
      exact (h.others db hdb' userId hold).trans (hsame.symm.trans hview.symm)
  others db hdb userId hstate :=
    h.others db (fun r hr => hdb r (Or.inr hr)) userId fun hold => hstate (Or.inr hold)
  event := h.event
  unlocked db id hid := h.unlocked db id fun hold => hid (Or.inr hold)
  holds userId hstate := by
    by_cases hold : P.held (.state userId)
    · exact h.holds userId hold
    · exact hnew userId (hstate.resolve_right hold) hold
  taken event hevent := by
    obtain ⟨hevent', hrow⟩ := h.taken event hevent
    exact ⟨Or.inr hevent', hrow⟩
  leaves := h.leaves

/-- A write to the ledger of one user that is locked, together with the events that are written. -/
theorem write (h : Carries i (AllBut K userId l) taken P) (hf : Writes userId ids f)
    (hheld : P.held (.state userId)) (hids : ∀ id, ids id → P.held (.event id))
    (howned : ∀ id row, ids id → P.view.events.find? id = some row → row.userId = userId)
    (hl : ∀ db, db.ledger userId = l → (∀ id, ids id → db.events.find? id = P.view.events.find? id) →
      (f db).ledger userId = l')
    (hleaves : (σ.call i).Delivers → ∀ other state, P.shared.db.states.find? other = some state →
      OnlyOlder i P.shared.trace other state → P.view.states.find? other = some state →
      (f P.view).states.find? other = some state) :
    Carries i (AllBut K userId l') taken { P with pending := f ∘ P.pending } := by
  have hevents (db : OutboxDb) (hdb : Agrees P db) (id : UUID) (hid : ids id) :
      (P.pending db).events.find? id = P.view.events.find? id :=
    h.event _ _ id (hdb (.event id) (hids id hid)).symm
  have hothers (db : OutboxDb) (hdb : Agrees P db) (other : UUID) (hne : other ≠ userId) :
      (f (P.pending db)).ledger other = (P.pending db).ledger other :=
    hf.others _ other hne fun id row hid hrow => howned id row hid ((hevents db hdb id hid).symm.trans hrow)
  have hself (db : OutboxDb) (hdb : Agrees P db) : (f (P.pending db)).ledger userId = l' := by
    refine hl _ ?_ (hevents db hdb)
    rw [h.own db hdb userId hheld]
    exact allBut_self.mp (h.holds userId hheld)
  have hrefl : Agrees P P.shared.db := fun r _ => (outboxDiscipline σ).same_refl r _
  refine ⟨fun db hdb other hother => ?_, fun db hdb other hother => ?_, fun db db' id hsame => ?_,
    fun db id hid => ?_, fun other hother => ?_, fun event hevent => ?_,
    fun hdelivers other state hstate honly => ?_⟩
  · by_cases hne : other = userId
    · subst hne
      exact (hself db hdb).trans (hself P.shared.db hrefl).symm
    · exact (hothers db hdb other hne).trans ((h.own db hdb other hother).trans
        (hothers P.shared.db hrefl other hne).symm)
  · have hne : other ≠ userId := fun heq => hother (heq ▸ hheld)
    exact (hothers db hdb other hne).trans (h.others db hdb other hother)
  · exact hf.event _ _ id (h.event _ _ id hsame)
  · exact (hf.unlocked _ id fun hid' => hid (hids id hid')).trans (h.unlocked db id hid)
  · by_cases hne : other = userId
    · subst hne
      exact allBut_self.mpr (hself P.shared.db hrefl)
    · rw [allBut_of_ne hne]
      have hledger : (f P.view).ledger other = P.view.ledger other := hothers P.shared.db hrefl other hne
      change K other ((f P.view).ledger other)
      rw [hledger]
      exact (allBut_of_ne hne).mp (h.holds other hother)
  · obtain ⟨hlocked, row, hrow, habout⟩ := h.taken event hevent
    obtain ⟨row', hrow', habout'⟩ := hf.about _ event.id row hrow
    exact ⟨hlocked, row', hrow', habout'.trans habout⟩
  · exact hleaves hdelivers other state hstate honly (h.leaves hdelivers other state hstate honly)

/-! ## One ledger and the others -/

theorem mono (h : Carries i K taken P)
    (hK : ∀ userId, P.held (.state userId) → K userId (P.view.ledger userId) → K' userId (P.view.ledger userId)) :
    Carries i K' taken P :=
  { h with holds := fun userId hheld => hK userId hheld (h.holds userId hheld) }

/-- The ledger of a user is known. -/
theorem narrow (h : Carries i K taken P) (userId : UUID) :
    Carries i (AllBut K userId (P.view.ledger userId)) taken P := by
  refine h.mono fun other _ hK => ?_
  by_cases hne : other = userId
  · subst hne
    exact allBut_self.mpr rfl
  · exact (allBut_of_ne hne).mpr hK

/-- The ledger of a user is as it has to be. -/
theorem widen (h : Carries i (AllBut K userId l) taken P) (hl : K userId l) : Carries i K taken P := by
  refine h.mono fun other _ hK => ?_
  by_cases hne : other = userId
  · subst hne
    rw [allBut_self.mp hK]
    exact hl
  · exact (allBut_of_ne hne).mp hK

theorem view_eq (h : Carries i (AllBut K userId l) taken P) (hheld : P.held (.state userId)) :
    P.view.ledger userId = l := allBut_self.mp (h.holds userId hheld)

/-- Everything the process sees is faithful if what it has locked is. -/
theorem faithful (h : Carries i K taken P) (hinv : (outboxDiscipline σ).inv P.shared)
    (hK : ∀ userId l, K userId l → l.Faithful) (userId : UUID) : (P.view.ledger userId).Faithful := by
  by_cases hheld : P.held (.state userId)
  · exact hK userId _ (h.holds userId hheld)
  · have hview : P.view.ledger userId = P.shared.db.ledger userId :=
      h.others P.shared.db (fun r _ => (outboxDiscipline σ).same_refl r _) userId hheld
    rw [hview]
    exact hinv userId

end Carries

/-! ## Ends -/

/-- A process that carries faithful ledgers may end. -/
theorem Carries.ends (h : Carries i Everywhere taken P) (r : Except Err Unit) :
    (outboxDiscipline σ).Ends i r P := by
  intro s hs
  have hs' := h.interfere hs
  cases r with
  | error e =>
    exact ⟨hs.inv, ⟨List.prefix_rfl, .refl _ _⟩, fun r _ => (outboxDiscipline σ).same_refl r _⟩
  | ok a =>
    have hrefl : Agrees (P.withShared s) s.db := fun r _ => (outboxDiscipline σ).same_refl r _
    refine ⟨fun userId => hs'.faithful hs.inv (fun _ _ hl => hl) userId, ⟨List.prefix_rfl, hs'.leaves⟩,
      fun r hr => ?_⟩
    cases r with
    | state userId => exact (hs'.others s.db hrefl userId hr).symm
    | event id => exact (hs'.unlocked s.db id hr).symm
    | eventId => trivial
    | version => trivial

/-- A process is verified if it carries faithful ledgers wherever it returns. -/
theorem verified_of_carries {p : Action Unit} {s : Shared σ.machine}
    (h : (outboxDiscipline σ).wpOk i p (fun _ => Carries i Everywhere []) (Point.start s)) :
    (outboxDiscipline σ).Verified i p s := by
  refine wp_mono (wpOk_iff.mp h) fun r P' hr => ?_
  cases r with
  | ok a => exact (hr a rfl).ends (.ok a)
  | error e =>
    intro s' hs'
    exact ⟨hs'.inv, ⟨List.prefix_rfl, .refl _ _⟩, fun r _ => (outboxDiscipline σ).same_refl r _⟩

end DiddiGo.Projections
