import DiddiGo.Transactions.Guarding
import DiddiGo.Transactions.Proofs.StagesProofs

/-!
# Two processes do not ask at once

A lock has one owner, so of the processes that ask under it only one has asked and not ended.
-/

namespace DiddiGo.Transactions

open Prog RelyGuarantee

variable {S : Signature} {M : Machine S} {α β : Type}

theorem stmt_ne_answered {i j : M.Proc} {l : S.Label} {v : S.State} {q : S.Query} {a : S.Answer} :
    (.stmt j l v : Event M) ≠ .answered i q a := by
  intro h
  cases h

theorem sent_ne_answered {i j : M.Proc} {q q' : S.Query} {a : S.Answer} :
    (.sent j q' : Event M) ≠ .answered i q a := by
  intro h
  cases h

theorem stmt_ne_sent {i j : M.Proc} {l : S.Label} {v : S.State} {q : S.Query} :
    (.stmt j l v : Event M) ≠ .sent i q := by
  intro h
  cases h

theorem answered_ne_sent {i j : M.Proc} {q q' : S.Query} {a : S.Answer} :
    (.answered j q' a : Event M) ≠ .sent i q := by
  intro h
  cases h

/-! ## Programs whose failures matter -/

namespace RelyGuarantee

variable {R : RelyGuarantee M} {i : M.Proc} {F : Point M → Prop} {Q : α → Point M → Prop} {P : Point M}

theorem wpOr_ret {a : α} (h : Q a P) : R.wpOr i F (.ret a) Q P := h

theorem wpOr_raise {e : S.Err} (h : F P) : R.wpOr i F (.raise e) Q P := h

theorem wpOr_mono {p : Prog S α} {Q' : α → Point M → Prop} {F' : Point M → Prop} (h : R.wpOr i F p Q P)
    (hQ : ∀ a P', Q a P' → Q' a P') (hF : ∀ P', F P' → F' P') : R.wpOr i F' p Q' P :=
  wp_mono h fun r P' hr => match r with
    | .ok a => hQ a P' hr
    | .error _ => hF P' hr

theorem wpOr_bind {p : Prog S β} {f : β → Prog S α} {I : β → Point M → Prop} (h : R.wpOr i F p I P)
    (hf : ∀ b P', I b P' → R.wpOr i F (f b) Q P') : R.wpOr i F (p >>= f) Q P :=
  wp_bind (wp_mono h fun r P' hr => match r with
    | .ok b => hf b P' hr
    | .error _ => hr)

theorem wpOr_select {f : S.State → α} (h : ∀ s, R.Interferes i P s → Q (f (P.pending s.db)) (P.withShared s)) :
    R.wpOr i F (.select f) Q P := wp_select h

theorem wpOr_selectAs {l : S.Label} {f : S.State → α}
    (h : ∀ s, R.Interferes i P s → R.Permits i P.held s (s.note i (some l) (P.pending s.db)) ∧
      Q (f (P.pending s.db)) (P.withShared (s.note i (some l) (P.pending s.db)))) :
    R.wpOr i F (.selectAs l f) Q P := wp_selectAs h

theorem wpOr_writeOrRaise {rs : List S.Row} {taken : S.State → Bool} {ins : S.State → S.State} {e : S.Err}
    {Q : Unit → Point M → Prop} (h : ∀ s, R.Interferes i P s →
      (taken (P.pending s.db) = true → F (P.withShared s)) ∧
      (taken (P.pending s.db) = false →
        Q () { shared := s, held := fun r => r ∈ rs ∨ P.held r, pending := ins ∘ P.pending })) :
    R.wpOr i F (.writeOrRaise rs taken ins e) Q P := wp_writeOrRaise h

theorem wpOr_writeOrRaiseAs {l : S.Label} {rs : List S.Row} {taken : S.State → Bool}
    {ins : S.State → S.State} {e : S.Err} {Q : Unit → Point M → Prop} (h : ∀ s, R.Interferes i P s →
      R.Permits i P.held s (s.note i (some l) (P.pending s.db)) ∧
      (taken (P.pending s.db) = true → F (P.withShared (s.note i (some l) (P.pending s.db)))) ∧
      (taken (P.pending s.db) = false →
        Q () { shared := s.note i (some l) (P.pending s.db), held := fun r => r ∈ rs ∨ P.held r
               pending := ins ∘ P.pending })) :
    R.wpOr i F (.writeOrRaiseAs l rs taken ins e) Q P := by
  intro s hs
  obtain ⟨hnote, ht, hf⟩ := h s hs
  refine ⟨fun _ _ => hnote, ?_⟩
  by_cases hk : taken (P.pending s.db)
  · simpa [Point.stmt, Point.withShared, Point.view, hk, Function.comp_def, wp] using ht hk
  · have hk' : taken (P.pending s.db) = false := eq_false_of_ne_true hk
    simpa [Point.stmt, Point.withShared, Point.view, hk', Function.comp_def, wp] using hf hk'

theorem wpOr_raiseIf_bind {c : Prop} [Decidable c] {e : S.Err} {f : Unit → Prog S α} (hF : F P)
    (h : ¬ c → R.wpOr i F (f ()) Q P) : R.wpOr i F (Prog.raiseIf c e >>= f) Q P := by
  unfold Prog.raiseIf
  split_ifs with hc
  · exact hF
  · exact h hc

theorem wpOr_update {rs : List S.Row} {patch : S.State → S.State} {Q : Unit → Point M → Prop}
    (h : ∀ s, R.Interferes i P s →
      Q () { shared := s, held := fun r => r ∈ rs ∨ P.held r, pending := patch ∘ P.pending }) :
    R.wpOr i F (.update rs patch) Q P := wp_update h

/-- A handler that goes on from where the program failed. -/
theorem wpOk_tryCatch_of_wpOr {p : Prog S α} {g : S.Err → Prog S α} (h : R.wpOr i F p Q P)
    (hg : ∀ e P', F P' → R.wpOk i (g e) Q P') : R.wpOk i (Prog.tryCatch p g) Q P := by
  refine wpOk_iff.mpr (wp_tryCatch (wp_mono h fun r P' hr => ?_))
  cases r with
  | ok a =>
    rintro _ ⟨⟩
    exact hr
  | error e => exact wpOk_iff.mp (hg e P' hr)

theorem wpOr_ask {q : S.Query} {Q : S.Answer → Point M → Prop}
    (h : ∀ s, R.Interferes i P s → R.Permits i P.held s (s.send i q) ∧
      R.Awaits i q Q (P.withShared (s.send i q))) : R.wpOr i F (.ask q) Q P := wp_ask h

namespace Remains

variable {J : Point M → Prop} {harmless : (S.State → S.State) → Prop}

theorem ret (a : α) : R.Remains i J (.ret a : Prog S α) := fun _ hP => wpOr_ret hP

theorem raise (e : S.Err) : R.Remains i J (.raise e : Prog S α) := fun _ hP => wpOr_raise hP

theorem bind {p : Prog S β} {f : β → Prog S α} (hp : R.Remains i J p) (hf : ∀ b, R.Remains i J (f b)) :
    R.Remains i J (p >>= f) := fun P hP => wpOr_bind (hp P hP) hf

theorem raiseIf (c : Prop) [Decidable c] (e : S.Err) : R.Remains i J (Prog.raiseIf c e : Prog S Unit) := by
  unfold Prog.raiseIf
  split_ifs
  · exact raise e
  · exact ret ()

theorem select (hJ : R.Stage i harmless J) (f : S.State → α) : R.Remains i J (.select f) :=
  fun _ hP => wpOr_select fun _ hs => hJ.interfere hP hs

end Remains

end RelyGuarantee

/-! ## Programs that ask under a lock -/

section

variable {r : S.Row} {about : S.Query → Prop} {held held' : Prop}

namespace Prog.AsksHolding

theorem mono {p : Prog S α} (h : p.AsksHolding r about held) (hheld : held → held') :
    p.AsksHolding r about held' := by
  induction p generalizing held held' with
  | ret a => trivial
  | raise e => trivial
  | stmt l locks write next ih => exact fun v => ih v (h v) (Or.imp_left hheld)
  | commit next ih => exact h
  | call q next ih => exact ⟨fun hq => hheld (h.1 hq), fun a => ih a (h.2 a) hheld⟩

theorem ret (a : α) : (.ret a : Prog S α).AsksHolding r about held := trivial

theorem raise (e : S.Err) : (.raise e : Prog S α).AsksHolding r about held := trivial

theorem bind {p : Prog S β} {f : β → Prog S α} (hp : p.AsksHolding r about held)
    (hf : ∀ b, (f b).AsksHolding r about held) : (p >>= f).AsksHolding r about held := by
  change (p.bind f).AsksHolding r about held
  induction p generalizing held with
  | ret b => exact hf b
  | raise e => trivial
  | stmt l locks write next ih => exact fun v => ih v (hp v) fun b => (hf b).mono Or.inl
  | commit next ih => exact hp.elim
  | call q next ih => exact ⟨hp.1, fun a => ih a (hp.2 a) hf⟩

theorem select (f : S.State → α) : (Prog.select f).AsksHolding r about held := fun _ => trivial

theorem selectAs (l : S.Label) (f : S.State → α) : (Prog.selectAs l f).AsksHolding r about held :=
  fun _ => trivial

theorem raiseIf (c : Prop) [Decidable c] (e : S.Err) :
    (Prog.raiseIf c e : Prog S Unit).AsksHolding r about held := by
  unfold Prog.raiseIf
  split_ifs
  · exact trivial
  · exact trivial

theorem writeOrRaise (rs : List S.Row) (taken : S.State → Bool) (ins : S.State → S.State) (e : S.Err) :
    (Prog.writeOrRaise rs taken ins e).AsksHolding r about held := by
  intro v
  dsimp only
  split_ifs
  · exact trivial
  · exact trivial

/-- After a write the program has the lock. -/
theorem selectAs_bind_bind {γ : Type} {l : S.Label} {g : S.State → β} {k : β → Prog S γ} {f : γ → Prog S α}
    (h : ∀ b held', (k b >>= f).AsksHolding r about held') :
    ((Prog.selectAs l g >>= k) >>= f).AsksHolding r about held := fun v => h (g v) _

theorem writeOrRaise_bind {rs : List S.Row} {taken : S.State → Bool} {ins : S.State → S.State} {e : S.Err}
    {f : Unit → Prog S α} (hr : r ∈ rs) (hf : (f ()).AsksHolding r about True) :
    (Prog.writeOrRaise rs taken ins e >>= f).AsksHolding r about held := by
  intro v
  dsimp only
  split_ifs with ht
  · exact trivial
  · exact hf.mono fun _ => Or.inr hr

theorem writeOrRaiseAs_bind {l : S.Label} {rs : List S.Row} {taken : S.State → Bool}
    {ins : S.State → S.State} {e : S.Err} {f : Unit → Prog S α} (hr : r ∈ rs)
    (hf : (f ()).AsksHolding r about True) :
    (Prog.writeOrRaiseAs l rs taken ins e >>= f).AsksHolding r about held := by
  intro v
  dsimp only
  split_ifs with ht
  · exact trivial
  · exact hf.mono fun _ => Or.inr hr

theorem ask {q : S.Query} (h : about q → held) : (Prog.ask q).AsksHolding r about held :=
  ⟨h, fun _ => trivial⟩

end Prog.AsksHolding

/-! ## Runs -/

variable [DecidableEq M.Proc] [DecidableEq S.Row] {c c' : Config M} {m : Move M} {ms : List (Move M)} {i : M.Proc}

theorem mem_log_step {e : M.Proc × Except S.Err M.Out} (hstep : c.step m = some c') (he : e ∈ c.shared.log) :
    e ∈ c'.shared.log := by
  rcases step_cases hstep with ⟨j, l, locks, write, next, pending, rfl, -, -, rfl⟩ |
    ⟨j, next, pending, rfl, -, rfl⟩ | ⟨j, a, pending, rfl, -, rfl⟩ | ⟨j, e', pending, rfl, -, rfl⟩ |
    ⟨j, q, next, pending, rfl, -, rfl⟩ | ⟨j, a, q, next, pending, w, rfl, -, -, rfl⟩
  · cases l with
    | none => exact he
    | some l => exact he
  · exact he
  · exact List.mem_append_left _ he
  · exact List.mem_append_left _ he
  · exact he
  · exact he

/-- A process that has ended has a result. -/
theorem logged_step (h : c.task i = .ended → ∃ r, (i, r) ∈ c.shared.log) (hstep : c.step m = some c')
    (hend : c'.task i = .ended) : ∃ r, (i, r) ∈ c'.shared.log := by
  by_cases hm : mover m = i
  · rcases step_cases hstep with ⟨j, l, locks, write, next, pending, rfl, -, -, rfl⟩ |
      ⟨j, next, pending, rfl, -, rfl⟩ | ⟨j, a, pending, rfl, -, rfl⟩ | ⟨j, e, pending, rfl, -, rfl⟩ |
      ⟨j, q, next, pending, rfl, -, rfl⟩ | ⟨j, a, q, next, pending, w, rfl, -, -, rfl⟩
    all_goals obtain rfl : j = i := hm
    · cases (Function.update_self ..).symm.trans hend
    · cases (Function.update_self ..).symm.trans hend
    · exact ⟨_, List.mem_append_right _ (List.mem_singleton.mpr rfl)⟩
    · exact ⟨_, List.mem_append_right _ (List.mem_singleton.mpr rfl)⟩
    · cases (Function.update_self ..).symm.trans hend
    · cases (Function.update_self ..).symm.trans hend
  · rw [(step_other hstep hm).1] at hend
    obtain ⟨r, hr⟩ := h hend
    exact ⟨r, mem_log_step hstep hr⟩

theorem logged_run (h : c.task i = .ended → ∃ r, (i, r) ∈ c.shared.log) (hrun : c.run ms = some c')
    (hend : c'.task i = .ended) : ∃ r, (i, r) ∈ c'.shared.log := by
  induction ms generalizing c with
  | nil =>
    obtain rfl := Option.some.inj hrun
    exact h hend
  | cons m ms ih =>
    obtain ⟨c₁, h₁, h₂⟩ := Option.bind_eq_some_iff.mp hrun
    exact ih (fun hend => logged_step h h₁ hend) h₂

omit [DecidableEq M.Proc] [DecidableEq S.Row] in
/-- An event that is no request of process `i` and no answer to it. -/
theorem Shared.Asked.before {s s' : Shared M} {event : Event M} (htrace : s'.trace = s.trace ++ [event])
    (hsent : ∀ q, about q → event ≠ .sent i q) (hanswered : ∀ q a, about q → event ≠ .answered i q a)
    (h : s'.Asked about i) : s.Asked about i := by
  obtain ⟨q, hq, hmem | ⟨a, hmem⟩⟩ := h <;> rw [htrace] at hmem <;>
    rcases List.mem_append.mp hmem with hmem | hmem
  · exact ⟨q, hq, Or.inl hmem⟩
  · exact absurd (List.mem_singleton.mp hmem).symm (hsent q hq)
  · exact ⟨q, hq, Or.inr ⟨a, hmem⟩⟩
  · exact absurd (List.mem_singleton.mp hmem).symm (hanswered q a hq)

omit [DecidableEq M.Proc] [DecidableEq S.Row] in
theorem asked_note {s : Shared M} {j : M.Proc} {l : Option S.Label} {v : S.State}
    (h : (s.note j l v).Asked about i) : s.Asked about i := by
  cases l with
  | none => exact h
  | some l => exact h.before rfl (fun _ _ => stmt_ne_sent) fun _ _ _ => stmt_ne_answered

/-- A move of another process asks nothing for process `i`. -/
theorem asked_other (hstep : c.step m = some c') (hm : mover m ≠ i) (h : c'.shared.Asked about i) :
    c.shared.Asked about i := by
  rcases step_cases hstep with ⟨j, l, locks, write, next, pending, rfl, -, -, rfl⟩ |
    ⟨j, next, pending, rfl, -, rfl⟩ | ⟨j, a, pending, rfl, -, rfl⟩ | ⟨j, e', pending, rfl, -, rfl⟩ |
    ⟨j, q', next, pending, rfl, -, rfl⟩ | ⟨j, a, q', next, pending, w, rfl, -, -, rfl⟩
  · exact asked_note h
  · exact h
  · exact h
  · exact h
  · exact h.before rfl (fun q _ he => hm (Event.sent.inj he).1) fun _ _ _ => sent_ne_answered
  · exact h.before rfl (fun _ _ => answered_ne_sent) fun q a _ he => hm (Event.answered.inj he).1

/-- The others do not take the lock away. -/
theorem owner_other (hstep : c.step m = some c') (hm : mover m ≠ i) :
    c'.owner r = some i ↔ c.owner r = some i := by
  rcases step_cases hstep with ⟨j, l, locks, write, next, pending, rfl, -, hfree, rfl⟩ |
    ⟨j, next, pending, rfl, -, rfl⟩ | ⟨j, a, pending, rfl, -, rfl⟩ | ⟨j, e', pending, rfl, -, rfl⟩ |
    ⟨j, q', next, pending, rfl, -, rfl⟩ | ⟨j, a, q', next, pending, w, rfl, -, -, rfl⟩
  all_goals have hij : i ≠ j := fun h => hm h.symm
  · exact lock_eq_some hfree hij
  · exact release_eq_some.trans (and_iff_left hij)
  · exact release_eq_some.trans (and_iff_left hij)
  · exact release_eq_some.trans (and_iff_left hij)
  · exact Iff.rfl
  · exact Iff.rfl

omit [DecidableEq S.Row] in
theorem updated {t t' : Task M} (h : Function.update c.task i t i = t') : t = t' :=
  (Function.update_self i t c.task).symm.trans h

theorem Config.Guarded.step (h : c.Guarded r about i) (hstep : c.step m = some c') : c'.Guarded r about i := by
  by_cases hm : mover m = i
  · rcases step_cases hstep with ⟨j, l, locks, write, next, pending, rfl, htask, -, rfl⟩ |
      ⟨j, next, pending, rfl, htask, rfl⟩ | ⟨j, a, pending, rfl, htask, rfl⟩ |
      ⟨j, e, pending, rfl, htask, rfl⟩ | ⟨j, q, next, pending, rfl, htask, rfl⟩ |
      ⟨j, a, q, next, pending, w, rfl, htask, -, rfl⟩
    all_goals obtain rfl : j = i := hm
    · have hheld : Config.lock c.owner j (locks (pending c.shared.db)) r = some j ↔
          r ∈ locks (pending c.shared.db) ∨ c.owner r = some j :=
        iff_of_eq (congrFun (held_lock c.owner (locks (pending c.shared.db))) r)
      refine ⟨fun p pending' hp => ?_, fun q next' pending' hq => ?_, fun hq _ => ?_⟩
      · obtain ⟨rfl, -⟩ := Task.running.inj (updated hp)
        exact (h.running _ _ htask (pending c.shared.db)).mono fun hr => hheld.mpr hr.symm
      · cases (Function.update_self ..).symm.trans hq
      · exact hheld.mpr (Or.inr (h.asked (asked_note hq) (by rw [htask]; exact nofun)))
    · exact (h.running _ _ htask).elim
    · refine ⟨fun p pending' hp => ?_, fun q next' pending' hq => ?_, fun _ hend => ?_⟩
      · cases (Function.update_self ..).symm.trans hp
      · cases (Function.update_self ..).symm.trans hq
      · exact absurd (Function.update_self ..) hend
    · refine ⟨fun p pending' hp => ?_, fun q next' pending' hq => ?_, fun _ hend => ?_⟩
      · cases (Function.update_self ..).symm.trans hp
      · cases (Function.update_self ..).symm.trans hq
      · exact absurd (Function.update_self ..) hend
    · obtain ⟨hq, hnext⟩ := h.running _ _ htask
      refine ⟨fun p pending' hp => ?_, fun q' next' pending' hq' => ?_, fun hasked _ => ?_⟩
      · cases (Function.update_self ..).symm.trans hp
      · obtain ⟨rfl, rfl, -⟩ := Task.waiting.inj (updated hq')
        exact ⟨hq, hnext⟩
      · by_cases habout : about q
        · exact hq habout
        · refine h.asked (hasked.before rfl (fun q' hq' he => ?_) fun _ _ _ => sent_ne_answered)
            (by rw [htask]; exact nofun)
          exact habout (by rwa [(Event.sent.inj he).2])
    · obtain ⟨hq, hnext⟩ := h.waiting _ _ _ htask
      refine ⟨fun p pending' hp => ?_, fun q' next' pending' hq' => ?_, fun hasked _ => ?_⟩
      · obtain ⟨rfl, -⟩ := Task.running.inj (updated hp)
        exact hnext a
      · cases (Function.update_self ..).symm.trans hq'
      · by_cases habout : about q
        · exact hq habout
        · refine h.asked (hasked.before rfl (fun _ _ => answered_ne_sent) fun q' a' hq' he => ?_)
            (by rw [htask]; exact nofun)
          exact habout (by rwa [(Event.answered.inj he).2.1])
  · obtain ⟨htask, -⟩ := step_other hstep hm
    have howner := owner_other (r := r) hstep hm
    refine ⟨fun p pending hp => ?_, fun q next pending hq => ?_, fun hasked hend => ?_⟩
    · exact (h.running p pending (htask.symm.trans hp)).mono howner.mpr
    · obtain ⟨habout, hnext⟩ := h.waiting q next pending (htask.symm.trans hq)
      exact ⟨fun hq => howner.mpr (habout hq), fun a => (hnext a).mono howner.mpr⟩
    · rw [htask] at hend
      exact howner.mpr (h.asked (asked_other hstep hm hasked) hend)

theorem Config.Guarded.run (h : c.Guarded r about i) (hrun : c.run ms = some c') : c'.Guarded r about i := by
  induction ms generalizing c with
  | nil =>
    obtain rfl := Option.some.inj hrun
    exact h
  | cons m ms ih =>
    obtain ⟨c₁, h₁, h₂⟩ := Option.bind_eq_some_iff.mp hrun
    exact ih (h.step h₁) h₂

omit [DecidableEq M.Proc] [DecidableEq S.Row] in
theorem Config.Guarded.initial {db : S.State} {w : M.World} {prog : M.Proc → Prog S M.Out}
    (h : (prog i).AsksHolding r about False) : (Config.initial db w prog).Guarded r about i where
  running := by
    intro p pending hp
    obtain ⟨rfl, -⟩ := Task.running.inj hp
    exact h.mono False.elim
  waiting _ _ _ hq := nomatch hq
  asked := by
    rintro ⟨_, _, hmem | ⟨_, hmem⟩⟩
    · cases hmem
    · cases hmem

omit [DecidableEq M.Proc] [DecidableEq S.Row] in
/-- Of two processes that have asked, one has ended. -/
theorem Config.Guarded.alone {j : M.Proc} (h : c.Guarded r about i) (h' : c.Guarded r about j)
    (hi : c.shared.Asked about i) (hiend : c.task i ≠ .ended) (hj : c.shared.Asked about j)
    (hjend : c.task j ≠ .ended) : i = j :=
  Option.some.inj ((h.asked hi hiend).symm.trans (h'.asked hj hjend))

end

end DiddiGo.Transactions
