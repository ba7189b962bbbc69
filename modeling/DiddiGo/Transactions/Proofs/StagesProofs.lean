import DiddiGo.Transactions.Proofs.RelyGuaranteeProofs
import DiddiGo.Transactions.Stages
import Mathlib.Data.List.Induction

/-!
# Staying in a stage

One rule for each statement, and what the failure of a tentative program means for the database.
-/

namespace DiddiGo.Transactions

open Prog RelyGuarantee

variable {S : Signature} {M : Machine S} {α β : Type}

namespace RelyGuarantee

variable {R : RelyGuarantee M} {i : M.Proc} {harmless : (S.State → S.State) → Prop}
  {J : Point M → Prop}

namespace Stays

theorem ret (a : α) : R.Stays i J (.ret a : Prog S α) := fun _ hP => wpOk_ret hP

theorem raise (e : S.Err) : R.Stays i J (.raise e : Prog S α) := fun _ _ => wpOk_raise

theorem bind {p : Prog S α} {f : α → Prog S β} (hp : R.Stays i J p) (hf : ∀ a, R.Stays i J (f a)) :
    R.Stays i J (p >>= f) := fun P hP => wpOk_bind (hp P hP) fun a P' hP' => hf a P' hP'

theorem raiseIf (c : Prop) [Decidable c] (e : S.Err) : R.Stays i J (.raiseIf c e : Prog S Unit) :=
  fun _ hP => wpOk_raiseIf fun _ => hP

/-- A handler that stays in the stage. -/
theorem tryCatch {p : Prog S α} {g : S.Err → Prog S α} (hp : R.Stays i J p)
    (hg : ∀ e P, R.wpOk i (g e) (fun _ => J) P) : R.Stays i J (Prog.tryCatch p g) :=
  fun P hP => wpOk_tryCatch (hp P hP) hg

variable (hJ : R.Stage i harmless J)

include hJ

theorem select (f : S.State → α) : R.Stays i J (.select f) :=
  fun _ hP => wpOk_select fun _ hs => hJ.interfere hP hs

theorem selectForUpdate (r : S.Row) (f : S.State → Option α) : R.Stays i J (.selectForUpdate r f) :=
  fun _ hP => wpOk_selectForUpdate fun _ hs => hJ.hold (hJ.interfere hP hs) fun _ h => Or.inr h

theorem update {rs : List S.Row} {f : S.State → S.State} (hf : harmless f) :
    R.Stays i J (.update rs f) :=
  fun _ hP => wpOk_update fun _ hs => hJ.write (hJ.hold (hJ.interfere hP hs) fun _ h => Or.inr h) hf

theorem insertOnce {r : S.Row} {taken : S.State → Bool} {f : S.State → S.State} (hf : harmless f) :
    R.Stays i J (.insertOnce r taken f) :=
  fun _ hP => wpOk_insertOnce (fun _ hs _ => hJ.interfere hP hs) fun _ hs _ =>
    hJ.write (hJ.hold (hJ.interfere hP hs) fun _ h => Or.inr h) hf

theorem writeOrRaise {rs : List S.Row} {taken : S.State → Bool} {f : S.State → S.State} {e : S.Err}
    (hf : harmless f) : R.Stays i J (.writeOrRaise rs taken f e) :=
  fun _ hP => wpOk_writeOrRaise fun _ hs _ =>
    hJ.write (hJ.hold (hJ.interfere hP hs) fun _ h => Or.inr h) hf

/-- Any statement without a name. -/
theorem stmt {locks : S.State → List S.Row} {write : S.State → S.State → S.State} {next : S.State → Prog S α}
    (hwrite : ∀ v, harmless (write v)) (hnext : ∀ v, R.Stays i J (next v)) :
    R.Stays i J (.stmt none locks write next) := by
  intro P hP
  refine wpOk_iff.mpr fun s hs => ⟨fun _ h => (nomatch h), wpOk_iff.mp (hnext _ _ ?_)⟩
  exact hJ.write (hJ.hold (hJ.interfere hP hs) fun _ => Or.inr) (hwrite _)

end Stays

namespace Yields

variable {Q : α → Prop} {I : β → Prop}

theorem ret {a : α} (h : Q a) : R.Yields i J Q (.ret a : Prog S α) := fun _ hP => wpOk_ret ⟨h, hP⟩

theorem raise (e : S.Err) : R.Yields i J Q (.raise e : Prog S α) := fun _ _ => wpOk_raise

theorem bind {p : Prog S β} {f : β → Prog S α} (hp : R.Yields i J I p)
    (hf : ∀ b, I b → R.Yields i J Q (f b)) : R.Yields i J Q (p >>= f) :=
  fun P hP => wpOk_bind (hp P hP) fun b P' hb => hf b hb.1 P' hb.2

/-- What follows need not return anything in particular. -/
theorem bind_stays {p : Prog S β} {f : β → Prog S α} (hp : R.Yields i J I p)
    (hf : ∀ b, I b → R.Stays i J (f b)) : R.Stays i J (p >>= f) :=
  fun P hP => wpOk_bind (hp P hP) fun b P' hb => hf b hb.1 P' hb.2

theorem stays {p : Prog S α} (h : R.Yields i J Q p) : R.Stays i J p :=
  fun P hP => wpOk_mono (h P hP) fun _ _ hQ => hQ.2

theorem after {p : Prog S β} {f : β → Prog S α} (hp : R.Stays i J p) (hf : ∀ b, R.Yields i J Q (f b)) :
    R.Yields i J Q (p >>= f) := fun P hP => wpOk_bind (hp P hP) fun b P' hP' => hf b P' hP'

/-- A handler that does not return. -/
theorem tryCatch {p : Prog S α} {g : S.Err → Prog S α} (hp : R.Yields i J Q p)
    (hg : ∀ e P, R.wpOk i (g e) (fun a P' => Q a ∧ J P') P) : R.Yields i J Q (Prog.tryCatch p g) :=
  fun P hP => wpOk_tryCatch (hp P hP) hg

end Yields

end RelyGuarantee

/-! ## Tentative programs -/

namespace Prog

namespace Silent

theorem ret (a : α) : Silent (.ret a : Prog S α) := trivial

theorem raise (e : S.Err) : Silent (.raise e : Prog S α) := trivial

theorem bind {p : Prog S α} {f : α → Prog S β} (hp : Silent p) (hf : ∀ a, Silent (f a)) :
    Silent (p >>= f) := by
  change Silent (p.bind f)
  induction p with
  | ret a => exact hf a
  | raise e => exact trivial
  | stmt l lk w k ih => exact fun v => ih v (hp v)
  | commit k ih => exact hp.elim
  | call q k ih => exact hp.elim

theorem select (f : S.State → α) : Silent (Prog.select f) := fun _ => trivial

theorem selectAs (l : S.Label) (f : S.State → α) : Silent (Prog.selectAs l f) := fun _ => trivial

theorem selectForUpdate (r : S.Row) (f : S.State → Option α) : Silent (Prog.selectForUpdate r f) :=
  fun _ => trivial

theorem update (rs : List S.Row) (f : S.State → S.State) : Silent (Prog.update rs f) :=
  fun _ => trivial

theorem insertOnce (r : S.Row) (taken : S.State → Bool) (f : S.State → S.State) :
    Silent (Prog.insertOnce r taken f) := fun _ => trivial

theorem writeOrRaise (rs : List S.Row) (taken : S.State → Bool) (f : S.State → S.State) (e : S.Err) :
    Silent (Prog.writeOrRaise rs taken f e) := by
  intro v
  dsimp only
  split_ifs <;> trivial

theorem writeOrRaiseAs (l : S.Label) (rs : List S.Row) (taken : S.State → Bool) (f : S.State → S.State)
    (e : S.Err) : Silent (Prog.writeOrRaiseAs l rs taken f e) := by
  intro v
  dsimp only
  split_ifs <;> trivial

theorem raiseIf (c : Prop) [Decidable c] (e : S.Err) : Silent (Prog.raiseIf c e) := by
  unfold Prog.raiseIf
  split_ifs <;> trivial

/-- A handler that only raises another exception. -/
theorem tryCatch {p : Prog S α} {g : S.Err → Prog S α} (hp : Silent p) (hg : ∀ e, Silent (g e)) :
    Silent (Prog.tryCatch p g) := by
  induction p with
  | ret a => exact trivial
  | raise e => exact hg e
  | stmt l lk w k ih => exact fun v => ih v (hp v)
  | commit k ih => exact hp.elim
  | call q k ih => exact hp.elim

theorem tentative {p : Prog S α} (hp : Silent p) : Tentative p := by
  induction p with
  | ret a => exact trivial
  | raise e => exact trivial
  | stmt l lk w k ih => exact fun v => ih v (hp v)
  | commit k ih => exact hp.elim
  | call q k ih => exact hp.elim

/-- What comes after a silent program may be tentative. -/
theorem bind_tentative {p : Prog S α} {f : α → Prog S β} (hp : Silent p)
    (hf : ∀ a, Tentative (f a)) : Tentative (p >>= f) := by
  change Tentative (p.bind f)
  induction p with
  | ret a => exact hf a
  | raise e => exact trivial
  | stmt l lk w k ih => exact fun v => ih v (hp v)
  | commit k ih => exact hp.elim
  | call q k ih => exact hp.elim

end Silent

theorem Tentative.commit_ask (q : S.Query) (k : S.Answer → Prog S α) :
    Tentative (Prog.commitNow >>= fun _ => Prog.ask q >>= k) := ⟨q, _, rfl⟩

/-- The result may be thrown away. -/
theorem Tentative.ignore {p : Prog S α} (hp : Tentative p) : Tentative (Prog.ignore p) := by
  change Tentative (p.bind _)
  induction p with
  | ret a => exact trivial
  | raise e => exact trivial
  | stmt l lk w k ih => exact fun v => ih v (hp v)
  | commit k ih =>
    obtain ⟨q, k', rfl⟩ := hp
    exact ⟨q, _, rfl⟩
  | call q k ih => exact trivial

end Prog

section

variable [DecidableEq M.Proc] [DecidableEq S.Row] {i : M.Proc} {c c' c'' : Config M}
  {ms : List (Move M)} {m : Move M}

theorem run_append_eq {ms' : List (Move M)} :
    c.run (ms ++ ms') = (c.run ms).bind fun c' => c'.run ms' := by
  induction ms generalizing c with
  | nil => rfl
  | cons m ms ih =>
    change (c.step m).bind (fun c' => c'.run (ms ++ ms')) = ((c.step m).bind fun c' => c'.run ms).bind _
    rw [Option.bind_assoc]
    exact Option.bind_congr fun c' _ => ih

theorem run_snoc : c.run (ms ++ [m]) = (c.run ms).bind fun c' => c'.step m := by
  rw [run_append_eq]
  exact Option.bind_congr fun c' _ => Option.bind_fun_some (c'.step m)

theorem LeavesAlone.nil : LeavesAlone i c [] := by
  intro before m later c₁ c₂ hms
  exact absurd hms.symm (List.append_ne_nil_of_right_ne_nil _ (List.cons_ne_nil _ _))

theorem LeavesAlone.snoc (h : LeavesAlone i c ms) (hrun : c.run ms = some c')
    (hm : ∀ c'', c'.step m = some c'' → mover m = i → c''.shared.db = c'.shared.db) :
    LeavesAlone i c (ms ++ [m]) := by
  intro before m' later c₁ c₂ hms hbefore hstep hproc
  rcases later.eq_nil_or_concat with rfl | ⟨later, x, hlater⟩
  · obtain ⟨rfl, hm'⟩ := List.append_inj' hms rfl
    obtain rfl := List.singleton_inj.mp hm'
    obtain rfl := Option.some.inj (hrun.symm.trans hbefore)
    exact hm c₂ hstep hproc
  · rw [hlater, List.concat_eq_append, ← List.cons_append, ← List.append_assoc] at hms
    obtain ⟨hms, -⟩ := List.append_inj' hms rfl
    exact h before m' later c₁ c₂ hms hbefore hstep hproc

/-- The record of a run only grows. -/
theorem mem_trace_step {e : Event M} (hstep : c.step m = some c') (he : e ∈ c.shared.trace) :
    e ∈ c'.shared.trace := by
  rcases step_cases hstep with ⟨j, l, locks, write, next, pending, rfl, -, -, rfl⟩ |
    ⟨j, next, pending, rfl, -, rfl⟩ | ⟨j, a, pending, rfl, -, rfl⟩ | ⟨j, e', pending, rfl, -, rfl⟩ |
    ⟨j, q, next, pending, rfl, -, rfl⟩ | ⟨j, a, q, next, pending, w, rfl, -, -, rfl⟩
  · cases l with
    | none => exact he
    | some l => exact List.mem_append_left _ he
  · exact he
  · exact he
  · exact he
  · exact List.mem_append_left _ he
  · exact List.mem_append_left _ he

/-- A move of another process leaves the program and the result of process `i` as they are. -/
theorem step_other (hstep : c.step m = some c') (hm : mover m ≠ i) :
    c'.task i = c.task i ∧ ∀ r, (i, r) ∈ c'.shared.log → (i, r) ∈ c.shared.log := by
  rcases step_cases hstep with ⟨j, l, locks, write, next, pending, rfl, -, -, rfl⟩ |
    ⟨j, next, pending, rfl, -, rfl⟩ | ⟨j, a, pending, rfl, -, rfl⟩ | ⟨j, e, pending, rfl, -, rfl⟩ |
    ⟨j, q, next, pending, rfl, -, rfl⟩ | ⟨j, a, q, next, pending, w, rfl, -, -, rfl⟩
  all_goals have hij : i ≠ j := fun h => hm h.symm
  · refine ⟨Function.update_of_ne hij _ _, fun r hr => ?_⟩
    cases l with
    | none => exact hr
    | some l => exact hr
  · exact ⟨Function.update_of_ne hij _ _, fun r hr => hr⟩
  · refine ⟨Function.update_of_ne hij _ _, fun r hr => ?_⟩
    rcases List.mem_append.mp hr with hr | hr
    · exact hr
    · exact absurd (Prod.mk.inj (List.mem_singleton.mp hr)).1 hij
  · refine ⟨Function.update_of_ne hij _ _, fun r hr => ?_⟩
    rcases List.mem_append.mp hr with hr | hr
    · exact hr
    · exact absurd (Prod.mk.inj (List.mem_singleton.mp hr)).1 hij
  · exact ⟨Function.update_of_ne hij _ _, fun r hr => hr⟩
  · exact ⟨Function.update_of_ne hij _ _, fun r hr => hr⟩

theorem Standing.other (h : Standing i c ms c') (hrun : c.run ms = some c')
    (hstep : c'.step m = some c'') (hm : mover m ≠ i) : Standing i c (ms ++ [m]) c'' := by
  obtain ⟨htask', hlog'⟩ := step_other hstep hm
  have halone' (halone : LeavesAlone i c ms) : LeavesAlone i c (ms ++ [m]) :=
    halone.snoc hrun fun _ _ hproc => absurd hproc hm
  cases h with
  | before p pending hp htask hlog halone =>
    exact .before p pending hp (htask'.trans htask) (fun r hr => hlog r (hlog' r hr)) (halone' halone)
  | asking q k pending htask hlog =>
    exact .asking q k pending (htask'.trans htask) fun r hr => hlog r (hlog' r hr)
  | asked q hsent => exact .asked q (mem_trace_step hstep hsent)
  | returned htask hlog => exact .returned (htask'.trans htask) fun e he => hlog e (hlog' _ he)
  | failed htask halone => exact .failed (htask'.trans htask) (halone' halone)

/-- A move of a process that has published nothing. -/
theorem Standing.own {p : Prog S M.Out} {pending : S.State → S.State} (hp : p.Tentative)
    (htask : c'.task (mover m) = .running p pending) (hlog : ∀ r, (mover m, r) ∉ c'.shared.log)
    (halone : LeavesAlone (mover m) c ms) (hrun : c.run ms = some c') (hstep : c'.step m = some c'') :
    Standing (mover m) c (ms ++ [m]) c'' := by
  have halone' (hdb : c''.shared.db = c'.shared.db) : LeavesAlone (mover m) c (ms ++ [m]) := by
    refine halone.snoc hrun fun c₂ hstep₂ _ => ?_
    obtain rfl := Option.some.inj (hstep.symm.trans hstep₂)
    exact hdb
  rcases step_cases hstep with ⟨j, l, locks, write, next, pending', rfl, ht, -, rfl⟩ |
    ⟨j, next, pending', rfl, ht, rfl⟩ | ⟨j, a, pending', rfl, ht, rfl⟩ |
    ⟨j, e, pending', rfl, ht, rfl⟩ | ⟨j, q, next, pending', rfl, ht, rfl⟩ |
    ⟨j, a, q, next, pending', w, rfl, ht, -, rfl⟩
  · obtain ⟨rfl, rfl⟩ := Task.running.inj (htask.symm.trans ht)
    refine .before (next (pending c'.shared.db)) _ (hp _) (Function.update_self _ _ _) ?_ (halone' ?_)
    · cases l with
      | none => exact hlog
      | some l => exact hlog
    · cases l with
      | none => rfl
      | some l => rfl
  · obtain ⟨rfl, rfl⟩ := Task.running.inj (htask.symm.trans ht)
    obtain ⟨q, k, rfl⟩ := hp
    exact .asking q k _ (Function.update_self _ _ _) hlog
  · refine .returned (Function.update_self _ _ _) fun e he => ?_
    rcases List.mem_append.mp he with he | he
    · exact hlog _ he
    · cases List.mem_singleton.mp he
  · exact .failed (Function.update_self _ _ _) (halone' rfl)
  · exact .asked q (List.mem_append_right _ List.mem_cons_self)
  · cases htask.symm.trans ht

theorem Standing.step (h : Standing i c ms c') (hrun : c.run ms = some c')
    (hstep : c'.step m = some c'') : Standing i c (ms ++ [m]) c'' := by
  by_cases hm : mover m = i
  · subst hm
    have hended (ht : c'.task (mover m) = .ended) : False := by
      rcases step_cases hstep with ⟨j, l, locks, write, next, pending', rfl, ht', -⟩ |
        ⟨j, next, pending', rfl, ht', -⟩ | ⟨j, a, pending', rfl, ht', -⟩ |
        ⟨j, e, pending', rfl, ht', -⟩ | ⟨j, q, next, pending', rfl, ht', -⟩ |
        ⟨j, a, q, next, pending', w, rfl, ht', -⟩
      all_goals cases ht.symm.trans ht'
    cases h with
    | before p pending hp htask hlog halone => exact .own hp htask hlog halone hrun hstep
    | asking q k pending htask hlog =>
      rcases step_cases hstep with ⟨j, l, locks, write, next, pending', rfl, ht, -, rfl⟩ |
        ⟨j, next, pending', rfl, ht, rfl⟩ | ⟨j, a, pending', rfl, ht, rfl⟩ |
        ⟨j, e, pending', rfl, ht, rfl⟩ | ⟨j, q', next, pending', rfl, ht, rfl⟩ |
        ⟨j, a, q', next, pending', w, rfl, ht, -, rfl⟩
      · cases htask.symm.trans ht
      · cases htask.symm.trans ht
      · cases htask.symm.trans ht
      · cases htask.symm.trans ht
      · exact .asked q' (List.mem_append_right _ List.mem_cons_self)
      · cases htask.symm.trans ht
    | asked q hsent => exact .asked q (mem_trace_step hstep hsent)
    | returned htask hlog => exact (hended htask).elim
    | failed htask halone => exact (hended htask).elim
  · exact h.other hrun hstep hm

theorem Standing.run {p : Prog S M.Out} (hp : p.Tentative) (htask : c.task i = .running p id)
    (hlog : c.shared.log = []) (hrun : c.run ms = some c') : Standing i c ms c' := by
  induction ms using List.reverseRecOn generalizing c' with
  | nil =>
    obtain rfl := Option.some.inj hrun
    exact .before p id hp htask (by rw [hlog]; exact fun r => List.not_mem_nil) .nil
  | append_singleton ms m ih =>
    rw [run_snoc] at hrun
    obtain ⟨c₁, h₁, h₂⟩ := Option.bind_eq_some_iff.mp hrun
    exact (ih h₁).step h₁ h₂

/-- A tentative program that has failed without asking has left the database alone. -/
theorem leavesAlone_of_error {p : Prog S M.Out} (hp : p.Tentative) (htask : c.task i = .running p id)
    (hlog : c.shared.log = []) (hrun : c.run ms = some c') {e : S.Err}
    (herror : (i, Except.error e) ∈ c'.shared.log) (hsent : ∀ q, Event.sent i q ∉ c'.shared.trace) :
    LeavesAlone i c ms := by
  cases Standing.run hp htask hlog hrun with
  | before _ _ _ _ _ halone => exact halone
  | asking _ _ _ _ hnone => exact absurd herror (hnone _)
  | asked q h => exact absurd h (hsent q)
  | returned _ hnone => exact absurd herror (hnone e)
  | failed _ halone => exact halone

/-! ## Quiet programs -/

section

variable {K : S.State → Prop} {Q : α → Prop}

omit [DecidableEq M.Proc] [DecidableEq S.Row]

theorem Quiet.ret {a : α} (h : Q a) : (.ret a : Prog S α).Quiet K Q := h

theorem Quiet.bind {p : Prog S β} {f : β → Prog S α} {I : β → Prop} (hp : p.Quiet K I)
    (hf : ∀ b, I b → (f b).Quiet K Q) : (p >>= f).Quiet K Q := by
  induction p with
  | ret b => exact hf b hp
  | raise e => exact hp.elim
  | stmt l locks write next ih => exact fun v hv => ⟨(hp v hv).1, ih v (hp v hv).2⟩
  | commit next ih => exact hp.elim
  | call q next ih => exact hp.elim

theorem Quiet.select {f : S.State → α} (h : ∀ s, K s → Q (f s)) : (Prog.select f).Quiet K Q :=
  fun s hs => ⟨fun _ => rfl, h s hs⟩

theorem Quiet.selectForUpdate {r : S.Row} {f : S.State → Option β} {Q : Option β → Prop}
    (h : ∀ s, K s → Q (f s)) : (Prog.selectForUpdate r f).Quiet K Q :=
  fun s hs => ⟨fun _ => rfl, h s hs⟩

theorem Quiet.raiseIf_bind {c : Prop} [Decidable c] {e : S.Err} {f : Unit → Prog S α} (hc : ¬ c)
    (h : (f ()).Quiet K Q) : (Prog.raiseIf c e >>= f).Quiet K Q := by
  rw [show (Prog.raiseIf c e : Prog S Unit) = .ret () from if_neg hc]
  exact h

end

theorem LeavesAlone.cons (hstep : c.step m = some c') (hm : mover m = i → c'.shared.db = c.shared.db)
    (h : LeavesAlone i c' ms) : LeavesAlone i c (m :: ms) := by
  intro before m' later c₁ c₂ hms hbefore hstep' hproc
  cases before with
  | nil =>
    obtain ⟨rfl, -⟩ := List.cons.inj hms
    obtain rfl := Option.some.inj hbefore
    obtain rfl := Option.some.inj (hstep.symm.trans hstep')
    exact hm hproc
  | cons m₀ before =>
    obtain ⟨rfl, hrest⟩ := List.cons.inj hms
    obtain ⟨c₀, h₀, hbefore⟩ := Option.bind_eq_some_iff.mp hbefore
    obtain rfl := Option.some.inj (hstep.symm.trans h₀)
    exact h before m' later c₁ c₂ hrest hbefore hstep' hproc

/-- A process that has not ended has no result. -/
theorem unlogged_step (h : ∀ i, c.task i ≠ .ended → ∀ r, (i, r) ∉ c.shared.log) (hstep : c.step m = some c')
    (i : M.Proc) (hi : c'.task i ≠ .ended) (r : Except S.Err M.Out) : (i, r) ∉ c'.shared.log := by
  by_cases hm : mover m = i
  · rcases step_cases hstep with ⟨j, l, locks, write, next, pending, rfl, ht, -, rfl⟩ |
      ⟨j, next, pending, rfl, ht, rfl⟩ | ⟨j, a, pending, rfl, ht, rfl⟩ | ⟨j, e, pending, rfl, ht, rfl⟩ |
      ⟨j, q, next, pending, rfl, ht, rfl⟩ | ⟨j, a, q, next, pending, w, rfl, ht, -, rfl⟩
    all_goals
      obtain rfl : j = i := hm
      have hlog := h j (by rw [ht]; exact nofun) r
    · cases l with
      | none => exact hlog
      | some l => exact hlog
    · exact hlog
    · exact absurd (Function.update_self ..) hi
    · exact absurd (Function.update_self ..) hi
    · exact hlog
    · exact hlog
  · obtain ⟨htask, hlog⟩ := step_other hstep hm
    exact fun hr => h i (htask ▸ hi) r (hlog r hr)

theorem unlogged_run (h : ∀ i, c.task i ≠ .ended → ∀ r, (i, r) ∉ c.shared.log) (hrun : c.run ms = some c') :
    ∀ i, c'.task i ≠ .ended → ∀ r, (i, r) ∉ c'.shared.log := by
  induction ms generalizing c with
  | nil =>
    obtain rfl := Option.some.inj hrun
    exact h
  | cons m ms ih =>
    obtain ⟨c₁, h₁, h₂⟩ := Option.bind_eq_some_iff.mp hrun
    exact ih (unlogged_step h h₁) h₂

variable {K : S.State → Prop}

/-- A quiet process publishes nothing. -/
theorem Calm.step (h : Calm K i c) (hK : K c.shared.db) (hstep : c.step m = some c') :
    Calm K i c' ∧ (mover m = i → c'.shared.db = c.shared.db) := by
  by_cases hm : mover m = i
  · cases h with
    | ended htask hlog =>
      rcases step_cases hstep with ⟨j, l, locks, write, next, pending, rfl, ht, -, rfl⟩ |
        ⟨j, next, pending, rfl, ht, rfl⟩ | ⟨j, a, pending, rfl, ht, rfl⟩ | ⟨j, e, pending, rfl, ht, rfl⟩ |
        ⟨j, q, next, pending, rfl, ht, rfl⟩ | ⟨j, a, q, next, pending, w, rfl, ht, -, rfl⟩
      all_goals
        obtain rfl : j = i := hm
        cases htask.symm.trans ht
    | running p pending htask hp hpending hlog =>
      rcases step_cases hstep with ⟨j, l, locks, write, next, pending', rfl, ht, -, rfl⟩ |
        ⟨j, next, pending', rfl, ht, rfl⟩ | ⟨j, a, pending', rfl, ht, rfl⟩ | ⟨j, e, pending', rfl, ht, rfl⟩ |
        ⟨j, q, next, pending', rfl, ht, rfl⟩ | ⟨j, a, q, next, pending', w, rfl, ht, -, rfl⟩
      all_goals
        obtain rfl : j = i := hm
      · obtain ⟨rfl, rfl⟩ := Task.running.inj (htask.symm.trans ht)
        obtain ⟨hwrite, hnext⟩ := hp (pending c.shared.db) (by rw [hpending]; exact hK)
        have hshared : (c.shared.note j l (pending c.shared.db)).db = c.shared.db ∧
            ∀ r, (j, r) ∉ (c.shared.note j l (pending c.shared.db)).log := by
          cases l with
          | none => exact ⟨rfl, hlog⟩
          | some l => exact ⟨rfl, hlog⟩
        exact ⟨.running _ _ (Function.update_self ..) hnext (fun db => (hwrite _).trans (hpending db)) hshared.2,
          fun _ => hshared.1⟩
      · obtain ⟨rfl, rfl⟩ := Task.running.inj (htask.symm.trans ht)
        exact hp.elim
      · refine ⟨.ended (Function.update_self ..) fun e he => ?_, fun _ => ?_⟩
        · rcases List.mem_append.mp he with he | he
          · exact hlog _ he
          · cases List.mem_singleton.mp he
        · obtain ⟨-, rfl⟩ := Task.running.inj (htask.symm.trans ht)
          exact hpending _
      · obtain ⟨rfl, rfl⟩ := Task.running.inj (htask.symm.trans ht)
        exact hp.elim
      · obtain ⟨rfl, rfl⟩ := Task.running.inj (htask.symm.trans ht)
        exact hp.elim
      · cases htask.symm.trans ht
  · obtain ⟨htask', hlog'⟩ := step_other hstep hm
    refine ⟨?_, fun hmi => absurd hmi hm⟩
    cases h with
    | running p pending htask hp hpending hlog =>
      exact .running p pending (htask'.trans htask) hp hpending fun r hr => hlog r (hlog' r hr)
    | ended htask hlog => exact .ended (htask'.trans htask) fun e he => hlog e (hlog' _ he)

theorem Calm.run (h : Calm K i c) (hK : ∀ before later c₁, ms = before ++ later → c.run before = some c₁ →
    K c₁.shared.db) (hrun : c.run ms = some c') : Calm K i c' ∧ LeavesAlone i c ms := by
  induction ms generalizing c with
  | nil =>
    obtain rfl := Option.some.inj hrun
    exact ⟨h, .nil⟩
  | cons m ms ih =>
    obtain ⟨c₁, h₁, h₂⟩ := Option.bind_eq_some_iff.mp hrun
    obtain ⟨hcalm, hdb⟩ := h.step (hK [] (m :: ms) c rfl rfl) h₁
    obtain ⟨hcalm', halone⟩ := ih hcalm (fun before later c₂ hms hbefore =>
      hK (m :: before) later c₂ (by rw [hms]; rfl) (Option.bind_eq_some_iff.mpr ⟨c₁, h₁, hbefore⟩)) h₂
    exact ⟨hcalm', halone.cons h₁ hdb⟩

omit [DecidableEq M.Proc] [DecidableEq S.Row] in
theorem Calm.no_error (h : Calm K i c) (e : S.Err) : (i, Except.error e) ∉ c.shared.log := by
  cases h with
  | running p pending htask hp hpending hlog => exact hlog _
  | ended htask hlog => exact hlog e

end

end DiddiGo.Transactions
