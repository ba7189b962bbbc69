import DiddiGo.Transactions.Prog
import Mathlib.Tactic.SplitIfs

/-!
# Running a program alone

Rules for `exec`, one for each way to build a program. They are simp lemmas, so a straight-line
program evaluates by `simp`.
-/

namespace DiddiGo.Transactions.Prog

variable {S : Signature} {α β : Type} (ask : S.Query → S.Answer) (base cur : S.State)

@[simp] theorem pure_eq (a : α) : (pure a : Prog S α) = ret a := rfl

@[simp] theorem throw_eq (e : S.Err) : (throw e : Prog S α) = raise e := rfl

@[simp] theorem ret_bind (a : α) (f : α → Prog S β) : (ret a : Prog S α) >>= f = f a := rfl

@[simp] theorem raise_bind (e : S.Err) (f : α → Prog S β) :
    (raise e : Prog S α) >>= f = raise e := rfl

@[simp] theorem exec_ret (a : α) : (ret a : Prog S α).exec ask base cur = (.ok a, base, cur) := rfl

@[simp] theorem exec_raise (e : S.Err) :
    (raise e : Prog S α).exec ask base cur = (.error e, base, cur) := rfl

theorem exec_bind (p : Prog S α) (f : α → Prog S β) :
    (p >>= f).exec ask base cur =
      match p.exec ask base cur with
      | (.ok a, base', cur') => (f a).exec ask base' cur'
      | (.error e, base', cur') => (.error e, base', cur') := by
  change (p.bind f).exec ask base cur = _
  induction p generalizing base cur with
  | ret a => rfl
  | raise e => rfl
  | stmt l lk w k ih => exact ih _ _ _
  | commit k ih => exact ih _ _
  | call q k ih => exact ih _ _ _

theorem exec_tryCatch (p : Prog S α) (h : S.Err → Prog S α) :
    (tryCatch p h).exec ask base cur =
      match p.exec ask base cur with
      | (.ok a, base', cur') => (.ok a, base', cur')
      | (.error e, base', cur') => (h e).exec ask base' cur' := by
  induction p generalizing base cur with
  | ret a => rfl
  | raise e => rfl
  | stmt l lk w k ih => exact ih _ _ _
  | commit k ih => exact ih _ _
  | call q k ih => exact ih _ _ _

theorem exec_bind_of_ok {p : Prog S α} {f : α → Prog S β} {a : α} {base' cur' : S.State}
    (h : p.exec ask base cur = (.ok a, base', cur')) :
    (p >>= f).exec ask base cur = (f a).exec ask base' cur' := by
  rw [exec_bind, h]

theorem exec_bind_of_error {p : Prog S α} {f : α → Prog S β} {e : S.Err} {base' cur' : S.State}
    (h : p.exec ask base cur = (.error e, base', cur')) :
    (p >>= f).exec ask base cur = (.error e, base', cur') := by
  rw [exec_bind, h]

@[simp] theorem exec_select (f : S.State → α) :
    (select f).exec ask base cur = (.ok (f cur), base, cur) := rfl

@[simp] theorem exec_selectAs (l : S.Label) (f : S.State → α) :
    (selectAs l f).exec ask base cur = (.ok (f cur), base, cur) := rfl

@[simp] theorem exec_selectForUpdate (r : S.Row) (f : S.State → Option α) :
    (selectForUpdate r f).exec ask base cur = (.ok (f cur), base, cur) := rfl

@[simp] theorem exec_insertOnce (r : S.Row) (taken : S.State → Bool) (ins : S.State → S.State) :
    (insertOnce r taken ins).exec ask base cur =
      (.ok (!taken cur), base, if taken cur then cur else ins cur) := rfl

@[simp] theorem exec_writeOrRaise (rs : List S.Row) (taken : S.State → Bool)
    (ins : S.State → S.State) (e : S.Err) :
    (writeOrRaise rs taken ins e).exec ask base cur =
      if taken cur then (.error e, base, cur) else (.ok (), base, ins cur) := by
  cases h : taken cur <;> simp [writeOrRaise, exec, h]

@[simp] theorem exec_writeOrRaiseAs (l : S.Label) (rs : List S.Row) (taken : S.State → Bool)
    (ins : S.State → S.State) (e : S.Err) :
    (writeOrRaiseAs l rs taken ins e).exec ask base cur =
      if taken cur then (.error e, base, cur) else (.ok (), base, ins cur) := by
  cases h : taken cur <;> simp [writeOrRaiseAs, exec, h]

@[simp] theorem exec_mark (l : S.Label) :
    (mark l : Prog S Unit).exec ask base cur = (.ok (), base, cur) := rfl

@[simp] theorem exec_update (rs : List S.Row) (patch : S.State → S.State) :
    (update rs patch).exec ask base cur = (.ok (), base, patch cur) := rfl

@[simp] theorem exec_updateAs (l : S.Label) (rs : List S.Row) (patch : S.State → S.State) :
    (updateAs l rs patch).exec ask base cur = (.ok (), base, patch cur) := rfl

theorem exec_raiseIf (c : Prop) [Decidable c] (e : S.Err) :
    (raiseIf c e).exec ask base cur = (if c then .error e else .ok (), base, cur) := by
  unfold raiseIf
  split_ifs <;> rfl

theorem exec_raiseIf_bind (c : Prop) [Decidable c] (e : S.Err) (f : Unit → Prog S β) :
    (raiseIf c e >>= f).exec ask base cur =
      if c then (.error e, base, cur) else (f ()).exec ask base cur := by
  rw [exec_bind, exec_raiseIf]
  split_ifs <;> rfl

theorem exec_writeOrRaise_bind (rs : List S.Row) (taken : S.State → Bool) (ins : S.State → S.State)
    (e : S.Err) (f : Unit → Prog S β) :
    (writeOrRaise rs taken ins e >>= f).exec ask base cur =
      if taken cur then (.error e, base, cur) else (f ()).exec ask base (ins cur) := by
  rw [exec_bind, exec_writeOrRaise]
  split_ifs <;> rfl

@[simp] theorem exec_commitNow : (commitNow : Prog S Unit).exec ask base cur = (.ok (), cur, cur) :=
  rfl

@[simp] theorem exec_ask (q : S.Query) :
    (Prog.ask q : Prog S S.Answer).exec ask base cur = (.ok (ask q), base, cur) := rfl

/-- What a program returns, and what it is about to commit, does not depend on what is committed. -/
theorem exec_base (base' : S.State) (p : Prog S α) :
    (p.exec ask base cur).1 = (p.exec ask base' cur).1 ∧
      (p.exec ask base cur).2.2 = (p.exec ask base' cur).2.2 := by
  induction p generalizing base base' cur with
  | ret a => exact ⟨rfl, rfl⟩
  | raise e => exact ⟨rfl, rfl⟩
  | stmt l lk w k ih => exact ih cur base (w cur cur) base'
  | commit k ih => exact ⟨rfl, rfl⟩
  | call q k ih => exact ih (ask q) base cur base'

theorem run_of_ok {p : Prog S α} {db base' cur' : S.State} {a : α}
    (h : p.exec ask db db = (.ok a, base', cur')) : p.run ask db = (.ok a, cur') := by
  simp [run, h]

theorem run_of_error {p : Prog S α} {db base' cur' : S.State} {e : S.Err}
    (h : p.exec ask db db = (.error e, base', cur')) : p.run ask db = (.error e, base') := by
  simp [run, h]

theorem run_ignore (p : Prog S α) (db : S.State) : ((ignore p).run ask db).2 = (p.run ask db).2 := by
  unfold ignore
  rcases h : p.exec ask db db with ⟨_ | a, base', cur'⟩
  · rw [run_of_error _ (exec_bind_of_error _ _ _ h), run_of_error _ h]
  · rw [run_of_ok _ (exec_bind_of_ok _ _ _ h), run_of_ok _ h]

end DiddiGo.Transactions.Prog
