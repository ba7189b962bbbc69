import DiddiGo.Transactions.RelyGuarantee

/-!
# What a transaction accumulates

A program that is one transaction publishes once, at its end. What it publishes is the composition of its
writes; how they depend on what it has seen is followed statement by statement.
-/

namespace DiddiGo.Transactions

variable {S : Signature} {M : Machine S} {α : Type}

/-- The program is one transaction. As long as its process sees only contents in `K`, the changes it
accumulates, from `f` on, stay in `I`; where it returns `a` with `g` accumulated, `Q a g` holds. -/
def Prog.Accumulates (K : S.State → Prop) (I : (S.State → S.State) → Prop)
    (Q : α → (S.State → S.State) → Prop) : Prog S α → (S.State → S.State) → Prop
  | .ret a, f => I f ∧ Q a f
  | .raise _, _ => True
  | .stmt _ _ write next, f => I f ∧ ∀ v, K v → (next v).Accumulates K I Q (write v ∘ f)
  | .commit _, _ => False
  | .call _ next, f => I f ∧ ∀ a, (next a).Accumulates K I Q f

/-- The same of a process in the middle of its program. -/
def Config.Accumulates (K : S.State → Prop) (I : (S.State → S.State) → Prop)
    (Q : M.Out → (S.State → S.State) → Prop) (i : M.Proc) (c : Config M) : Prop :=
  match c.task i with
  | .running p f => p.Accumulates K I Q f
  | .waiting _ next f => I f ∧ ∀ a, (next a).Accumulates K I Q f
  | .ended => True

section

variable [DecidableEq M.Proc] [DecidableEq S.Row]

/-- Along the schedule every move, with the states before and after it, satisfies `P`. -/
def EveryMove (P : Config M → Move M → Config M → Prop) : Config M → List (Move M) → Prop
  | _, [] => True
  | c, m :: ms => ∀ c', c.step m = some c' → P c m c' ∧ EveryMove P c' ms

/-- Every state of the schedule, the first and the last one included, satisfies `P`. -/
def EveryState (P : Config M → Prop) : Config M → List (Move M) → Prop
  | c, [] => P c
  | c, m :: ms => P c ∧ ∀ c', c.step m = some c' → EveryState P c' ms

end

end DiddiGo.Transactions
