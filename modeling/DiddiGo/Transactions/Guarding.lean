import DiddiGo.Transactions.Stages

/-!
# Asking under a lock

A program that locks a row before it asks certain queries, and keeps the lock until it ends, asks them
alone. Here a failure of the program matters as much as its result.
-/

namespace DiddiGo.Transactions

variable {S : Signature} {M : Machine S} {α : Type}

namespace RelyGuarantee

/-- Weakest precondition of a program that returns in `Q` and fails only at points in `F`. -/
def wpOr (R : RelyGuarantee M) (i : M.Proc) (F : Point M → Prop) (p : Prog S α) (Q : α → Point M → Prop) :
    Point M → Prop :=
  R.wp i p fun r P' => match r with
    | .ok a => Q a P'
    | .error _ => F P'

/-- From every point in the stage `J` the program of process `i` leads to another one, also if it fails. -/
def Remains (R : RelyGuarantee M) (i : M.Proc) (J : Point M → Prop) (p : Prog S α) : Prop :=
  ∀ P : Point M, J P → R.wpOr i J p (fun _ => J) P

end RelyGuarantee

/-- Whenever the program asks a query in `about`, it has locked the row `r`, unless it `held` it from the
start. It does not commit before it ends. -/
def Prog.AsksHolding (r : S.Row) (about : S.Query → Prop) : Prop → Prog S α → Prop
  | _, .ret _ => True
  | _, .raise _ => True
  | held, .stmt _ locks _ next => ∀ v, (next v).AsksHolding r about (held ∨ r ∈ locks v)
  | _, .commit _ => False
  | held, .call q next => (about q → held) ∧ ∀ a, (next a).AsksHolding r about held

/-- Process `i` has asked a query in `about`, or has been answered. -/
def Shared.Asked (about : S.Query → Prop) (i : M.Proc) (s : Shared M) : Prop :=
  ∃ q, about q ∧ (.sent i q ∈ s.trace ∨ ∃ a, .answered i q a ∈ s.trace)

/-- Process `i` will ask under the lock, and if it has asked and not ended it has the lock. -/
structure Config.Guarded (r : S.Row) (about : S.Query → Prop) (c : Config M) (i : M.Proc) : Prop where
  running : ∀ p pending, c.task i = .running p pending → p.AsksHolding r about (c.owner r = some i)
  waiting : ∀ q next pending, c.task i = .waiting q next pending →
    (about q → c.owner r = some i) ∧ ∀ a, (next a).AsksHolding r about (c.owner r = some i)
  asked : c.shared.Asked about i → c.task i ≠ .ended → c.owner r = some i

end DiddiGo.Transactions
