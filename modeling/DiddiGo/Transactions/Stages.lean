import DiddiGo.Transactions.RelyGuarantee

/-!
# Stages of a process

A stage says what a process knows between two statements, whatever the others do. Programs whose writes
are harmless stay in a stage.

A tentative program publishes nothing before it has asked an external service: it commits only by
returning or right before it asks.
-/

namespace DiddiGo.Transactions

variable {S : Signature} {M : Machine S} {α : Type}

/-! ## Stages -/

namespace RelyGuarantee

variable (R : RelyGuarantee M) (i : M.Proc)

/-- The stage `J` of process `i` survives the others, more locks, and writes in `harmless`. -/
structure Stage (harmless : (S.State → S.State) → Prop) (J : Point M → Prop) : Prop where
  interfere : ∀ {P : Point M} {s : Shared M}, J P → R.Interferes i P s → J (P.withShared s)
  hold : ∀ {P : Point M} {held : S.Row → Prop}, J P → (∀ r, P.held r → held r) →
    J { P with held := held }
  write : ∀ {P : Point M} {f : S.State → S.State}, J P → harmless f →
    J { P with pending := f ∘ P.pending }

/-- From every point in the stage `J` the program of process `i` leads to another one if it returns. -/
def Stays (J : Point M → Prop) (p : Prog S α) : Prop :=
  ∀ P : Point M, J P → R.wpOk i p (fun _ => J) P

/-- And what it returns satisfies `Q`. -/
def Yields (J : Point M → Prop) (Q : α → Prop) (p : Prog S α) : Prop :=
  ∀ P : Point M, J P → R.wpOk i p (fun a P' => Q a ∧ J P') P

end RelyGuarantee

/-! ## Tentative programs -/

namespace Prog

/-- The program commits only by returning or right before it asks an external service for the first
time. -/
def Tentative : Prog S α → Prop
  | .ret _ => True
  | .raise _ => True
  | .stmt _ _ _ next => ∀ v, (next v).Tentative
  | .commit next => ∃ q k, next = .call q k
  | .call _ _ => True

/-- The program neither commits nor asks before it returns. -/
def Silent : Prog S α → Prop
  | .ret _ => True
  | .raise _ => True
  | .stmt _ _ _ next => ∀ v, (next v).Silent
  | .commit _ => False
  | .call _ _ => False

/-- As long as its process sees only contents in `K`, the program changes nothing, asks nobody, and
returns a value in `Q`. -/
def Quiet (K : S.State → Prop) (Q : α → Prop) : Prog S α → Prop
  | .ret a => Q a
  | .raise _ => False
  | .stmt _ _ write next => ∀ v, K v → (∀ s, write v s = s) ∧ (next v).Quiet K Q
  | .commit _ => False
  | .call _ _ => False

end Prog

/-- Process `i` has changed nothing and will not, or it has returned. -/
inductive Calm (K : S.State → Prop) (i : M.Proc) (c : Config M) : Prop
  | running (p : Prog S M.Out) (pending : S.State → S.State) (htask : c.task i = .running p pending)
      (hp : p.Quiet K fun _ => True) (hpending : ∀ db, pending db = db) (hlog : ∀ r, (i, r) ∉ c.shared.log)
  | ended (htask : c.task i = .ended) (hlog : ∀ e, (i, Except.error e) ∉ c.shared.log)

section

variable [DecidableEq M.Proc] [DecidableEq S.Row]

/-- No move of process `i` in the schedule changes what is committed. -/
def LeavesAlone (i : M.Proc) (c : Config M) (ms : List (Move M)) : Prop :=
  ∀ before m later c₁ c₂, ms = before ++ m :: later → c.run before = some c₁ →
    c₁.step m = some c₂ → RelyGuarantee.mover m = i → c₂.shared.db = c₁.shared.db

/-- What is known of process `i` after a schedule if its program was tentative. -/
inductive Standing (i : M.Proc) (c : Config M) (ms : List (Move M)) (c' : Config M) : Prop
  /-- It has published nothing and has still to run `p`. -/
  | before (p : Prog S M.Out) (pending : S.State → S.State) (hp : p.Tentative)
      (htask : c'.task i = .running p pending) (hlog : ∀ r, (i, r) ∉ c'.shared.log)
      (halone : LeavesAlone i c ms)
  /-- Its next step is to ask. -/
  | asking (q : S.Query) (k : S.Answer → Prog S M.Out) (pending : S.State → S.State)
      (htask : c'.task i = .running (.call q k) pending) (hlog : ∀ r, (i, r) ∉ c'.shared.log)
  /-- It has asked. -/
  | asked (q : S.Query) (hsent : Event.sent i q ∈ c'.shared.trace)
  /-- It has returned. -/
  | returned (htask : c'.task i = .ended) (hlog : ∀ e, (i, Except.error e) ∉ c'.shared.log)
  /-- It has failed and has published nothing. -/
  | failed (htask : c'.task i = .ended) (halone : LeavesAlone i c ms)

end

end DiddiGo.Transactions
