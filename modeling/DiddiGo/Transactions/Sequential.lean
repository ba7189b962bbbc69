import DiddiGo.Transactions.Prog

/-!
# Requests one after the other

A run of complete requests, none of which overlaps with another, and what it means that a program keeps
a property of the database.
-/

namespace DiddiGo.Transactions

variable {S : Signature} {α : Type}

/-- A request, with the answers that external services give to it. -/
structure Request (S : Signature) (α : Type) where
  prog : Prog S α
  ask : S.Query → S.Answer

/-- The database after one request. -/
def Request.after (r : Request S α) (db : S.State) : S.State := (r.prog.run r.ask db).2

/-- The database after a run of requests. -/
def runAll (rs : List (Request S α)) (db : S.State) : S.State :=
  rs.foldl (fun db r => r.after db) db

/-- Started with `I`, the program leaves `I` behind: in what it has committed, and, if it returns, in what
it is about to commit. -/
def Prog.Keeps (I : S.State → Prop) (p : Prog S α) : Prop :=
  ∀ ask base cur, I base → I cur →
    I (p.exec ask base cur).2.1 ∧
      ∀ a, (p.exec ask base cur).1 = .ok a → I (p.exec ask base cur).2.2

/-- The program is one transaction: it never commits before it returns. -/
def Prog.Atomic : Prog S α → Prop
  | .ret _ => True
  | .raise _ => True
  | .stmt _ _ _ next => ∀ v, (next v).Atomic
  | .commit _ => False
  | .call _ next => ∀ a, (next a).Atomic

/-- With the answers `ask`, the program ends with `Q` whenever it starts with `P` and returns. -/
def Prog.Ensures (ask : S.Query → S.Answer) (P : S.State → Prop) (p : Prog S α)
    (Q : α → S.State → Prop) : Prop :=
  ∀ base cur, P cur → ∀ a, (p.exec ask base cur).1 = .ok a → Q a (p.exec ask base cur).2.2

/-- With the answers `ask` and `base` committed, the program run alone from `cur` returns with `Q`, of its
result, what is committed then and what is pending; or it raises and leaves `E` behind. -/
def Prog.Leads (ask : S.Query → S.Answer) (E : S.State → Prop) (Q : α → S.State → S.State → Prop)
    (p : Prog S α) (base cur : S.State) : Prop :=
  match p.exec ask base cur with
  | (.ok a, base', cur') => Q a base' cur'
  | (.error _, base', _) => E base'

/-- With the answers `ask`, the program raises only exceptions in `E`. -/
def Prog.Raises (ask : S.Query → S.Answer) (E : S.Err → Prop) (p : Prog S α) : Prop :=
  ∀ base cur e, (p.exec ask base cur).1 = .error e → E e

/-- The program writes nothing and never commits. -/
def Prog.Reads (p : Prog S α) : Prop :=
  ∀ ask base cur, (p.exec ask base cur).2 = (base, cur)

/-- With the answers `ask`, the program returns `a` in one transaction from `db` to `db'`. -/
def Prog.Returns (ask : S.Query → S.Answer) (db : S.State) (p : Prog S α) (a : α) (db' : S.State) :
    Prop := ∀ base, p.exec ask base db = (.ok a, base, db')

/-- With the answers `ask`, the program raises from `db` before it commits anything. -/
def Prog.Fails (ask : S.Query → S.Answer) (db : S.State) (p : Prog S α) : Prop :=
  ∀ base, ∃ e cur, p.exec ask base db = (.error e, base, cur)

/-! ## Histories -/

variable {σ γ : Type} (after : γ → σ → σ)

/-- The state after a history of steps. -/
def runSteps (cs : List γ) (s : σ) : σ := cs.foldl (fun s c => after c s) s

/-- The states that a history goes through, the first one included. -/
def statesAlong : List γ → σ → List σ
  | [], s => [s]
  | c :: cs, s => s :: statesAlong cs (after c s)

/-- Every step of the history satisfies `P` in the state it finds. -/
def EachStep (P : γ → σ → Prop) : List γ → σ → Prop
  | [], _ => True
  | c :: cs, s => P c s ∧ EachStep P cs (after c s)

instance EachStep.decidable {P : γ → σ → Prop} [∀ c s, Decidable (P c s)] :
    ∀ cs s, Decidable (EachStep after P cs s)
  | [], _ => isTrue trivial
  | c :: cs, s => @instDecidableAnd _ _ inferInstance (EachStep.decidable cs (after c s))

/-- Some step of the history satisfies `P` in the state it finds. -/
def SomeStep (P : γ → σ → Prop) : List γ → σ → Prop
  | [], _ => False
  | c :: cs, s => P c s ∨ SomeStep P cs (after c s)

end DiddiGo.Transactions
