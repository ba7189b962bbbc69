import DiddiGo.Transactions.RelyGuarantee

/-!
# Transactions that are not overtaken

A program that reads without a lock and writes later is right as long as what it has read still holds when it
publishes. A trail keeps what was committed at each statement of an open transaction. A schedule is timely if this
agrees with the database whenever a process publishes.
-/

namespace DiddiGo.Transactions

variable {S : Signature} {M : Machine S} {α : Type}

/-- A transaction that started as `p₀`, and at whose statements `found` was committed, has come to `p` with the
changes `f` pending. -/
inductive Trail (p₀ : Prog S α) : List S.State → Prog S α → (S.State → S.State) → Prop
  | start : Trail p₀ [] p₀ id
  | stmt {found : List S.State} {l : Option S.Label} {locks : S.State → List S.Row}
      {write : S.State → S.State → S.State} {next : S.State → Prog S α} {f : S.State → S.State} (db : S.State)
      (h : Trail p₀ found (.stmt l locks write next) f) :
      Trail p₀ (found ++ [db]) (next (f db)) (write (f db) ∘ f)
  | call {found : List S.State} {q : S.Query} {next : S.Answer → Prog S α} {f : S.State → S.State} (a : S.Answer)
      (h : Trail p₀ found (.call q next) f) : Trail p₀ found (next a) f

/-- As long as only databases in `K` are committed at its statements, the program returns in `Q` or commits in `C`,
in both cases with the changes that are pending then. -/
def Prog.Assuming (K : S.State → Prop) (C : Prog S α → (S.State → S.State) → Prop)
    (Q : α → (S.State → S.State) → Prop) : Prog S α → (S.State → S.State) → Prop
  | .ret a, f => Q a f
  | .raise _, _ => True
  | .stmt _ _ write next, f => ∀ db, K db → (next (f db)).Assuming K C Q (write (f db) ∘ f)
  | .commit next, f => C next f
  | .call _ next, f => ∀ a, (next a).Assuming K C Q f

/-- The next move of the process publishes: it commits or returns. -/
def Task.Publishes : Task M → Prop
  | .running (.commit _) _ => True
  | .running (.ret _) _ => True
  | _ => False

instance : ∀ t : Task M, Decidable t.Publishes
  | .running (.commit _) _ => isTrue trivial
  | .running (.ret _) _ => isTrue trivial
  | .running (.raise _) _ => isFalse id
  | .running (.stmt ..) _ => isFalse id
  | .running (.call ..) _ => isFalse id
  | .waiting .. => isFalse id
  | .ended => isFalse id

/-- The process has come from a program in `A` by a trail. -/
def Task.Follows (A : Prog S M.Out → Prop) (found : List S.State) : Task M → Prop
  | .running p f => ∃ p₀, A p₀ ∧ Trail p₀ found p f
  | .waiting q next f => ∃ p₀, A p₀ ∧ Trail p₀ found (.call q next) f
  | .ended => True

namespace Config

variable [DecidableEq M.Proc]

/-- What was committed at the statements of the open transactions, after a move. -/
def foundAfter (c : Config M) (found : M.Proc → List S.State) : Move M → M.Proc → List S.State
  | .go i =>
    match c.task i with
    | .running (.stmt ..) _ => Function.update found i (found i ++ [c.shared.db])
    | .running (.call ..) _ => found
    | _ => Function.update found i []
  | .reply _ _ => found

/-- If the move publishes, what was committed at the statements of the transaction agrees, for what its process
has to do, with what is committed now. -/
def TimelyMove (agree : M.Proc → S.State → S.State → Prop) (c : Config M) (found : M.Proc → List S.State) :
    Move M → Prop
  | .go i => (c.task i).Publishes → ∀ db ∈ found i, agree i db c.shared.db
  | .reply _ _ => True

instance (agree : M.Proc → S.State → S.State → Prop) [∀ i db db', Decidable (agree i db db')] (c : Config M)
    (found : M.Proc → List S.State) : ∀ m, Decidable (c.TimelyMove agree found m)
  | .go i => inferInstanceAs (Decidable ((c.task i).Publishes → ∀ db ∈ found i, agree i db c.shared.db))
  | .reply _ _ => isTrue trivial

variable [DecidableEq S.Row]

/-- Every move of the schedule is timely. -/
def Timely (agree : M.Proc → S.State → S.State → Prop) :
    (M.Proc → List S.State) → Config M → List (Move M) → Prop
  | _, _, [] => True
  | found, c, m :: ms =>
    c.TimelyMove agree found m ∧
      match c.step m with
      | some c' => Timely agree (c.foundAfter found m) c' ms
      | none => True

instance Timely.decidable (agree : M.Proc → S.State → S.State → Prop) [∀ i db db', Decidable (agree i db db')] :
    ∀ found c ms, Decidable (Timely (M := M) agree found c ms)
  | _, _, [] => isTrue trivial
  | found, c, m :: ms =>
    @instDecidableAnd _ _ inferInstance
      (match c.step m with
      | some c' => Timely.decidable agree (c.foundAfter found m) c' ms
      | none => isTrue trivial)

/-- Every process has come from a program in `A` by a trail. -/
def Trails (A : M.Proc → Prog S M.Out → Prop) (found : M.Proc → List S.State) (c : Config M) : Prop :=
  ∀ i, (c.task i).Follows (A i) (found i)

end Config

end DiddiGo.Transactions
