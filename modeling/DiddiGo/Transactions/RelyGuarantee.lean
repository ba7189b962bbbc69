import DiddiGo.Transactions.System

/-!
# Rely-guarantee reasoning about concurrent transactions

A process is verified alone. Before each of its steps the rest of the system may have acted: the shared
state is then another one that satisfies the invariant, is related to the old one by the rely, and agrees
with it on every row the process has locked. In return each of its own steps keeps the invariant,
stays within the guarantee, and publishes no change of a row it has not locked.

`wp` is the weakest precondition of a program under this discipline, by recursion on the program.
-/

namespace DiddiGo.Transactions

variable {S : Signature}

/-- Invariant, rely and guarantee of a system. -/
structure RelyGuarantee (M : Machine S) where
  /-- Holds of the shared state between any two steps. -/
  inv : Shared M → Prop
  /-- What process `i` tolerates from the others. -/
  rely : M.Proc → Shared M → Shared M → Prop
  /-- What process `i` may do in one step. -/
  guar : M.Proc → Shared M → Shared M → Prop
  /-- Two database contents agree on a row. -/
  same : S.Row → S.State → S.State → Prop
  rely_refl : ∀ i s, rely i s s
  rely_trans : ∀ i s s' s'', rely i s s' → rely i s' s'' → rely i s s''
  rely_of_guar : ∀ i j s s', i ≠ j → guar j s s' → rely i s s'
  same_refl : ∀ r db, same r db db
  same_trans : ∀ r db db' db'', same r db db' → same r db' db'' → same r db db''

/-- A process in the middle of its program. -/
structure Point (M : Machine S) where
  /-- The shared state. -/
  shared : Shared M
  /-- The rows it has locked. -/
  held : S.Row → Prop
  /-- Its uncommitted changes. -/
  pending : S.State → S.State

variable {M : Machine S} {α : Type}

namespace Point

/-- The database contents the process sees. -/
def view (P : Point M) : S.State := P.pending P.shared.db

/-- The shared state has become `s`. -/
def withShared (P : Point M) (s : Shared M) : Point M := { P with shared := s }

/-- After a statement of process `i`. -/
def stmt (P : Point M) (i : M.Proc) (l : Option S.Label) (rs : List S.Row)
    (write : S.State → S.State) : Point M where
  shared := P.shared.note i l P.view
  held := fun r => r ∈ rs ∨ P.held r
  pending := write ∘ P.pending

/-- After a commit. -/
def commit (P : Point M) : Point M where
  shared := P.shared.store P.view
  held := fun _ => False
  pending := id

/-- A program about to start. -/
def start (s : Shared M) : Point M := ⟨s, fun _ => False, id⟩

end Point

namespace RelyGuarantee

/-- The process that makes a move. -/
def mover : Move M → M.Proc
  | .go i => i
  | .reply i _ => i

variable (R : RelyGuarantee M)

/-- The others may turn the shared state into `s` while the process is at `P`. -/
structure Interferes (i : M.Proc) (P : Point M) (s : Shared M) : Prop where
  same : ∀ r, P.held r → R.same r P.shared.db s.db
  rely : R.rely i P.shared s
  inv : R.inv s

/-- The process may turn the shared state `s` into `s'` while it holds the rows `held`. -/
structure Permits (i : M.Proc) (held : S.Row → Prop) (s s' : Shared M) : Prop where
  inv : R.inv s'
  guar : R.guar i s s'
  frame : ∀ r, ¬ held r → R.same r s.db s'.db

/-- Process `i`, which waits at `P` for the answer to `q`, gets to `Q`. -/
def Awaits (i : M.Proc) (q : S.Query) (Q : S.Answer → Point M → Prop) (P : Point M) : Prop :=
  ∀ s, R.Interferes i P s → ∀ a w, M.answers s.world i q a = some w →
    R.Permits i P.held s (s.reply i q a w) ∧ Q a (P.withShared (s.reply i q a w))

/-- Weakest precondition of a program of process `i`; `Q` is about its result and the point it
reaches, with the last transaction still open. -/
def wp (i : M.Proc) : Prog S α → (Except S.Err α → Point M → Prop) → Point M → Prop
  | .ret a, Q, P => Q (.ok a) P
  | .raise e, Q, P => Q (.error e) P
  | .stmt l locks write next, Q, P => ∀ s, R.Interferes i P s →
      let P' := P.withShared s
      (∀ l', l = some l' → R.Permits i P.held s (s.note i l P'.view)) ∧
      wp i (next P'.view) Q (P'.stmt i l (locks P'.view) (write P'.view))
  | .commit next, Q, P => ∀ s, R.Interferes i P s →
      let P' := P.withShared s
      R.Permits i P.held s (s.store P'.view) ∧ wp i next Q P'.commit
  | .call q next, Q, P => ∀ s, R.Interferes i P s →
      R.Permits i P.held s (s.send i q) ∧
      R.Awaits i q (fun a => wp i (next a) Q) (P.withShared (s.send i q))

/-- Weakest precondition for the case that the program returns: an exception may be raised at any
time. -/
@[irreducible] def wpOk (i : M.Proc) (p : Prog S α) (Q : α → Point M → Prop) : Point M → Prop :=
  R.wp i p fun r P' => ∀ a, r = .ok a → Q a P'

/-- The database contents a finished process leaves behind. -/
def outcome (P : Point M) (s : Shared M) : Except S.Err M.Out → S.State
  | .ok _ => P.pending s.db
  | .error _ => s.db

/-- Process `i` may end at `P` with the result `r`. -/
def Ends (i : M.Proc) (r : Except S.Err M.Out) (P : Point M) : Prop :=
  ∀ s, R.Interferes i P s → R.Permits i P.held s (s.finish i r (outcome P s r))

/-- Process `i` may run `p` from the shared state `s`. -/
def Verified (i : M.Proc) (p : Prog S M.Out) (s : Shared M) : Prop :=
  R.wp i p (R.Ends i) (Point.start s)

end RelyGuarantee

end DiddiGo.Transactions
