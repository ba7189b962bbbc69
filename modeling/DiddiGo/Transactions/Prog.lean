/-!
# Transactional programs

A program issues database statements one at a time, commits, and calls external services in between.
A statement computes from the contents of the database its process sees: which locks it takes, what it
writes, and how the program goes on. Returning commits what is still pending; raising rolls it back.

`exec` is the meaning of a program that runs alone. `DiddiGo.Transactions.System` runs several of them
against one database.
-/

namespace DiddiGo.Transactions

/-- The vocabulary of a family of transactional programs. -/
structure Signature where
  /-- Contents of the database. -/
  State : Type
  /-- Lockable rows and unique keys. -/
  Row : Type
  /-- Names of the statements that a property of runs refers to. -/
  Label : Type
  /-- Requests to external services. -/
  Query : Type
  /-- Answers of external services. -/
  Answer : Type
  /-- Exceptions. -/
  Err : Type

variable {S : Signature} {α β : Type}

/-- A transactional program. -/
inductive Prog (S : Signature) (α : Type) : Type
  /-- Commit and return `a`. -/
  | ret (a : α)
  /-- Roll back and raise `e`. -/
  | raise (e : S.Err)
  /-- One statement. All three functions receive the contents the process sees; `write` also receives
  the contents to change. -/
  | stmt (label : Option S.Label) (locks : S.State → List S.Row)
      (write : S.State → S.State → S.State) (next : S.State → Prog S α)
  /-- Commit and go on in a new transaction. -/
  | commit (next : Prog S α)
  /-- Wait for an external service. -/
  | call (q : S.Query) (next : S.Answer → Prog S α)

namespace Prog

/-- Sequential composition, inside one transaction. -/
def bind : Prog S α → (α → Prog S β) → Prog S β
  | ret a, f => f a
  | raise e, _ => raise e
  | stmt l lk w k, f => stmt l lk w fun v => (k v).bind f
  | commit k, f => commit (k.bind f)
  | call q k, f => call q fun a => (k a).bind f

/-- `try p except e: h e`; the transaction goes on in the handler. -/
def tryCatch : Prog S α → (S.Err → Prog S α) → Prog S α
  | ret a, _ => ret a
  | raise e, h => h e
  | stmt l lk w k, h => stmt l lk w fun v => (k v).tryCatch h
  | commit k, h => commit (k.tryCatch h)
  | call q k, h => call q fun a => (k a).tryCatch h

instance : Monad (Prog S) where
  pure := ret
  bind := bind

instance : MonadExcept S.Err (Prog S) where
  throw := raise
  tryCatch := tryCatch

/-- Run alone. `base` is what is committed, `cur` is `base` with the pending changes. -/
def exec (ask : S.Query → S.Answer) :
    Prog S α → S.State → S.State → Except S.Err α × S.State × S.State
  | ret a, base, cur => (.ok a, base, cur)
  | raise e, base, cur => (.error e, base, cur)
  | stmt _ _ w k, base, cur => (k cur).exec ask base (w cur cur)
  | commit k, _, cur => k.exec ask cur cur
  | call q k, base, cur => (k (ask q)).exec ask base cur

/-- A whole request run alone: it commits if it returns and rolls back if it raises. -/
def run (ask : S.Query → S.Answer) (p : Prog S α) (db : S.State) : Except S.Err α × S.State :=
  match p.exec ask db db with
  | (.ok a, _, cur) => (.ok a, cur)
  | (.error e, base, _) => (.error e, base)

/-! ## Statements -/

/-- `SELECT`: reads without a lock. -/
def select (f : S.State → α) : Prog S α :=
  stmt none (fun _ => []) (fun _ s => s) fun v => ret (f v)

/-- `SELECT` that properties of runs refer to by `l`. -/
def selectAs (l : S.Label) (f : S.State → α) : Prog S α :=
  stmt (some l) (fun _ => []) (fun _ s => s) fun v => ret (f v)

/-- `SELECT ... FOR UPDATE` of the row `r`: locks the row if it is visible. -/
def selectForUpdate (r : S.Row) (f : S.State → Option α) : Prog S (Option α) :=
  stmt none (fun v => if (f v).isSome then [r] else []) (fun _ s => s) fun v => ret (f v)

/-- `SELECT ... FOR UPDATE` of several rows, `rs` of them. -/
def selectAllForUpdate (rs : S.State → List S.Row) (f : S.State → α) : Prog S α :=
  stmt none rs (fun _ s => s) fun v => ret (f v)

/-- `INSERT ... ON CONFLICT DO NOTHING`: locks the key `r` and inserts unless the key is visibly
taken; tells whether a row was inserted. -/
def insertOnce (r : S.Row) (taken : S.State → Bool) (ins : S.State → S.State) : Prog S Bool :=
  stmt none (fun v => if taken v then [] else [r]) (fun v s => if taken v then s else ins s)
    fun v => ret (!taken v)

/-- `INSERT` or `UPDATE` under unique keys: locks the rows and keys `rs` and writes, or raises `e` if
a key is visibly taken. -/
def writeOrRaise (rs : List S.Row) (taken : S.State → Bool) (patch : S.State → S.State)
    (e : S.Err) : Prog S Unit :=
  stmt none (fun v => if taken v then [] else rs) (fun v s => if taken v then s else patch s)
    fun v => if taken v then raise e else ret ()

/-- `writeOrRaise` that properties of runs refer to by `l`. -/
def writeOrRaiseAs (l : S.Label) (rs : List S.Row) (taken : S.State → Bool) (patch : S.State → S.State)
    (e : S.Err) : Prog S Unit :=
  stmt (some l) (fun v => if taken v then [] else rs) (fun v s => if taken v then s else patch s)
    fun v => if taken v then raise e else ret ()

/-- A point of the program that properties of runs refer to by `l`; no statement is sent. -/
def mark (l : S.Label) : Prog S Unit := stmt (some l) (fun _ => []) (fun _ s => s) fun _ => ret ()

/-- `UPDATE` of the locked rows `rs`. -/
def update (rs : List S.Row) (patch : S.State → S.State) : Prog S Unit :=
  stmt none (fun _ => rs) (fun _ s => patch s) fun _ => ret ()

/-- `UPDATE` that properties of runs refer to by `l`. -/
def updateAs (l : S.Label) (rs : List S.Row) (patch : S.State → S.State) : Prog S Unit :=
  stmt (some l) (fun _ => rs) (fun _ s => patch s) fun _ => ret ()

/-- `if c: raise e`. -/
def raiseIf (c : Prop) [Decidable c] (e : S.Err) : Prog S Unit := if c then raise e else ret ()

/-- The result of `p` does not matter. -/
def ignore (p : Prog S α) : Prog S Unit := p >>= fun _ => ret ()

/-- Commit the open transaction. -/
def commitNow : Prog S Unit := commit (ret ())

/-- Ask an external service. -/
def ask (q : S.Query) : Prog S S.Answer := call q ret

end Prog

end DiddiGo.Transactions
