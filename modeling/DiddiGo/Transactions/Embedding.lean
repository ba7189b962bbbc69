import DiddiGo.Transactions.Prog

/-!
# Programs on a part of the database

A program that knows only a part of the database is run on the whole of it.
-/

namespace DiddiGo.Transactions

/-- How a family of programs is a part of another one. -/
structure Embedding (S T : Signature) where
  /-- The part of the database. -/
  get : T.State → S.State
  /-- The database with another part. -/
  put : S.State → T.State → T.State
  row : S.Row → T.Row
  label : S.Label → Option T.Label
  query : S.Query → T.Query
  answer : T.Answer → S.Answer
  err : S.Err → T.Err
  get_put : ∀ part db, get (put part db) = part
  put_get : ∀ db, put (get db) db = db
  put_put : ∀ part part' db, put part (put part' db) = put part db

variable {S T : Signature} {α : Type}

/-- The program, run on the whole database. -/
def Prog.embed (E : Embedding S T) : Prog S α → Prog T α
  | .ret a => .ret a
  | .raise e => .raise (E.err e)
  | .stmt l locks write next =>
    .stmt (l.bind E.label) (fun v => (locks (E.get v)).map E.row)
      (fun v db => E.put (write (E.get v) (E.get db)) db) fun v => (next (E.get v)).embed E
  | .commit next => .commit (next.embed E)
  | .call q next => .call (E.query q) fun a => (next (E.answer a)).embed E

end DiddiGo.Transactions
