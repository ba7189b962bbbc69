import DiddiGo.Transactions.Prog
import Mathlib.Logic.Function.Basic

/-!
# Concurrent transactions at READ COMMITTED

Several processes run a program each against one database. A statement sees what is committed at
that moment together with the process's own pending changes. It waits while another process holds a
lock it needs; locks are held until the process commits or rolls back. Only a commit publishes
changes.

A schedule is a list of moves, so a run is the evaluation of `Config.run` on one, and a property of
every interleaving quantifies over all schedules.
-/

namespace DiddiGo.Transactions

/-- The processes of a system and the services around it. -/
structure Machine (S : Signature) where
  /-- Process identifiers. -/
  Proc : Type
  /-- What external services remember. -/
  World : Type
  /-- Results of the programs. -/
  Out : Type
  /-- `receives w i q` is the state of the services after they receive the request `q` of process `i` in
  state `w`. -/
  receives : World → Proc → S.Query → World
  /-- `answers w i q a` is the state of the services after they answer `a` to the request `q` of
  process `i` in state `w`; `none` when they cannot answer so. -/
  answers : World → Proc → S.Query → S.Answer → Option World

variable {S : Signature} (M : Machine S)

/-- A recorded step of a run. -/
inductive Event
  /-- Process `i` executed the statement `l` and saw `view`. -/
  | stmt (i : M.Proc) (l : S.Label) (view : S.State)
  /-- Process `i` sent the request `q`. -/
  | sent (i : M.Proc) (q : S.Query)
  /-- Process `i` received `a` as the answer to `q`. -/
  | answered (i : M.Proc) (q : S.Query) (a : S.Answer)

/-- What all processes share, with a record of the run so far. -/
structure Shared where
  /-- The committed contents of the database. -/
  db : S.State
  /-- The external services. -/
  world : M.World
  /-- The processes that have ended and their results, in that order. -/
  log : List (M.Proc × Except S.Err M.Out)
  /-- The named statements, the requests to services and their answers so far. -/
  trace : List (Event M)

/-- One process. -/
inductive Task
  /-- It still has to run `p`; `pending` are its uncommitted changes. -/
  | running (p : Prog S M.Out) (pending : S.State → S.State)
  /-- It waits for the answer to `q` and goes on with `next`. -/
  | waiting (q : S.Query) (next : S.Answer → Prog S M.Out) (pending : S.State → S.State)
  /-- It has ended. -/
  | ended

/-- A state of the system. -/
structure Config where
  /-- The shared part. -/
  shared : Shared M
  /-- Who holds the lock on a row. -/
  owner : S.Row → Option M.Proc
  /-- The processes. -/
  task : M.Proc → Task M

/-- The next thing that happens. -/
inductive Move
  /-- Process `i` executes its next statement, sends its next request, commits or ends. -/
  | go (i : M.Proc)
  /-- Process `i` receives the answer `a` it waits for. -/
  | reply (i : M.Proc) (a : S.Answer)

variable {M}

namespace Shared

/-- Record a named statement. -/
def note (s : Shared M) (i : M.Proc) (l : Option S.Label) (view : S.State) : Shared M :=
  match l with
  | none => s
  | some l => { s with trace := s.trace ++ [.stmt i l view] }

/-- A service receives a request. -/
def send (s : Shared M) (i : M.Proc) (q : S.Query) : Shared M :=
  { s with world := M.receives s.world i q, trace := s.trace ++ [.sent i q] }

/-- A service answers. -/
def reply (s : Shared M) (i : M.Proc) (q : S.Query) (a : S.Answer) (w : M.World) : Shared M :=
  { s with world := w, trace := s.trace ++ [.answered i q a] }

/-- Publish `db`. -/
def store (s : Shared M) (db : S.State) : Shared M := { s with db := db }

/-- Process `i` ends with `r`, leaving `db`. -/
def finish (s : Shared M) (i : M.Proc) (r : Except S.Err M.Out) (db : S.State) : Shared M :=
  { s with db := db, log := s.log ++ [(i, r)] }

end Shared

namespace Config

/-- Nothing has happened yet and process `i` has `prog i` to run. -/
def initial (db : S.State) (w : M.World) (prog : M.Proc → Prog S M.Out) : Config M where
  shared := { db := db, world := w, log := [], trace := [] }
  owner := fun _ => none
  task := fun i => .running (prog i) id

variable [DecidableEq M.Proc]

/-- The locks after process `i` has taken `rs`. -/
def lock (owner : S.Row → Option M.Proc) (i : M.Proc) [DecidableEq S.Row] (rs : List S.Row) :
    S.Row → Option M.Proc :=
  fun r => if r ∈ rs then some i else owner r

/-- The locks after process `i` has released its own. -/
def release (owner : S.Row → Option M.Proc) (i : M.Proc) : S.Row → Option M.Proc :=
  fun r => if owner r = some i then none else owner r

variable [DecidableEq S.Row]

/-- One move; `none` when it is not possible. -/
def step (c : Config M) : Move M → Option (Config M)
  | .go i =>
    match c.task i with
    | .running (.stmt l locks write next) pending =>
      let view := pending c.shared.db
      if ∀ r ∈ locks view, c.owner r = none ∨ c.owner r = some i then
        some
          { shared := c.shared.note i l view
            owner := lock c.owner i (locks view)
            task := Function.update c.task i (.running (next view) (write view ∘ pending)) }
      else none
    | .running (.commit next) pending =>
      some
        { shared := c.shared.store (pending c.shared.db)
          owner := release c.owner i
          task := Function.update c.task i (.running next id) }
    | .running (.ret a) pending =>
      some
        { shared := c.shared.finish i (.ok a) (pending c.shared.db)
          owner := release c.owner i
          task := Function.update c.task i .ended }
    | .running (.raise e) _ =>
      some
        { shared := c.shared.finish i (.error e) c.shared.db
          owner := release c.owner i
          task := Function.update c.task i .ended }
    | .running (.call q next) pending =>
      some
        { shared := c.shared.send i q
          owner := c.owner
          task := Function.update c.task i (.waiting q next pending) }
    | _ => none
  | .reply i a =>
    match c.task i with
    | .waiting q next pending =>
      (M.answers c.shared.world i q a).map fun w =>
        { shared := c.shared.reply i q a w
          owner := c.owner
          task := Function.update c.task i (.running (next a) pending) }
    | _ => none

/-- The state after a whole schedule; `none` when one of its moves is not possible. -/
def run (c : Config M) : List (Move M) → Option (Config M)
  | [] => some c
  | m :: ms => (c.step m).bind fun c' => c'.run ms

end Config

end DiddiGo.Transactions
