import DiddiGo.Data.Expiring
import Mathlib.Logic.Function.Basic

/-!
# The reconciliation loops

Every replica of the server sleeps, takes a lock in Redis, sweeps, and gives the lock back. Calls to Redis may fail, or
succeed without an answer; a replica may be stopped wherever it waits. Time is in milliseconds.
-/

namespace DiddiGo.Payments.Reconciliation

open Data (Lock)

/-- The settings of a replica. -/
structure LoopSettings where
  /-- `payment_reconciliation_interval_seconds`. -/
  intervalSeconds : Nat := 300
  /-- DiddiPay is configured. -/
  configured : Bool := true
  /-- The loop was started with a Redis pool. -/
  withRedis : Bool := true

/-- `interval`, which is also `ttl_seconds`. -/
def LoopSettings.interval (settings : LoopSettings) : Nat := max 30 settings.intervalSeconds * 1000

/-- Where the loop of a replica is; tokens are `κ`. -/
inductive Phase (κ : Type)
  /-- In `asyncio.sleep`. -/
  | sleeping (wakes : Nat)
  /-- About to send `SET NX EX`. -/
  | acquiring
  /-- In `run_reconciliation_once`, without a token if there is no Redis. -/
  | sweeping (token : Option κ) (since : Nat)
  /-- In `finally`; `stops` if the loop was cancelled. -/
  | releasing (token : κ) (stops : Bool)
  | stopped
  deriving DecidableEq, Repr

/-- The replicas and the lock. -/
structure Loops (ρ κ : Type) where
  now : Nat
  /-- What `LOCK_KEY` holds. -/
  lock : Lock κ
  phase : ρ → Phase κ
  /-- The tokens that were drawn. -/
  drawn : List κ

/-- The next thing that happens. -/
inductive LoopMove (ρ κ : Type)
  /-- Time passes. -/
  | tick (elapsed : Nat)
  /-- The sleep is over. -/
  | wake (r : ρ)
  /-- `SET NX EX` with a token that was drawn, and its answer. -/
  | acquire (r : ρ) (token : κ)
  /-- `SET NX EX` without an answer; Redis has executed it if `executed`. -/
  | acquireFails (r : ρ) (token : κ) (executed : Bool)
  /-- The sweep returns or raises. -/
  | finish (r : ρ)
  /-- The script that gives the lock back; it may not be executed. -/
  | release (r : ρ) (executed : Bool)
  /-- The loop is cancelled. -/
  | cancel (r : ρ)

namespace Loops

variable {ρ κ : Type} [DecidableEq ρ] [DecidableEq κ] (settings : ρ → LoopSettings)

/-- Replica `r` goes to the phase. -/
def goTo (c : Loops ρ κ) (r : ρ) (phase : Phase κ) : Loops ρ κ := { c with phase := Function.update c.phase r phase }

/-- The next round of `reconciliation_loop`. -/
def sleep (c : Loops ρ κ) (r : ρ) : Loops ρ κ := c.goTo r (.sleeping (c.now + (settings r).interval))

/-- `SET NX EX` of replica `r`. -/
def setLock (c : Loops ρ κ) (r : ρ) (token : κ) (executed : Bool) : Loops ρ κ :=
  { c with
    lock := if executed then c.lock.take token c.now (settings r).interval else c.lock
    drawn := token :: c.drawn }

/-- One move; `none` when it is not possible. A token is drawn once (`uuid4`). -/
def step (c : Loops ρ κ) : LoopMove ρ κ → Option (Loops ρ κ)
  | .tick elapsed => some { c with now := c.now + elapsed }
  | .wake r =>
    match c.phase r with
    | .sleeping wakes =>
      if c.now < wakes then none
      else if (settings r).configured = false then some (c.sleep settings r)
      else if (settings r).withRedis then some (c.goTo r .acquiring)
      else some (c.goTo r (.sweeping none c.now))
    | _ => none
  | .acquire r token =>
    match c.phase r with
    | .acquiring =>
      if token ∈ c.drawn then none
      else if (c.lock.holder c.now).isSome then some ((c.setLock settings r token true).sleep settings r)
      else some ((c.setLock settings r token true).goTo r (.sweeping (some token) c.now))
    | _ => none
  | .acquireFails r token executed =>
    match c.phase r with
    | .acquiring =>
      if token ∈ c.drawn then none else some ((c.setLock settings r token executed).sleep settings r)
    | _ => none
  | .finish r =>
    match c.phase r with
    | .sweeping none _ => some (c.sleep settings r)
    | .sweeping (some token) _ => some (c.goTo r (.releasing token false))
    | _ => none
  | .release r executed =>
    match c.phase r with
    | .releasing token stops =>
      let c := { c with lock := if executed then c.lock.giveBack token c.now else c.lock }
      some (if stops then c.goTo r .stopped else c.sleep settings r)
    | _ => none
  | .cancel r =>
    match c.phase r with
    | .sleeping _ => some (c.goTo r .stopped)
    | .acquiring => some (c.goTo r .stopped)
    | .sweeping none _ => some (c.goTo r .stopped)
    | .sweeping (some token) _ => some (c.goTo r (.releasing token true))
    | .releasing _ _ => some (c.goTo r .stopped)
    | .stopped => none

/-- The state after a whole schedule; `none` when one of its moves is not possible. -/
def run (c : Loops ρ κ) : List (LoopMove ρ κ) → Option (Loops ρ κ)
  | [] => some c
  | m :: ms => (c.step settings m).bind fun c' => c'.run ms

/-- Every replica has just started its loop. -/
def initial (now : Nat) : Loops ρ κ where
  now := now
  lock := none
  phase := fun r => .sleeping (now + (settings r).interval)
  drawn := []

/-! ## What the lock is for -/

/-- Of two sweeps at once the later one has started when the earlier one had outlived its lease. -/
def Exclusive (c : Loops ρ κ) : Prop :=
  ∀ r r' token token' since since', r ≠ r' → c.phase r = .sweeping (some token) since →
    c.phase r' = .sweeping (some token') since' →
      since + (settings r).interval ≤ since' ∨ since' + (settings r').interval ≤ since

/-- The replica has still to give back a lock with the token. -/
def Owns (c : Loops ρ κ) (r : ρ) (token : κ) : Prop :=
  (∃ since, c.phase r = .sweeping (some token) since) ∨ ∃ stops, c.phase r = .releasing token stops

/-- A lock that is gone after the move has expired, or the move is the release of its owner. -/
def KeepsLocks (c : Loops ρ κ) (m : LoopMove ρ κ) (c' : Loops ρ κ) : Prop :=
  ∀ token, c.lock.holder c.now = some token → c'.lock.holder c'.now = some token ∨
    (∃ elapsed, m = .tick elapsed) ∨ ∃ r, m = .release r true ∧ c.Owns r token ∧ c'.lock = none

end Loops

end DiddiGo.Payments.Reconciliation
