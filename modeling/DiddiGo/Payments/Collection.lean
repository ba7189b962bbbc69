import DiddiGo.Payments.Changes
import DiddiGo.Transactions.Accumulation

/-!
# Collecting the fare of a ride

The requests that move the transaction of a ride or the debt of its passenger, running concurrently, and
when one of them is overtaken between its look for a transaction of the ride and its insert of one.
-/

namespace DiddiGo.Payments

open Transactions

/-- What a process runs. -/
inductive RideOp
  /-- `confirm_cash`. -/
  | confirmCash (rideId : UUID) (amount : Decimal) (collectedBy transactionId : UUID)
      (now : DateTime)
  /-- `prepare_payment`. -/
  | prepare (r : PreparationRequest)
  /-- `prepare_passenger_debt_payment`. -/
  | prepareDebt (r : DebtPaymentRequest)
  /-- `request_passenger_debt_cash_settlement`. -/
  | requestDebtCash (debtId passengerUserId : UUID) (now : DateTime)
  /-- `confirm_passenger_debt_cash_settlement`. -/
  | confirmDebtCash (debtId driverId : UUID) (now : DateTime)
  /-- `apply_diddipay_webhook`. -/
  | webhook (call : WebhookCall)
  /-- `reconcile_pending`. -/
  | sweep (b : SweepBounds) (now : DateTime)
  /-- `reconcile_transaction`. -/
  | reconcileTransaction (rideId : UUID) (now : DateTime)

/-- The program of a process; its result does not matter to the others. -/
def RideOp.action : RideOp → Action Unit
  | confirmCash rideId amount collectedBy transactionId now =>
    Prog.ignore (Payments.confirmCash rideId amount collectedBy transactionId now)
  | prepare r => Prog.ignore (preparePayment r)
  | prepareDebt r => Prog.ignore (preparePassengerDebtPayment r)
  | requestDebtCash debtId passengerUserId now =>
    Prog.ignore (requestPassengerDebtCashSettlement debtId passengerUserId now)
  | confirmDebtCash debtId driverId now =>
    Prog.ignore (confirmPassengerDebtCashSettlement debtId driverId now)
  | webhook call => Prog.ignore (receiveWebhook call)
  | sweep b now => Prog.ignore (reconcilePending b now)
  | reconcileTransaction rideId now => Prog.ignore (Payments.reconcileTransaction rideId now)

/-- The process collects the fare of a ride. -/
def RideOp.collects : RideOp → Bool
  | confirmCash .. | prepare .. | prepareDebt .. => true
  | _ => false

/-- A set of processes and the services they talk to. -/
structure RideScenario (Proc World : Type) where
  op : Proc → RideOp
  /-- See `Machine.receives`. -/
  receives : World → Proc → Query → World
  /-- See `Machine.answers`. -/
  answers : World → Proc → Query → Answer → Option World

variable {Proc World : Type}

/-- The system of a scenario. -/
abbrev RideScenario.machine (σ : RideScenario Proc World) : Machine sig where
  Proc := Proc
  World := World
  Out := Unit
  receives := σ.receives
  answers := σ.answers

/-- Nothing has happened yet. -/
def RideScenario.initial (σ : RideScenario Proc World) (db : PaymentDb) (world : World) :
    Config σ.machine :=
  Config.initial db world fun i => (σ.op i).action

/-! ## One transaction for a ride -/

/-- How many transactions the ride has. -/
def PaymentDb.transactionCount (db : PaymentDb) (rideId : UUID) : Nat :=
  (db.transactionsOf rideId).length

/-- The ride has at most one transaction, so that `find_by_ride_id` returns. -/
structure SingleTransaction (rideId : UUID) (db : PaymentDb) : Prop where
  single : db.transactionCount rideId ≤ 1
  found : ∀ ask, ∃ t, (findByRideId rideId).run ask db = (.ok t, db)

section

variable {σ : RideScenario Proc World} [DecidableEq Proc]

/-- The move publishes a transaction of the ride. -/
def Publishes (rideId : UUID) (c : Config σ.machine) (m : Move σ.machine) : Prop :=
  ∃ c', c.step m = some c' ∧
    c.shared.db.transactionCount rideId < c'.shared.db.transactionCount rideId

/-- A process has made a move, then another one publishes a transaction of the ride, and then the first
one does. -/
def Overtaken (rideId : UUID) (c : Config σ.machine) (ms : List (Move σ.machine)) : Prop :=
  ∃ before first between other rest last later c₂ c₃,
    ms = before ++ first :: between ++ other :: rest ++ last :: later ∧
      RelyGuarantee.mover first = RelyGuarantee.mover last ∧
      RelyGuarantee.mover other ≠ RelyGuarantee.mover last ∧
      c.run (before ++ first :: between) = some c₂ ∧ Publishes rideId c₂ other ∧
      c.run (before ++ first :: between ++ other :: rest) = some c₃ ∧ Publishes rideId c₃ last

end

/-- The changes add at most one transaction of the ride, and none if `b`. -/
structure Adds (rideId : UUID) (b : Prop) (f : PaymentDb → PaymentDb) : Prop where
  least : ∀ db, db.transactionCount rideId ≤ (f db).transactionCount rideId
  most : ∀ db, (f db).transactionCount rideId ≤ db.transactionCount rideId + 1
  none : b → ∀ db, (f db).transactionCount rideId = db.transactionCount rideId

/-- The changes add no transaction of the ride. -/
def AddsNone (rideId : UUID) (f : PaymentDb → PaymentDb) : Prop :=
  ∀ db, (f db).transactionCount rideId = db.transactionCount rideId

/-- If `b`, the ride has a transaction. -/
def HasTransaction (rideId : UUID) (b : Prop) (db : PaymentDb) : Prop :=
  b → 0 < db.transactionCount rideId

/-- What is known of process `i` after a schedule. -/
inductive Searching (σ : RideScenario Proc World) [DecidableEq Proc] (rideId : UUID) (i : Proc)
    (c : Config σ.machine) (ms : List (Move σ.machine)) (c' : Config σ.machine) : Prop
  /-- It has not moved. -/
  | idle (htask : c'.task i = c.task i)
  | ended (htask : c'.task i = .ended)
  /-- It has started when the ride had a transaction, and adds none. -/
  | late (hsome : 0 < c'.shared.db.transactionCount rideId)
      (hadds : c'.Accumulates (HasTransaction rideId True) (Adds rideId True) (fun _ _ => True) i)
  /-- It has moved, and the ride has still no transaction. -/
  | alone (before : List (Move σ.machine)) (first : Move σ.machine) (between : List (Move σ.machine))
      (hms : ms = before ++ first :: between) (hfirst : RelyGuarantee.mover first = i)
      (hnone : c'.shared.db.transactionCount rideId = 0)
  /-- It has moved, and then another process has published a transaction of the ride. -/
  | overtaken (before : List (Move σ.machine)) (first : Move σ.machine)
      (between : List (Move σ.machine)) (other : Move σ.machine) (rest : List (Move σ.machine))
      (c₂ : Config σ.machine) (hms : ms = before ++ first :: between ++ other :: rest)
      (hfirst : RelyGuarantee.mover first = i) (hother : RelyGuarantee.mover other ≠ i)
      (hrun : c.run (before ++ first :: between) = some c₂) (hpub : Publishes rideId c₂ other)

end DiddiGo.Payments
