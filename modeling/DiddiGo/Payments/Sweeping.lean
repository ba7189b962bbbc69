import DiddiGo.Payments.Changes

/-!
# Sweeps over stale rows

`reconcile_pending` goes over three lists of rows. What it makes of a row depends on the row and on the answer about it,
and on nothing that happens to the other rows.
-/

namespace DiddiGo.Payments

open Data (Json)
open Transactions

/-! ## Answers about payouts -/

/-- The state that a payload reports. -/
def reportedState (payload : Json) (payoutId : UUID) (target : WithdrawalStatus) : ProviderState where
  status := target
  payoutId := some payoutId
  providerStatus := ((payload.get "status").or (.str "")).toStr
  failureCode := payload.get "failure_code"
  failureMessage := payload.get "failure_message"

/-- The status that a payload reports. -/
def reportedStatus (payload : Json) : Option WithdrawalStatus :=
  withdrawalStatusFromDiddipay ((payload.get "status").or (.str "")).toStr

/-- The payload is about the net amount and the currency of the withdrawal. -/
def SameMoney (w : DriverWithdrawal) (payload : Json) : Prop :=
  ((payload.get "amount").or (.int (-1))).toInt? = some (Decimal.toInt w.netAmount) ∧
    payload.get "currency" = .str w.currency

/-- The payload names the withdrawal. -/
def SameReference (w : DriverWithdrawal) (payload : Json) : Prop :=
  payload.get "business_reference" = .str w.businessReference

/-! ## Rows -/

/-- A row of the tables that sweeps go over. -/
inductive SweptRow
  | transaction (t : Transaction)
  | topup (t : DriverTopup)
  | withdrawal (w : DriverWithdrawal)

/-- Its key. -/
inductive SweptKey
  | transaction (id : UUID)
  | topup (id : UUID)
  | withdrawal (id : UUID)
  deriving DecidableEq, Repr

namespace SweptRow

/-- The key of the row. -/
def key : SweptRow → SweptKey
  | transaction t => .transaction t.id
  | topup t => .topup t.id
  | withdrawal w => .withdrawal w.id

/-- The body of the loop over such rows. -/
def reconcile (row : SweptRow) (now : DateTime) (report : ReconciliationReport) : Action ReconciliationReport :=
  match row with
  | transaction t => reconcileStaleTransaction t now report
  | topup t => reconcileStaleTopup t now report
  | withdrawal w => reconcileStaleWithdrawal w now report

end SweptRow

namespace PaymentDb

variable (db : PaymentDb) (b : SweepBounds)

/-- The row with the key. -/
def swept : SweptKey → Option SweptRow
  | .transaction id => (db.transactions.find? id).map .transaction
  | .topup id => (db.topups.find? id).map .topup
  | .withdrawal id => (db.withdrawals.find? id).map .withdrawal

/-- What `list_stale_transactions` selects. -/
def staleTransactions : List Transaction :=
  ((db.transactions.rows.filter fun t =>
    t.paymentIntentId.isSome ∧ t.status.isPending ∧ t.createdAt ≤ b.createdBefore ∧
      b.createdAfter ≤ t.createdAt).mergeSort fun x y => x.createdAt ≤ y.createdAt).take b.limit

/-- What `list_stale_topups` selects. -/
def staleTopups : List DriverTopup :=
  ((db.topups.rows.filter fun t =>
    t.paymentIntentId.isSome ∧ t.status.isPending ∧ t.createdAt ≤ b.createdBefore ∧
      b.createdAfter ≤ t.createdAt).mergeSort fun x y => x.createdAt ≤ y.createdAt).take b.limit

/-- What `list_stale_withdrawals` selects. -/
def staleWithdrawals : List DriverWithdrawal :=
  ((db.withdrawals.rows.filter fun w =>
    (w.status = .reserved ∨ w.status = .processing) ∧ w.updatedAt ≤ b.createdBefore).mergeSort
      fun x y => x.updatedAt ≤ y.updatedAt).take b.limit

/-- The rows of a sweep, in its order. -/
def staleRows : List SweptRow :=
  (db.staleTransactions b).map .transaction ++ (db.staleTopups b).map .topup ++
    (db.staleWithdrawals b).map .withdrawal

end PaymentDb

/-! ## What a sweep does -/

/-- The answer about a withdrawal can be read: it is an `ApiError` or nothing, or its amount is a number and, if the
withdrawal is marked with it, its identifier is a UUID. -/
def Legible (ask : Query → Answer) (w : DriverWithdrawal) : Prop :=
  match ask (payoutQuery w) with
  | .error (.api _) => True
  | .error _ => False
  | .ok .null => True
  | .ok payout => (((payout.get "amount").or (.int (-1))).toInt?).isSome ∧
      (SameMoney w payout → SameReference w payout → (reportedStatus payout).isSome →
        (UUID.ofString (payout.get "id").toStr).isSome)

/-- DiddiPay answers with a payout that names the withdrawal. -/
def NamesPayout (ask : Query → Answer) (w : DriverWithdrawal) (payoutId : UUID) : Prop :=
  ∃ payout, ask (payoutQuery w) = .ok payout ∧ SameReference w payout ∧
    UUID.ofString (payout.get "id").toStr = some payoutId

/-- How DiddiPay answers: with objects or nothing, and with a payout of one withdrawal only. -/
structure SoundAnswers (ask : Query → Answer) (db : PaymentDb) : Prop where
  objects : ∀ q body, ask q = .ok body → body = .null ∨ body.isObject = true
  payouts : ∀ w ∈ db.withdrawals.rows, ∀ payoutId, NamesPayout ask w payoutId → ∀ x ∈ db.withdrawals.rows,
    x.payoutId = some payoutId ∨ NamesPayout ask x payoutId → x.id = w.id

/-- The rows that were counted once their outcome was known. -/
def ReconciliationReport.outcomes (report : ReconciliationReport) : Nat :=
  report.updated + report.unchanged + report.missing + report.mismatched + report.errors

/-- All of the rows were checked, each had one outcome, and those that were updated are named. -/
structure ReconciliationReport.Accounts (report : ReconciliationReport) (rows : Nat) : Prop where
  checked : report.checked = rows
  outcomes : report.outcomes = rows
  references : report.updatedReferences.length = report.updated

/-- A sweep from `db` to `db'` has done to each stale row, and to the ledger for it, what its reconciliation alone does,
and has left all others alone. -/
structure SweptAlone (ask : Query → Answer) (b : SweepBounds) (now : DateTime) (db db' : PaymentDb) : Prop where
  rows : ∀ row ∈ db.staleRows b, db'.swept row.key = ((row.reconcile now {}).run ask db).2.swept row.key
  others : ∀ key, (∀ row ∈ db.staleRows b, row.key ≠ key) → db'.swept key = db.swept key
  entries : ∀ k, (db'.ledger.find? k).isSome ↔ (db.ledger.find? k).isSome ∨
    ∃ row ∈ db.staleRows b, (((row.reconcile now {}).run ask db).2.ledger.find? k).isSome

/-- A sweep ends normally if and only if the answers about withdrawals can be read, and then it has treated each row as
if it were alone; otherwise nothing of it is left. -/
structure SweepIsolated (ask : Query → Answer) (b : SweepBounds) (now : DateTime) (db : PaymentDb) : Prop where
  returns : (∃ report, ((reconcilePending b now).run ask db).1 = .ok report) ↔
    ∀ w ∈ db.staleWithdrawals b, Legible ask w
  accounts : ∀ report, ((reconcilePending b now).run ask db).1 = .ok report →
    report.Accounts (db.staleRows b).length
  alone : (∀ w ∈ db.staleWithdrawals b, Legible ask w) →
    SweptAlone ask b now db ((reconcilePending b now).run ask db).2
  undone : (∃ w ∈ db.staleWithdrawals b, ¬ Legible ask w) → ((reconcilePending b now).run ask db).2 = db

end DiddiGo.Payments
