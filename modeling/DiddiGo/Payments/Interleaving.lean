import DiddiGo.Payments.Books
import DiddiGo.Payments.PaymentService
import DiddiGo.Transactions.System

/-!
# Interleaved payment requests

Any number of payment requests that run concurrently against one database and one provider, and the
facts about their common trace that properties of runs refer to.
-/

namespace DiddiGo.Payments

open Data (Json)
open Transactions

/-- What a process runs: a request to the backend, or a method of the repository on its own. -/
inductive Op
  /-- `record_ledger_entry_once`, which no caller uses for entries of withdrawals. -/
  | record (entry : DriverLedgerEntry) (h : entry.entryType.isWithdrawal = false) (now : DateTime)
  /-- `reserve_withdrawal_from_quote`. -/
  | reserve (w : DriverWithdrawal) (now : DateTime)
  /-- `mark_withdrawal_provider_state`. -/
  | mark (id : UUID) (p : ProviderState) (now : DateTime)
  /-- The payout branch of `apply_diddipay_webhook`. -/
  | payoutWebhook (data : Json) (payoutId : UUID) (now : DateTime)
  /-- The third loop of `reconcile_pending`. -/
  | sweepWithdrawals (b : SweepBounds) (now : DateTime)
  /-- `request_withdrawal`. -/
  | withdraw (cfg : Settings) (r : WithdrawalRequest)
  /-- `reconcile_withdrawal`. -/
  | reconcileWithdrawal (id : UUID) (now : DateTime)
  /-- `quote_withdrawal`. -/
  | quote (cfg : Settings) (driverUserId quoteId : UUID) (amount : Decimal) (now : DateTime)
  /-- `create_topup`. -/
  | topup (r : TopupRequest)
  /-- `confirm_cash`. -/
  | confirmCash (rideId : UUID) (amount : Decimal) (collectedBy transactionId : UUID)
      (now : DateTime)
  /-- `prepare_payment`. -/
  | prepare (r : PreparationRequest)
  /-- `apply_diddipay_webhook`. -/
  | webhook (call : WebhookCall)
  /-- `reconcile_pending`. -/
  | sweep (b : SweepBounds) (now : DateTime)
  /-- `reconcile_transaction`. -/
  | reconcileTransaction (rideId : UUID) (now : DateTime)
  /-- `reconcile_topup`. -/
  | reconcileTopup (topupId : UUID) (now : DateTime)

/-- The program of a process; its result does not matter to the others. -/
def Op.action : Op → Action Unit
  | record entry _ now => Prog.ignore (recordLedgerEntryOnce entry now)
  | reserve w now => Prog.ignore (reserveWithdrawalFromQuote w now)
  | mark id p now => Prog.ignore (markWithdrawalProviderState id p now)
  | payoutWebhook data payoutId now => Prog.ignore (applyPayoutWebhook data payoutId now)
  | sweepWithdrawals b now => Prog.ignore (reconcileStaleWithdrawals b now {})
  | withdraw cfg r => Prog.ignore (requestWithdrawal cfg r)
  | reconcileWithdrawal id now => Prog.ignore (Payments.reconcileWithdrawal id now)
  | quote cfg driverUserId quoteId amount now =>
    Prog.ignore (quoteWithdrawal cfg driverUserId quoteId amount now)
  | topup r => Prog.ignore (createTopup r)
  | confirmCash rideId amount collectedBy transactionId now =>
    Prog.ignore (Payments.confirmCash rideId amount collectedBy transactionId now)
  | prepare r => Prog.ignore (preparePayment r)
  | webhook call => Prog.ignore (receiveWebhook call)
  | sweep b now => Prog.ignore (reconcilePending b now)
  | reconcileTransaction rideId now => Prog.ignore (Payments.reconcileTransaction rideId now)
  | reconcileTopup topupId now => Prog.ignore (Payments.reconcileTopup topupId now)

/-- The process may record an entry with `record_ledger_entry_once`. -/
def Op.records : Op → Bool
  | reserve .. | mark .. | payoutWebhook .. | sweepWithdrawals .. | withdraw .. |
    reconcileWithdrawal .. | quote .. => false
  | _ => true

/-- The process is a whole request to the backend. -/
def Op.isRequest : Op → Bool
  | record .. | reserve .. | mark .. | payoutWebhook .. => false
  | _ => true

/-- The identifier that a request draws for a new withdrawal. -/
def Op.newWithdrawal : Op → Option UUID
  | withdraw _ r => some r.withdrawalId
  | _ => none

/-- A set of processes and the services they talk to. -/
structure Scenario (Proc World : Type) where
  op : Proc → Op
  /-- See `Machine.receives`. -/
  receives : World → Proc → Query → World
  /-- See `Machine.answers`. -/
  answers : World → Proc → Query → Answer → Option World
  /-- The provider has taken charge of a payout on the call of a process. -/
  accepted : World → Proc → PayoutRequest → Prop

section

variable {Proc World : Type}

/-- The system of a scenario. -/
abbrev Scenario.machine (σ : Scenario Proc World) : Machine sig where
  Proc := Proc
  World := World
  Out := Unit
  receives := σ.receives
  answers := σ.answers

/-- Nothing has happened yet. -/
def Scenario.initial (σ : Scenario Proc World) (db : PaymentDb) (world : World) :
    Config σ.machine :=
  Config.initial db world fun i => (σ.op i).action

/-- No withdrawal has been made yet. -/
structure Unused (db : PaymentDb) : Prop where
  withdrawals : db.withdrawals = .empty
  ledger : ∀ k e, db.ledger.find? k = some e → e.entryType.isWithdrawal = false
  quotes : ∀ id q, db.quotes.find? id = some q → q.consumedAt = none

end

/-! ## Traces -/

section

variable {M : Machine sig}

/-- Every `UPDATE` of a wallet by `record_ledger_entry_once` finds the balance that its `SELECT` read. -/
def Fresh (trace : List (Event M)) : Prop :=
  ∀ i d read view, Event.stmt i (Label.walletUpdate d read) view ∈ trace →
    PaymentDb.balance view d = read

/-- The event is not such an update, or finds that balance. -/
def isFresh : Event M → Bool
  | .stmt _ (.walletUpdate d read) view => PaymentDb.balance view d = read
  | _ => true

/-- No request finds the quote that it has locked already consumed. -/
def NoReuse (trace : List (Event M)) : Prop :=
  ∀ i q view, Event.stmt i (Label.quoteReused q) view ∉ trace

/-- The event is not such a find. -/
def isFirstUse : Event M → Bool
  | .stmt _ (.quoteReused _) _ => false
  | _ => true

/-- The call failed with a status below 500. -/
def isRejection : Answer → Bool
  | .error (.api e) => e.statusCode < 500
  | _ => false

/-- What a body says about a payout. -/
def payoutBody : Query → Json → Option Json
  | .createPayout _, body | .getPayout _, body | .getPayoutByBusinessReference _, body => some body
  | .callback, body =>
    if ((body.get "data").get "payout_id").truthy then some (body.get "data") else none
  | _, _ => none

/-- The answer says that the payout with the business reference failed or is disputed. -/
def reportsFailure (q : Query) (a : Answer) (businessReference : String) : Prop :=
  ∃ body data, a = .ok body ∧ payoutBody q body = some data ∧
    data.get "business_reference" = .str businessReference ∧
    withdrawalStatusFromDiddipay ((data.get "status").or (.str "")).toStr = some .failed

/-- The event is not an answer about a payout that failed or is disputed. -/
def isNoFailure : Event M → Bool
  | .answered _ q (.ok body) =>
    match payoutBody q body with
    | some data =>
      withdrawalStatusFromDiddipay ((data.get "status").or (.str "")).toStr ≠ some .failed
    | none => true
  | _ => true

/-- The provider has said so. -/
def Reported (trace : List (Event M)) (businessReference : String) : Prop :=
  ∃ i q a, Event.answered i q a ∈ trace ∧ reportsFailure q a businessReference

/-- The business reference of a withdrawal that a request made. -/
def payoutReference (id : UUID) : String := "diddigo:driver_withdrawal:" ++ UUID.str id

/-- The provider has given a reason to release the withdrawal. -/
def Justified (trace : List (Event M)) (id : UUID) : Prop :=
  Reported trace (payoutReference id) ∨
    ∃ i r a, Event.answered i (Query.createPayout r) a ∈ trace ∧ isRejection a ∧ r.withdrawalId = id

end

/-- What a provider promises: only a call of `create_payout` makes it take charge of a payout, when it
receives or answers the call, and never if it rejects it; it reports failures only of payouts it has
taken charge of. -/
structure Honest {Proc World : Type} (σ : Scenario Proc World) : Prop where
  receives : ∀ w j q i r, σ.accepted (σ.receives w j q) i r →
    σ.accepted w i r ∨ (i = j ∧ q = .createPayout r)
  answers : ∀ w j q a w' i r, σ.answers w j q a = some w' → σ.accepted w' i r →
    (σ.accepted w i r ∨ (i = j ∧ q = .createPayout r)) ∧
      ¬ (i = j ∧ q = .createPayout r ∧ isRejection a)
  reports : ∀ w j q a w' b, σ.answers w j q a = some w' → reportsFailure q a b →
    ∃ i r, σ.accepted w' i r ∧ r.businessReference = b

end DiddiGo.Payments
