import DiddiGo.Payments.Interleaving
import DiddiGo.Transactions.RelyGuarantee

/-!
# The discipline of payment requests

The invariant that interleaved payment requests keep, what each of their steps may do, and what the lock
on a row protects, as an instance of rely-guarantee reasoning.
-/

namespace DiddiGo.Payments

open Data (Json)
open Transactions

/-- `w'` is a later version of the row of the same withdrawal: a destination that is set stays, and a
final row can only get a missing destination. -/
structure DriverWithdrawal.Later (w w' : DriverWithdrawal) : Prop where
  sameOrder : w.SameOrder w'
  destination : w.beneficiaryDestination.isSome →
    w'.beneficiaryDestination = w.beneficiaryDestination
  final : w.status.isFinal → w' = { w with beneficiaryDestination := w'.beneficiaryDestination }

/-- The destination of a withdrawal if it is one of the quote. -/
def PaymentDb.destinationOf (db : PaymentDb) (quoteId id : UUID) : Option (Option Json) :=
  ((db.withdrawals.find? id).filter fun w => w.quoteId = quoteId).map (·.beneficiaryDestination)

/-- What the lock on a row protects. The lock on a quote also protects which withdrawals the quote has and
where they go. -/
def sameRow : Row → PaymentDb → PaymentDb → Prop
  | .wallet d, db, db' => db.wallets.find? d = db'.wallets.find? d
  | .ledgerEntry k, db, db' => db.ledger.find? k = db'.ledger.find? k
  | .withdrawal id, db, db' => db.withdrawals.find? id = db'.withdrawals.find? id
  | .quote q, db, db' => db.quotes.find? q = db'.quotes.find? q ∧
      ∀ id, db.destinationOf q id = db'.destinationOf q id
  | _, _, _ => True

/-- The event is part of a call of `create_payout` by process `i`. -/
inductive PayoutCall {M : Machine sig} (i : M.Proc) : Event M → Prop
  | sent (r : PayoutRequest) : PayoutCall i (.sent i (Query.createPayout r))
  | answered (r : PayoutRequest) (a : Answer) : PayoutCall i (.answered i (Query.createPayout r) a)

variable {Proc World : Type} (σ : Scenario Proc World)

/-- What holds of withdrawals and payouts as long as no request reuses a quote. -/
structure Settled (s : Shared σ.machine) : Prop where
  /-- Withdrawals are those of requests. -/
  references : ∀ id w, s.db.withdrawals.find? id = some w →
    w.businessReference = payoutReference id
  /-- A payout is asked for by the request that made the withdrawal. -/
  caller : ∀ i r, Event.sent i (Query.createPayout r) ∈ s.trace →
    (σ.op i).newWithdrawal = some r.withdrawalId
  /-- The provider takes charge only of what it was asked for and has not rejected. -/
  accepted : ∀ i r, σ.accepted s.world i r → Event.sent i (Query.createPayout r) ∈ s.trace ∧
    ∀ a, Event.answered i (Query.createPayout r) a ∈ s.trace → isRejection a = false
  /-- It reports only payouts that it was asked for. -/
  reported : ∀ b, Reported s.trace b →
    ∃ i r, Event.sent i (Query.createPayout r) ∈ s.trace ∧ r.businessReference = b
  /-- A withdrawal is released for a reason. -/
  released : ∀ id w, s.db.withdrawals.find? id = some w → w.status = .released →
    Justified s.trace id

/-- The provider keeps its promises, identifiers of new withdrawals are drawn once, and every process is a
whole request. -/
structure Strict : Prop where
  honest : Honest σ
  distinct : ∀ i j id, (σ.op i).newWithdrawal = some id → (σ.op j).newWithdrawal = some id → i = j
  requests : ∀ i, (σ.op i).isRequest

/-- The invariant. -/
structure Invariant (opening earnedBefore : UUID → Decimal) (s : Shared σ.machine) : Prop where
  books : Books s.db
  quoteBooks : QuoteBooks s.db
  /-- No update of a wallet is lost as long as the unlocked reads are fresh. -/
  balanced : Fresh s.trace → s.db.Balanced opening earnedBefore
  recorded : ∀ i d read view, Event.stmt i (Label.walletUpdate d read) view ∈ s.trace →
    (σ.op i).records
  /-- Every payout was asked for exactly as its withdrawal says. -/
  payouts : ∀ i r, Event.sent i (Query.createPayout r) ∈ s.trace →
    ∃ w, s.db.withdrawals.find? r.withdrawalId = some w ∧ payoutRequest w = r ∧
      w.beneficiaryDestination.isSome
  /-- Only what was asked is answered. -/
  asked : ∀ i r a, Event.answered i (Query.createPayout r) a ∈ s.trace →
    Event.sent i (Query.createPayout r) ∈ s.trace
  settled : Strict σ → NoReuse s.trace → Settled σ s

/-- What every step may do. -/
structure Grows (s s' : Shared σ.machine) : Prop where
  trace : s.trace <+: s'.trace
  ledger : s.db.ledger.rows <+: s'.db.ledger.rows
  wallets : ∀ d, (s.db.wallets.find? d).isSome → (s'.db.wallets.find? d).isSome
  later : ∀ id w, s.db.withdrawals.find? id = some w →
    ∃ w', s'.db.withdrawals.find? id = some w' ∧ w.Later w'

/-- What process `i` tolerates. -/
structure Rely (i : Proc) (s s' : Shared σ.machine) : Prop extends Grows σ s s' where
  /-- Nobody else asks for payouts in its name. -/
  calls : ∀ e, PayoutCall i e → e ∈ s'.trace → e ∈ s.trace

/-- What process `i` may do in one step. -/
structure Guarantee (i : Proc) (s s' : Shared σ.machine) : Prop extends Grows σ s s' where
  calls : ∀ j e, PayoutCall j e → e ∈ s'.trace → e ∈ s.trace ∨ j = i
  /-- A new withdrawal leaves the wallet no debt. -/
  funds : ∀ id w, s.db.withdrawals.find? id = none → s'.db.withdrawals.find? id = some w →
    0 ≤ s'.db.balance w.driverId
  /-- No payout is asked for a released withdrawal. -/
  sends : Strict σ → NoReuse s'.trace → ∀ j r,
    s'.trace = s.trace ++ [Event.sent j (Query.createPayout r)] →
    ∀ w, s.db.withdrawals.find? r.withdrawalId = some w → w.status ≠ .released

end DiddiGo.Payments
