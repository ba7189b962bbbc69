import DiddiGo.Payments.Repository

/-!
# The books

What the wallets, the ledger and the withdrawals are for, in accounting terms: totals over the tables,
and what it means that they agree. Repository code is compared with this, never defined by it.
-/

namespace DiddiGo.Payments

open Data (Table)

/-- What an entry adds to the balance of a driver. The entry of a succeeded withdrawal repeats its
reservation and adds nothing. -/
def DriverLedgerEntry.counted (driverId : UUID) (e : DriverLedgerEntry) : Decimal :=
  if e.driverId = driverId ∧ e.status = .confirmed ∧ e.entryType ≠ .withdrawalSucceeded then e.delta
  else 0

/-- What an entry that is not about a withdrawal adds to the balance of a driver. -/
def DriverLedgerEntry.earned (driverId : UUID) (e : DriverLedgerEntry) : Decimal :=
  if e.driverId = driverId ∧ e.status = .confirmed ∧ e.entryType.isWithdrawal = false then e.delta
  else 0

/-- The amount of a withdrawal if it is the driver's and has one of the given statuses. -/
def DriverWithdrawal.amountIf (driverId : UUID) (p : WithdrawalStatus → Bool)
    (w : DriverWithdrawal) : Decimal :=
  if w.driverId = driverId ∧ p w.status then w.amount else 0

/-- The key of the entry of a withdrawal. -/
def DriverWithdrawal.entryKey (w : DriverWithdrawal) (t : WalletEntryType) : LedgerKey :=
  ⟨w.driverId, t, .driverWithdrawal, w.id⟩

/-- The key of the entry that credits a top-up. -/
def DriverTopup.creditKey (t : DriverTopup) : LedgerKey := ⟨t.driverId, .topup, .driverTopup, t.id⟩

/-- Reserved or processing: the provider still owns the outcome. -/
def WithdrawalStatus.isPending : WithdrawalStatus → Bool
  | .reserved | .processing => true
  | _ => false

/-- The money has left the wallet and has not come back. -/
def WithdrawalStatus.isHeld : WithdrawalStatus → Bool
  | .released => false
  | _ => true

/-- Succeeded and released are final. -/
def WithdrawalStatus.isFinal : WithdrawalStatus → Bool
  | .succeeded | .released => true
  | _ => false

namespace PaymentDb

/-- The signed sum of the confirmed entries of a driver, without those of succeeded withdrawals. -/
def countedTotal (db : PaymentDb) (driverId : UUID) : Decimal := db.ledger.sum (·.counted driverId)

/-- The signed sum of the confirmed entries of a driver that are not about withdrawals. -/
def earnedTotal (db : PaymentDb) (driverId : UUID) : Decimal := db.ledger.sum (·.earned driverId)

/-- The entries of one type about a withdrawal. -/
def entriesOf (db : PaymentDb) (id : UUID) (t : WalletEntryType) : List DriverLedgerEntry :=
  db.ledger.rows.filter fun e => e.entryType = t ∧ e.referenceId = id

/-- What the entries of a driver add to the balance, those that credit the top-up `id` apart. -/
def countedWithout (db : PaymentDb) (id driverId : UUID) : Decimal :=
  db.ledger.sum fun e => if e.entryType = .topup ∧ e.referenceId = id then 0 else e.counted driverId

/-- The sum of the driver's withdrawals with one of the given statuses. -/
def withdrawnTotal (db : PaymentDb) (p : WithdrawalStatus → Bool) (driverId : UUID) : Decimal :=
  db.withdrawals.sum (·.amountIf driverId p)

/-- Every balance is the sum of its entries, and a balance together with what withdrawals hold is the
sum of the entries not about withdrawals; both up to the given offsets. -/
structure Balanced (db : PaymentDb) (opening earnedBefore : UUID → Decimal) : Prop where
  counted : ∀ d, db.balance d = opening d + db.countedTotal d
  held : ∀ d, db.balance d + db.withdrawnTotal WithdrawalStatus.isHeld d =
    earnedBefore d + db.earnedTotal d

end PaymentDb

/-- The withdrawal is the one its quote offers. -/
structure DriverWithdrawal.OfQuote (w : DriverWithdrawal) (q : DriverWithdrawalQuote) : Prop where
  quoteId : w.quoteId = q.id
  driverId : w.driverId = q.driverId
  amount : w.amount = q.amount
  fees : w.fees = q.fees
  netAmount : w.netAmount = q.netAmount
  currency : w.currency = q.currency

/-- `w'` is a later version of the row of the same withdrawal. -/
structure DriverWithdrawal.SameOrder (w w' : DriverWithdrawal) : Prop where
  id : w'.id = w.id
  driverId : w'.driverId = w.driverId
  quoteId : w'.quoteId = w.quoteId
  amount : w'.amount = w.amount
  fees : w'.fees = w.fees
  netAmount : w'.netAmount = w.netAmount
  currency : w'.currency = w.currency
  beneficiaryReference : w'.beneficiaryReference = w.beneficiaryReference
  businessReference : w'.businessReference = w.businessReference
  idempotencyKey : w'.idempotencyKey = w.idempotencyKey

/-- Withdrawals and their ledger entries agree. -/
structure Books (db : PaymentDb) : Prop where
  /-- Every withdrawal has the entry of its reservation. -/
  reserved : ∀ id w, db.withdrawals.find? id = some w →
    ∃ e, db.ledger.find? (w.entryKey .withdrawalReserved) = some e ∧ e.amount = w.amount
  /-- It has the entry of its release exactly when it is released. -/
  released : ∀ id w, db.withdrawals.find? id = some w →
    ((db.ledger.find? (w.entryKey .withdrawalReleased)).isSome ↔ w.status = .released)
  /-- It has the entry of its success exactly when it has succeeded. -/
  succeeded : ∀ id w, db.withdrawals.find? id = some w →
    ((db.ledger.find? (w.entryKey .withdrawalSucceeded)).isSome ↔ w.status = .succeeded)
  /-- A failed payout is stored as a released withdrawal. -/
  notFailed : ∀ id w, db.withdrawals.find? id = some w → w.status ≠ .failed
  /-- Every entry of a withdrawal type belongs to a withdrawal. -/
  owned : ∀ k e, db.ledger.find? k = some e → e.entryType.isWithdrawal →
    ∃ w, db.withdrawals.find? e.referenceId = some w ∧ e.ledgerKey = w.entryKey e.entryType

/-- The entry credits the top-up. -/
structure DriverLedgerEntry.Credits (e : DriverLedgerEntry) (t : DriverTopup) : Prop where
  key : e.ledgerKey = t.creditKey
  amount : e.amount = t.amount
  direction : e.direction = .credit
  status : e.status = .confirmed

/-- Top-ups and their ledger entries agree. -/
structure TopupBooks (db : PaymentDb) : Prop where
  /-- Every entry of a top-up credits a top-up. -/
  owned : ∀ k e, db.ledger.find? k = some e → e.entryType = .topup →
    ∃ t, db.topups.find? e.referenceId = some t ∧ e.Credits t
  /-- Every top-up that has succeeded has been credited. -/
  credited : ∀ id t, db.topups.find? id = some t → t.status = .succeeded →
    (db.ledger.find? t.creditKey).isSome

/-- The top-up has been credited. -/
def Credited (id : UUID) (db : PaymentDb) : Prop :=
  ∃ t, db.topups.find? id = some t ∧ (db.ledger.find? t.creditKey).isSome

/-- The status of the top-up is succeeded. -/
def ToppedUp (id : UUID) (db : PaymentDb) : Prop :=
  ∃ t, db.topups.find? id = some t ∧ t.status = .succeeded

/-- Withdrawals and quotes agree. -/
structure QuoteBooks (db : PaymentDb) : Prop where
  /-- Every withdrawal is the one its quote offers, and the quote is consumed. -/
  quoted : ∀ id w, db.withdrawals.find? id = some w →
    ∃ q, db.quotes.find? w.quoteId = some q ∧ q.consumedAt.isSome ∧ w.OfQuote q
  /-- Every consumed quote has a withdrawal. -/
  consumed : ∀ id q, db.quotes.find? id = some q → q.consumedAt.isSome →
    ∃ id' w, db.withdrawals.find? id' = some w ∧ w.quoteId = id
  /-- A quote has at most one withdrawal. -/
  oncePerQuote : ∀ id id' w w', db.withdrawals.find? id = some w →
    db.withdrawals.find? id' = some w' → w.quoteId = w'.quoteId → id = id'

end DiddiGo.Payments
