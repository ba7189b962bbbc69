import DiddiGo.Data.Table
import DiddiGo.Payments.Entities
import DiddiGo.Rides.Entities
import DiddiGo.Transactions.Prog

/-!
# The payment database

The tables of the `payment` schema, the rides and driver profiles that payment code reads, and the
vocabulary of the transactions that run against them.
-/

namespace DiddiGo.Payments

open Data (Json Keyed Table)
open Transactions

instance : Keyed Transaction UUID := ⟨Transaction.id⟩
instance : Keyed DriverWallet UUID := ⟨DriverWallet.driverId⟩
instance : Keyed DriverLedgerEntry LedgerKey := ⟨DriverLedgerEntry.ledgerKey⟩
instance : Keyed DriverTopup UUID := ⟨DriverTopup.id⟩
instance : Keyed DriverWithdrawalQuote UUID := ⟨DriverWithdrawalQuote.id⟩
instance : Keyed DriverWithdrawalVerification UUID := ⟨DriverWithdrawalVerification.id⟩
instance : Keyed DriverWithdrawal UUID := ⟨DriverWithdrawal.id⟩
instance : Keyed PassengerDebt UUID := ⟨PassengerDebt.id⟩
instance : Keyed DriverProfile UUID := ⟨DriverProfile.userId⟩
instance : Keyed WebhookEvent String := ⟨WebhookEvent.id⟩

/-- The tables that payment code reads or writes. -/
structure PaymentDb where
  transactions : Table Transaction := .empty
  wallets : Table DriverWallet := .empty
  ledger : Table DriverLedgerEntry := .empty
  topups : Table DriverTopup := .empty
  quotes : Table DriverWithdrawalQuote := .empty
  verifications : Table DriverWithdrawalVerification := .empty
  withdrawals : Table DriverWithdrawal := .empty
  webhookEvents : Table WebhookEvent := .empty
  rides : Table Rides.Ride := .empty
  driverProfiles : Table DriverProfile := .empty
  debts : Table PassengerDebt := .empty

/-- Rows and unique keys that a statement can lock. -/
inductive Row
  | transaction (id : UUID)
  | transactionIntent (paymentIntentId : UUID)
  | transactionKey (idempotencyKey : String)
  | wallet (driverId : UUID)
  | ledgerEntry (key : LedgerKey)
  | topup (id : UUID)
  | topupIntent (paymentIntentId : UUID)
  | topupKey (idempotencyKey : String)
  | quote (id : UUID)
  | verification (id : UUID)
  | withdrawal (id : UUID)
  | withdrawalQuote (quoteId : UUID)
  | withdrawalPayout (payoutId : UUID)
  | withdrawalKey (idempotencyKey : String)
  | webhookEvent (id : String)
  | debt (id : UUID)
  deriving DecidableEq, Repr

/-- Statements that properties of runs refer to. -/
inductive Label
  /-- `UPDATE` of the wallet of `driverId` by code that read the balance `read` without a lock. -/
  | walletUpdate (driverId : UUID) (read : Decimal)
  /-- `SELECT` of the withdrawal of a quote that was already consumed. -/
  | quoteReused (quoteId : UUID)
  deriving DecidableEq, Repr

/-- The body and the idempotency key of `POST /payouts`. -/
structure PayoutRequest where
  businessReference : String
  beneficiaryReference : String
  beneficiaryDestination : Option Json
  amount : Int
  currency : String
  driverId : UUID
  withdrawalId : UUID
  quoteId : UUID
  feesXof : Int
  idempotencyKey : String
  deriving DecidableEq, Repr

/-- The body and the idempotency key of `POST /payment-intents`. -/
structure IntentRequest where
  businessReference : String
  amount : Int
  currency : String
  payerUserId : UUID
  payeeUserId : Option UUID
  network : Option String
  customerEmail : String
  customerPhone : Option String
  returnToken : Option String
  description : String
  metadata : List (String × UUID)
  idempotencyKey : String
  deriving DecidableEq, Repr

/-- Requests to DiddiPay and to the store of browser return contexts, and the wait for the next callback
of DiddiPay. -/
inductive Query
  | createPaymentIntent (request : IntentRequest)
  | getPaymentIntent (id : UUID)
  | createPayout (request : PayoutRequest)
  | getPayout (id : UUID)
  | getPayoutByBusinessReference (businessReference : String)
  | createReturnContext (flow surface : String) (userId resourceId : UUID)
  | bindPaymentIntent (token : String) (paymentIntentId : UUID)
  | callback
  deriving DecidableEq, Repr

/-- What the caller of a client gets: a JSON body (`null` when DiddiPay answers 404 to a read), or an
exception. -/
abbrev Answer := Except Err Json

/-- Payment transactions. -/
abbrev sig : Signature where
  State := PaymentDb
  Row := Row
  Label := Label
  Query := Query
  Answer := Answer
  Err := Err

/-- A program of the payment module. -/
abbrev Action (α : Type) := Prog sig α

/-! ## Statements on single tables -/

namespace PaymentDb

/-- The withdrawal of a quote. -/
def withdrawalOfQuote (db : PaymentDb) (quoteId : UUID) : Option DriverWithdrawal :=
  db.withdrawals.rows.find? fun w => w.quoteId = quoteId

/-- The withdrawal with a payout. -/
def withdrawalOfPayout (db : PaymentDb) (payoutId : UUID) : Option DriverWithdrawal :=
  db.withdrawals.rows.find? fun w => w.payoutId = some payoutId

/-- The balance of a driver; a driver without a wallet has none. -/
def balance (db : PaymentDb) (driverId : UUID) : Decimal :=
  ((db.wallets.find? driverId).map (·.balance)).getD 0

/-- A new wallet without money, unless the driver has one. -/
def openWallet (db : PaymentDb) (driverId : UUID) (currency : String) : PaymentDb :=
  { db with wallets := db.wallets.insert { driverId := driverId, currency := currency } }

/-- A new ledger entry, unless its unique key is taken. -/
def insertEntry (db : PaymentDb) (e : DriverLedgerEntry) : PaymentDb :=
  { db with ledger := db.ledger.insert e }

/-- A wallet object loaded with the balance `old` is flushed with the balance `new`. The ORM writes a
column only if its value changed. -/
def flushWallet (db : PaymentDb) (driverId : UUID) (old new : Decimal) (now : DateTime) : PaymentDb :=
  { db with wallets := db.wallets.update driverId fun w =>
      { w with balance := if new = old then w.balance else new, updatedAt := some now } }

/-- A new withdrawal. -/
def insertWithdrawal (db : PaymentDb) (w : DriverWithdrawal) : PaymentDb :=
  { db with withdrawals := db.withdrawals.insert w }

/-- The quote has been used. -/
def consumeQuote (db : PaymentDb) (quoteId : UUID) (now : DateTime) : PaymentDb :=
  { db with quotes := db.quotes.update quoteId fun q => { q with consumedAt := some now } }

end PaymentDb

end DiddiGo.Payments
