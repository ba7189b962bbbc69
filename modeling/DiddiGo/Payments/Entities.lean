import DiddiGo.Basic

/-!
# Payment entities

Transactions of rides, driver wallets with their ledger, top-ups and withdrawals.
-/

namespace DiddiGo.Payments

open Data (Json)

/-- Status of a ride's transaction. -/
inductive PaymentStatus
  | pending
  | requiresAction
  | processing
  | succeeded
  | failed
  | cancelled
  | partiallyRefunded
  | refunded
  | collected
  | disputed
  deriving DecidableEq, Repr

namespace PaymentStatus

/-- The stored text. -/
def value : PaymentStatus → String
  | pending => "pending"
  | requiresAction => "requires_action"
  | processing => "processing"
  | succeeded => "succeeded"
  | failed => "failed"
  | cancelled => "cancelled"
  | partiallyRefunded => "partially_refunded"
  | refunded => "refunded"
  | collected => "collected"
  | disputed => "disputed"

/-- `PaymentStatus(text)`; `none` is a `ValueError`. -/
def ofString : String → Option PaymentStatus
  | "pending" => some pending
  | "requires_action" => some requiresAction
  | "processing" => some processing
  | "succeeded" => some succeeded
  | "failed" => some failed
  | "cancelled" => some cancelled
  | "partially_refunded" => some partiallyRefunded
  | "refunded" => some refunded
  | "collected" => some collected
  | "disputed" => some disputed
  | _ => none

/-- `PENDING_PAYMENT_STATUSES`: DiddiPay still owns the outcome. -/
def isPending : PaymentStatus → Bool
  | pending | requiresAction | processing => true
  | _ => false

end PaymentStatus

/-- How a transaction or a top-up is paid. -/
inductive PaymentMethod
  | cash
  | mobileMoney
  | wave
  | diddipay
  deriving DecidableEq, Repr

namespace PaymentMethod

/-- The stored text. -/
def value : PaymentMethod → String
  | cash => "cash"
  | mobileMoney => "mobile_money"
  | wave => "wave"
  | diddipay => "diddipay"

/-- `PaymentMethod(text)`; `none` is a `ValueError`. -/
def ofString : String → Option PaymentMethod
  | "cash" => some cash
  | "mobile_money" => some mobileMoney
  | "wave" => some wave
  | "diddipay" => some diddipay
  | _ => none

end PaymentMethod

/-- Direction of a ledger entry. -/
inductive WalletEntryDirection
  | credit
  | debit
  deriving DecidableEq, Repr

/-- Status of a ledger entry. -/
inductive WalletEntryStatus
  | pending
  | confirmed
  | failed
  deriving DecidableEq, Repr

/-- What a ledger entry is about. -/
inductive WalletEntryType
  | ridePayout
  | platformCommission
  | topup
  | adjustment
  | withdrawalReserved
  | withdrawalSucceeded
  | withdrawalReleased
  | refund
  deriving DecidableEq, Repr

namespace WalletEntryType

/-- The stored text. -/
def value : WalletEntryType → String
  | ridePayout => "ride_payout"
  | platformCommission => "platform_commission"
  | topup => "topup"
  | adjustment => "adjustment"
  | withdrawalReserved => "withdrawal_reserved"
  | withdrawalSucceeded => "withdrawal_succeeded"
  | withdrawalReleased => "withdrawal_released"
  | refund => "refund"

/-- The entries written for withdrawals. -/
def isWithdrawal : WalletEntryType → Bool
  | withdrawalReserved | withdrawalSucceeded | withdrawalReleased => true
  | _ => false

end WalletEntryType

/-- Status of a top-up. -/
inductive TopupStatus
  | pending
  | requiresAction
  | processing
  | succeeded
  | failed
  | cancelled
  deriving DecidableEq, Repr

namespace TopupStatus

/-- The stored text. -/
def value : TopupStatus → String
  | pending => "pending"
  | requiresAction => "requires_action"
  | processing => "processing"
  | succeeded => "succeeded"
  | failed => "failed"
  | cancelled => "cancelled"

/-- `PENDING_TOPUP_STATUSES`: DiddiPay still owns the outcome. -/
def isPending : TopupStatus → Bool
  | pending | requiresAction | processing => true
  | _ => false

end TopupStatus

/-- Status of a withdrawal. -/
inductive WithdrawalStatus
  | reserved
  | processing
  | succeeded
  | failed
  | released
  deriving DecidableEq, Repr

/-- What a ledger entry refers to: the `reference_type` texts `ride`, `driver_topup` and
`driver_withdrawal`. -/
inductive ReferenceType
  | ride
  | driverTopup
  | driverWithdrawal
  deriving DecidableEq, Repr

/-- The transaction of a ride. -/
structure Transaction where
  id : UUID
  rideId : UUID
  amount : Decimal
  currency : String := "XOF"
  method : PaymentMethod := .cash
  status : PaymentStatus := .pending
  collectedBy : Option UUID := none
  collectedAt : Option DateTime := none
  createdAt : DateTime
  paymentIntentId : Option UUID := none
  businessReference : Option String := none
  idempotencyKey : Option String := none
  providerStatus : Option String := none
  providerNextAction : Option Json := none
  paidAt : Option DateTime := none
  deriving DecidableEq, Repr

/-- The wallet of a driver. -/
structure DriverWallet where
  driverId : UUID
  balance : Decimal := 0
  currency : String := "XOF"
  updatedAt : Option DateTime := none
  deriving DecidableEq, Repr

/-- A movement in a driver's ledger. -/
structure DriverLedgerEntry where
  driverId : UUID
  amount : Decimal
  currency : String
  direction : WalletEntryDirection
  entryType : WalletEntryType
  status : WalletEntryStatus
  referenceType : ReferenceType
  referenceId : UUID
  description : Option String := none
  createdAt : DateTime
  deriving DecidableEq, Repr

/-- A driver's top-up. -/
structure DriverTopup where
  id : UUID
  driverId : UUID
  amount : Decimal
  currency : String := "XOF"
  method : PaymentMethod := .diddipay
  status : TopupStatus := .pending
  paymentIntentId : Option UUID := none
  businessReference : Option String := none
  idempotencyKey : Option String := none
  providerStatus : Option String := none
  providerNextAction : Option Json := none
  createdAt : DateTime
  paidAt : Option DateTime := none
  deriving DecidableEq, Repr

/-- A priced offer to withdraw. -/
structure DriverWithdrawalQuote where
  id : UUID
  driverId : UUID
  amount : Decimal
  fees : Decimal
  netAmount : Decimal
  currency : String := "XOF"
  expiresAt : DateTime
  consumedAt : Option DateTime := none
  createdAt : DateTime
  deriving DecidableEq, Repr

/-- One-time confirmation tied to a withdrawal destination, never to an auth session. -/
structure DriverWithdrawalVerification where
  id : UUID
  driverId : UUID
  beneficiaryDestination : Json
  recipientPhone : String
  codeHash : String
  expiresAt : DateTime
  attemptCount : Nat := 0
  consumedAt : Option DateTime := none
  createdAt : DateTime
  deriving DecidableEq, Repr

/-- Business state of an unpaid, completed passenger ride. -/
inductive PassengerDebtStatus
  | open | mobileMoneyPending | cashPendingConfirmation | settled
  deriving DecidableEq, Repr

/-- A completed ride that its passenger has not paid. -/
structure PassengerDebt where
  id : UUID
  passengerUserId : UUID
  rideId : UUID
  amount : Decimal
  status : PassengerDebtStatus := .open
  currency : String := "XOF"
  reason : String := "mobile_money_failed"
  createdAt : Option DateTime := none
  updatedAt : Option DateTime := none
  settledAt : Option DateTime := none
  settledBy : Option UUID := none
  deriving DecidableEq, Repr

/-- A withdrawal of a driver. -/
structure DriverWithdrawal where
  id : UUID
  driverId : UUID
  quoteId : UUID
  amount : Decimal
  fees : Decimal
  netAmount : Decimal
  beneficiaryReference : String
  beneficiaryDestination : Option Json := none
  status : WithdrawalStatus := .reserved
  currency : String := "XOF"
  payoutId : Option UUID := none
  businessReference : String
  idempotencyKey : String
  providerStatus : Option String := none
  failureCode : Json := .null
  failureMessage : Json := .null
  createdAt : DateTime
  reservedAt : DateTime
  succeededAt : Option DateTime := none
  releasedAt : Option DateTime := none
  updatedAt : DateTime
  deriving DecidableEq, Repr

/-- The link between an account and its driver profile. -/
structure DriverProfile where
  id : UUID
  userId : UUID
  deriving DecidableEq, Repr

/-- A callback of DiddiPay that has been received. -/
structure WebhookEvent where
  id : String
  paymentIntentId : Option UUID
  eventType : String
  businessReference : Json
  deriving DecidableEq, Repr

/-- The unique key of a ledger entry, `uq_payment_driver_ledger_reference`. -/
structure LedgerKey where
  driverId : UUID
  entryType : WalletEntryType
  referenceType : ReferenceType
  referenceId : UUID
  deriving DecidableEq, Repr

/-- The unique key of the entry. -/
def DriverLedgerEntry.ledgerKey (e : DriverLedgerEntry) : LedgerKey :=
  ⟨e.driverId, e.entryType, e.referenceType, e.referenceId⟩

/-- The signed amount of an entry: credits count positive, debits negative. -/
def DriverLedgerEntry.delta (e : DriverLedgerEntry) : Decimal :=
  match e.direction with
  | .credit => e.amount
  | .debit => -e.amount

end DiddiGo.Payments
