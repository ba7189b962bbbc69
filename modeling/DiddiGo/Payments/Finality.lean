import DiddiGo.Payments.Changes

/-!
# Money already received

What it means that received money stays received, and which callbacks and reconciliations overturn it.
-/

namespace DiddiGo.Payments

open Data (Json Table)

/-- The money of a ride is not there, or not any more. -/
def PaymentStatus.isUnpaid : PaymentStatus → Bool
  | .pending | .requiresAction | .processing | .failed | .cancelled => true
  | _ => false

/-- The money of the ride has been received. -/
def Transaction.IsReceived (t : Transaction) : Prop := t.status = .succeeded ∨ t.status = .collected

/-- The money of the ride has been collected in cash. -/
def Transaction.InCash (t : Transaction) : Prop := t.method = .cash ∧ t.status = .collected

/-- The status takes back what the transaction says: it is unpaid again, or paid through DiddiPay after it
was paid in cash. -/
def Transaction.OverturnedBy (t : Transaction) (status : PaymentStatus) : Prop :=
  status.isUnpaid ∨ t.InCash ∧ status = .succeeded

/-- Money that was received at `db` is still received at `db'`. -/
structure StaysReceived (db db' : PaymentDb) : Prop where
  transactions : ∀ id t, db.transactions.find? id = some t → t.IsReceived →
    ∃ t', db'.transactions.find? id = some t' ∧ ¬ t.OverturnedBy t'.status
  topups : ∀ id t, db.topups.find? id = some t → t.status = .succeeded →
    ∃ t', db'.topups.find? id = some t' ∧ t'.status = .succeeded

/-- The status overturns a transaction that was received at `start`. -/
def OverturnsTransaction (start : PaymentDb) (id : UUID) (status : PaymentStatus) : Prop :=
  ∃ t, start.transactions.find? id = some t ∧ t.IsReceived ∧ t.OverturnedBy status

/-- The status overturns a top-up that had succeeded at `start`. -/
def OverturnsTopup (start : PaymentDb) (id : UUID) (status : PaymentStatus) : Prop :=
  ∃ t, start.topups.find? id = some t ∧ t.status = .succeeded ∧
    topupStatusFromPaymentStatus status ≠ .succeeded

/-- A callback with a new event reports a status that overturns the row it is about. -/
def CallbackOverturns (start db : PaymentDb) (call : WebhookCall) : Prop :=
  ∃ data event intentId status, call.envelope = .ok (data, event) ∧ ¬ Received event.id db ∧
    (data.get "payout_id").truthy = false ∧ event.paymentIntentId = some intentId ∧
    intentStatus data = some status ∧
    ((∃ t, db.transactionsWith intentId = [t] ∧
        CallbackMatches data t.amount t.currency t.businessReference ∧
        OverturnsTransaction start t.id status) ∨
      ∃ t, db.transactionsWith intentId = [] ∧ db.topupsWith intentId = [t] ∧
        CallbackMatches data t.amount t.currency t.businessReference ∧
        OverturnsTopup start t.id status)

/-- DiddiPay reports the status when it is asked about a row. -/
def Reports (ask : Query → Answer) (intentId : Option UUID) (amount : Decimal) (currency : String)
    (reference : Option String) (status : PaymentStatus) : Prop :=
  ∃ intent, Answers ask intentId intent ∧
    intentMismatchReason intent amount currency reference = none ∧ intentStatus intent = some status

/-- A callback or a reconciliation by an administrator applies a status that overturns what was received
at `start`. -/
def Overturns (start : PaymentDb) (c : Call) (db : PaymentDb) : Prop :=
  match c with
  | .request (.webhook call) _ ask =>
    ∃ body, ask .callback = .ok body ∧ CallbackOverturns start db { call with body := some body }
  | .request (.reconcileTransaction rideId _) _ ask =>
    ∃ t status, db.transactionsOf rideId = [t] ∧
      Reports ask t.paymentIntentId t.amount t.currency t.businessReference status ∧
      OverturnsTransaction start t.id status
  | .request (.reconcileTopup id _) _ ask =>
    ∃ t status, db.topups.find? id = some t ∧
      Reports ask t.paymentIntentId t.amount t.currency t.businessReference status ∧
      OverturnsTopup start id status
  | _ => False

/-- No step of the history overturns what was received before it. -/
def NeverOverturns : List Call → PaymentDb → Prop
  | [], _ => True
  | c :: cs, db => EveryStep (fun c s => ¬ Overturns db c s) (c :: cs) db ∧
      NeverOverturns cs (c.after db)

/-!
## Settlement of rides

What it means that every ride whose money was received is settled with its driver, and which steps leave
one unsettled.
-/

/-- The ride has all that its settlement needs. -/
def Settleable (ride : Rides.Ride) : Prop :=
  ride.driverId.isSome ∧ ride.platformCommission.isSome ∧ ride.driverPayoutEstimate.isSome

/-- The key of an entry about a ride. -/
def rideKey (driverId rideId : UUID) (entryType : WalletEntryType) : LedgerKey :=
  ⟨driverId, entryType, .ride, rideId⟩

/-- The entries of one kind about a ride in the ledger of a driver. -/
def PaymentDb.rideEntries (db : PaymentDb) (driverId rideId : UUID) (entryType : WalletEntryType)
    (direction : WalletEntryDirection) : List DriverLedgerEntry :=
  db.ledger.rows.filter fun e => e.ledgerKey = rideKey driverId rideId entryType ∧
    e.direction = direction

/-- Every completed ride that can be settled has its commission debited once if it was collected in cash,
and its payout credited once if its payment through DiddiPay has succeeded. -/
structure SettlementComplete (db : PaymentDb) : Prop where
  cash : ∀ id t ride driverId, db.transactions.find? id = some t →
    db.rides.find? t.rideId = some ride → ride.status = .completed → Settleable ride →
    ride.driverId = some driverId → t.InCash →
    (db.rideEntries driverId t.rideId .platformCommission .debit).length = 1
  digital : ∀ id t ride driverId, db.transactions.find? id = some t →
    db.rides.find? t.rideId = some ride → ride.status = .completed → Settleable ride →
    ride.driverId = some driverId → t.status = .succeeded →
    (db.rideEntries driverId t.rideId .ridePayout .credit).length = 1

/-- The ride module leaves completed rides and their settlement alone. -/
def KeepsCompleted (rides rides' : Table Rides.Ride) : Prop :=
  ∀ id ride, rides.find? id = some ride → ride.status = .completed →
    ∃ ride', rides'.find? id = some ride' ∧ ride'.status = .completed ∧
      ride'.paymentMethod = ride.paymentMethod ∧ ride'.driverId = ride.driverId ∧
      ride'.platformCommission = ride.platformCommission ∧
      ride'.driverPayoutEstimate = ride.driverPayoutEstimate

/-- `prepare_payment` asks DiddiPay to collect, and DiddiPay has the money at once. -/
def PaidAtOnce (ask : Query → Answer) (db : PaymentDb) (rideId : UUID) : Prop :=
  Creates ask .succeeded ∧
    (db.transactionsOf rideId = [] ∨ ∃ t, db.transactionsOf rideId = [t] ∧ canRetry t)

/-- The step settles what it completes: cash is confirmed for cash rides only, and no payment through
DiddiPay has succeeded as soon as it is prepared, unless its ride has its payout already. Only rides that
can be settled count. -/
def Settles (c : Call) (db : PaymentDb) : Prop :=
  match c with
  | .rides rides => KeepsCompleted db.rides rides
  | .request (.confirmCash rideId amount _ _ _) _ _ =>
    ∀ ride, db.rides.find? rideId = some ride → ride.status = .completed → Settleable ride →
      AmountFits ride amount → ride.paymentMethod = .cash
  | .request (.prepare r) _ ask =>
    ∀ ride driverId, db.rides.find? r.rideId = some ride → ride.status = .completed →
      Settleable ride → ride.driverId = some driverId → PaidAtOnce ask db r.rideId →
      (db.ledger.find? (rideKey driverId r.rideId .ridePayout)).isSome
  | _ => True

/-- The ride of the transaction is settled as far as its status calls for. -/
structure RowSettled (db : PaymentDb) (t : Transaction) (ride : Rides.Ride) : Prop where
  found : db.rides.find? t.rideId = some ride
  completed : ride.status = .completed
  digital : t.paymentIntentId.isSome → ride.paymentMethod = .mobileMoney
  method : Settleable ride → t.paymentIntentId.isSome → t.method ≠ .cash
  cash : Settleable ride → ∀ driverId, ride.driverId = some driverId → t.InCash →
    (db.ledger.find? (rideKey driverId t.rideId .platformCommission)).isSome
  paid : Settleable ride → ∀ driverId, ride.driverId = some driverId → t.status = .succeeded →
    (db.ledger.find? (rideKey driverId t.rideId .ridePayout)).isSome

/-- Transactions and the entries about their rides agree. -/
structure SettlementBooks (db : PaymentDb) : Prop where
  rows : ∀ id t, db.transactions.find? id = some t → ∃ ride, RowSettled db t ride
  debits : ∀ k e, db.ledger.find? k = some e → e.entryType = .platformCommission →
    e.direction = .debit
  credits : ∀ k e, db.ledger.find? k = some e → e.entryType = .ridePayout → e.direction = .credit

/-!
## Reconciliation as a replay of the webhook

What it means that the reconciliation of a row does what the callback about it would have done.
-/

/-- The callback and the payment intent say the same. -/
structure SameIntent (data intent : Json) : Prop where
  amount : intent.get "amount" = data.get "amount"
  currency : intent.get "currency" = data.get "currency"
  reference : intent.get "business_reference" = data.get "business_reference"
  status : intent.get "status" = data.get "status"

/-- The two databases hold the same ledger and the same balances. -/
structure SameBooks (db db' : PaymentDb) : Prop where
  ledger : db'.ledger = db.ledger
  balance : ∀ d, db'.balance d = db.balance d

/-- The reconciliation has accepted the intent. -/
def Accepts (res : Except Err ReconciliationReport) : Prop :=
  ∃ report, res = .ok report ∧ report.mismatched = 0 ∧ report.missing = 0 ∧ report.errors = 0

/-- The database after the callback. -/
def WebhookCall.leaves (call : WebhookCall) (ask : Query → Answer) (db : PaymentDb) : PaymentDb :=
  ((applyDiddipayWebhook call).run ask db).2

/-- Reconciling the transaction replays the callback: it accepts what the callback accepts, with the same
effect on the row, the ledger and the balances, and to do both, in either order, is to do one. -/
structure ReplaysTransaction (ask : Query → Answer) (call : WebhookCall) (db : PaymentDb)
    (t : Transaction) : Prop where
  accepts : Accepts ((reconcileStaleTransaction t call.now {}).run ask db).1
  status : (((reconcileStaleTransaction t call.now {}).run ask db).2.transactions.find? t.id).map
      (·.status) = ((call.leaves ask db).transactions.find? t.id).map (·.status)
  books : SameBooks (call.leaves ask db) ((reconcileStaleTransaction t call.now {}).run ask db).2
  webhookFirst : ∀ t', (call.leaves ask db).transactions.find? t.id = some t' → ∀ later,
    SameBooks (call.leaves ask db)
      ((reconcileStaleTransaction t' later {}).run ask (call.leaves ask db)).2
  reconcileFirst : ∀ later,
    SameBooks ((reconcileStaleTransaction t call.now {}).run ask db).2
      (({ call with now := later } : WebhookCall).leaves ask
        ((reconcileStaleTransaction t call.now {}).run ask db).2)

/-- The same for a top-up. -/
structure ReplaysTopup (ask : Query → Answer) (call : WebhookCall) (db : PaymentDb)
    (t : DriverTopup) : Prop where
  accepts : Accepts ((reconcileStaleTopup t call.now {}).run ask db).1
  status : (((reconcileStaleTopup t call.now {}).run ask db).2.topups.find? t.id).map (·.status) =
    ((call.leaves ask db).topups.find? t.id).map (·.status)
  books : SameBooks (call.leaves ask db) ((reconcileStaleTopup t call.now {}).run ask db).2
  webhookFirst : ∀ t', (call.leaves ask db).topups.find? t.id = some t' → ∀ later,
    SameBooks (call.leaves ask db)
      ((reconcileStaleTopup t' later {}).run ask (call.leaves ask db)).2
  reconcileFirst : ∀ later,
    SameBooks ((reconcileStaleTopup t call.now {}).run ask db).2
      (({ call with now := later } : WebhookCall).leaves ask
        ((reconcileStaleTopup t call.now {}).run ask db).2)

/-- What the status calls for is in the ledger. -/
def RideSettled (db : PaymentDb) (rideId : UUID) (status : PaymentStatus) : Prop :=
  ∀ ride e, db.rides.find? rideId = some ride → settlementEntry ride status 0 = some e →
    (db.ledger.find? e.ledgerKey).isSome

/-- A top-up that the status completes has been credited. -/
def TopupSettled (db : PaymentDb) (t : DriverTopup) (status : TopupStatus) : Prop :=
  status = .succeeded → (db.ledger.find? t.creditKey).isSome

/-- The intent says nothing new about the transaction. -/
def Transaction.Agrees (t : Transaction) (intent : Json) : Prop :=
  intentStatus intent = some t.status ∧ nextActionFromIntent intent = t.providerNextAction

/-- The intent says nothing new about the top-up. -/
def DriverTopup.Agrees (t : DriverTopup) (intent : Json) : Prop :=
  (intentStatus intent).map topupStatusFromPaymentStatus = some t.status ∧
    nextActionFromIntent intent = t.providerNextAction

end DiddiGo.Payments
