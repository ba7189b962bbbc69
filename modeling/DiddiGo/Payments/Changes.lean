import DiddiGo.Payments.Calls

/-!
# What requests do to the database

The effect of each method and use case as a function on databases, or as a relation between the database
before and after it.
-/

namespace DiddiGo.Payments

open Data (Json Keyed Table)

/-! ## Wallets and ledger -/

/-- The wallet that `openWallet` finds or creates. -/
def PaymentDb.walletOrNew (db : PaymentDb) (driverId : UUID) (currency : String) : DriverWallet :=
  (db.wallets.find? driverId).getD { driverId := driverId, currency := currency }

/-- What a new entry changes: the ledger, and the wallet if the entry is confirmed. -/
def PaymentDb.post (db : PaymentDb) (e : DriverLedgerEntry) (now : DateTime) : PaymentDb :=
  if e.status = .confirmed then
    (db.insertEntry e).flushWallet e.driverId (db.walletOrNew e.driverId e.currency).balance
      ((db.walletOrNew e.driverId e.currency).balance + e.delta) now
  else db.insertEntry e

/-- The entry is recorded unless its key is taken. -/
def PaymentDb.record (db : PaymentDb) (e : DriverLedgerEntry) (now : DateTime) : PaymentDb :=
  if (db.ledger.find? e.ledgerKey).isSome then db.openWallet e.driverId e.currency
  else (db.openWallet e.driverId e.currency).post e now

/-- The entry is recorded if there is one. -/
def PaymentDb.recordSome (db : PaymentDb) (e : Option DriverLedgerEntry) (now : DateTime) : PaymentDb :=
  match e with
  | some e => db.record e now
  | none => db

/-- What a reservation changes, from the balance `old` that it read. -/
def PaymentDb.reserve (db : PaymentDb) (row : DriverWithdrawal) (old : Decimal) (now : DateTime) :
    PaymentDb :=
  (((db.insertWithdrawal row).consumeQuote row.quoteId now).flushWallet row.driverId old
    (old - row.amount) now).insertEntry (reservedEntry row now)

/-- A quote that has not been used. -/
def PaymentDb.insertQuote (db : PaymentDb) (q : DriverWithdrawalQuote) : PaymentDb :=
  { db with quotes := db.quotes.insert q }

/-! ## Transactions of rides -/

/-- The transactions of a ride. -/
def PaymentDb.transactionsOf (db : PaymentDb) (rideId : UUID) : List Transaction :=
  db.transactions.rows.filter fun t => t.rideId = rideId

/-- The transactions with a payment intent. -/
def PaymentDb.transactionsWith (db : PaymentDb) (intentId : UUID) : List Transaction :=
  db.transactions.rows.filter fun t => t.paymentIntentId = some intentId

/-- A new transaction, whose identifiers are new. -/
structure Transaction.Fresh (t : Transaction) (db : PaymentDb) : Prop where
  id : db.transactions.find? t.id = none
  intent : ∀ x ∈ db.transactions.rows, ∀ i, t.paymentIntentId = some i → x.paymentIntentId ≠ some i

/-- A new transaction. -/
def PaymentDb.insertTransaction (db : PaymentDb) (t : Transaction) : PaymentDb :=
  { db with transactions := db.transactions.insert t }

/-- A transaction is rewritten. -/
def PaymentDb.updateTransaction (db : PaymentDb) (id : UUID) (f : Transaction → Transaction)
    (hf : ∀ t, Keyed.key (f t) = Keyed.key t := by exact Keyed.kept fun _ => rfl) : PaymentDb :=
  { db with transactions := db.transactions.update id f hf }

/-- The ride is settled for a transaction with the status. -/
def PaymentDb.settle (db : PaymentDb) (rideId : UUID) (status : PaymentStatus) (now : DateTime) : PaymentDb :=
  db.recordSome ((db.rides.find? rideId).bind fun ride => settlementEntry ride status now) now

/-- What `mark_external_status` writes into the row. -/
def Transaction.marked (t : Transaction) (status : PaymentStatus) (providerStatus : String)
    (paidAt : Option DateTime) (nextAction : Option (Option Json)) : Transaction :=
  { t with
    status := status
    providerStatus := some providerStatus
    paidAt := paidAt.or t.paidAt
    collectedAt := paidAt.or t.collectedAt
    providerNextAction := nextAction.getD t.providerNextAction }

/-- What a status of DiddiPay does to a transaction and its ride. -/
def PaymentDb.applyStatus (db : PaymentDb) (status : PaymentStatus) (providerStatus : String)
    (paidAt : Option DateTime) (nextAction : Option (Option Json)) (now : DateTime)
    (id rideId : UUID) : PaymentDb :=
  (db.updateTransaction id fun t => t.marked status providerStatus paidAt nextAction).settle rideId
    status now

/-- What `update_collected` writes into the row. -/
def Transaction.collect (collectedBy : UUID) (amount : Decimal) (collectedAt : DateTime)
    (t : Transaction) : Transaction :=
  { t with
    collectedBy := some collectedBy
    amount := amount
    collectedAt := some collectedAt
    method := .cash
    status := .collected }

/-- The transaction that cash is collected on: the given one or a new one. -/
def CashTarget (db : PaymentDb) (rideId : UUID) (existing : Option Transaction) (t : Transaction)
    (db₁ : PaymentDb) : Prop :=
  existing = some t ∧ db₁ = db ∨
    existing = none ∧ t.Fresh db ∧ t.rideId = rideId ∧ t.paymentIntentId = none ∧ t.method = .cash ∧
      t.status = .pending ∧ db₁ = db.insertTransaction t

/-- The amount that was collected is close enough to the final fare. -/
def AmountFits (ride : Rides.Ride) (amount : Decimal) : Prop :=
  ∀ expected, ride.finalFare = some expected → ¬ cashTolerance expected < |amount - expected|

/-- What `confirm_cash` does to the database: the transaction of the ride, or a new one, is collected and
the ride is settled. -/
def Confirmed (db : PaymentDb) (rideId collectedBy : UUID) (amount : Decimal) (now : DateTime)
    (db' : PaymentDb) : Prop :=
  ∃ ride, db.rides.find? rideId = some ride ∧ ride.status = .completed ∧ AmountFits ride amount ∧
    ∃ existing, (∀ t, existing = some t → db.transactionsOf rideId = [t]) ∧
      (existing = none → db.transactionsOf rideId = []) ∧
      ∃ t db₁, CashTarget db rideId existing t db₁ ∧
        db' = (db₁.updateTransaction t.id (.collect collectedBy amount now)).recordSome
          (settlementEntry ride .collected now) now

/-- What `prepare_cash_payment` writes into the row. -/
def Transaction.payInCash (t : Transaction) : Transaction :=
  { t with
    method := .cash
    status := .pending
    paymentIntentId := none
    businessReference := none
    idempotencyKey := none
    providerStatus := some "local"
    providerNextAction := none
    paidAt := none }

/-- What `replace_external_intent` writes into the row. -/
def Transaction.collectAgain (intentId : UUID) (idempotencyKey : String) (method : PaymentMethod)
    (status : PaymentStatus) (providerStatus : String) (nextAction : Option Json)
    (t : Transaction) : Transaction :=
  { t with
    paymentIntentId := some intentId
    idempotencyKey := some idempotencyKey
    method := method
    status := status
    providerStatus := some providerStatus
    providerNextAction := nextAction
    paidAt := none
    collectedAt := none }

/-- The status that a created payment intent has from the start. -/
def createdStatus (intent : Json) : Option PaymentStatus :=
  paymentStatusFromDiddipay ((intent.get "status").or (.str "requires_action")).toStr

/-- DiddiPay creates a payment intent with the status. -/
def Creates (ask : Query → Answer) (status : PaymentStatus) : Prop :=
  ∃ request intent, ask (.createPaymentIntent request) = .ok intent ∧
    createdStatus intent = some status

/-- The ride is paid digitally with the method. -/
def PaidBy (db : PaymentDb) (rideId : UUID) (method : PaymentMethod) : Prop :=
  ∃ ride, db.rides.find? rideId = some ride ∧ ride.status = .completed ∧
    ride.paymentMethod.value = method.value ∧ method ≠ .cash

/-- What `prepare_payment` does to the database. -/
inductive Prepared (ask : Query → Answer) (db : PaymentDb) (rideId : UUID) : PaymentDb → Prop
  /-- The transaction is as it should be. -/
  | same : Prepared ask db rideId db
  /-- The first transaction of the ride, in cash. -/
  | cash {t : Transaction} {ride : Rides.Ride} (hrows : db.transactionsOf rideId = [])
      (hride : db.rides.find? rideId = some ride) (hdone : ride.status = .completed)
      (hfresh : t.Fresh db) (hid : t.rideId = rideId) (hmethod : t.method = .cash)
      (hstatus : t.status = .pending) (hintent : t.paymentIntentId = none) :
      Prepared ask db rideId (db.insertTransaction t)
  /-- Cash after a digital payment that came to nothing. -/
  | fallback {t : Transaction} (hrows : db.transactionsOf rideId = [t])
      (hstatus : t.status = .failed ∨ t.status = .cancelled) :
      Prepared ask db rideId (db.updateTransaction t.id Transaction.payInCash)
  /-- The first transaction of the ride, through DiddiPay. -/
  | digital {t : Transaction} (hrows : db.transactionsOf rideId = []) (hfresh : t.Fresh db)
      (hid : t.rideId = rideId) (hmethod : PaidBy db rideId t.method)
      (hstatus : Creates ask t.status) : Prepared ask db rideId (db.insertTransaction t)
  /-- A new payment intent after one that came to nothing. -/
  | again {t : Transaction} {intentId : UUID} {key : String} {method : PaymentMethod}
      {status : PaymentStatus} {providerStatus : String} {nextAction : Option Json}
      (hrows : db.transactionsOf rideId = [t]) (hretry : canRetry t)
      (hmethod : PaidBy db rideId method) (hstatus : Creates ask status)
      (hfresh : ∀ x ∈ db.transactions.rows, x.id ≠ t.id → x.paymentIntentId ≠ some intentId) :
      Prepared ask db rideId (db.updateTransaction t.id
        (.collectAgain intentId key method status providerStatus nextAction))

/-! ## Top-ups -/

/-- The top-ups with a payment intent. -/
def PaymentDb.topupsWith (db : PaymentDb) (intentId : UUID) : List DriverTopup :=
  db.topups.rows.filter fun t => t.paymentIntentId = some intentId

/-- A new top-up. -/
def PaymentDb.insertTopup (db : PaymentDb) (t : DriverTopup) : PaymentDb :=
  { db with topups := db.topups.insert t }

theorem DriverTopup.key_marked (status : TopupStatus) (providerStatus : String) (paidAt : Option DateTime)
    (nextAction : Option (Option Json)) (t : DriverTopup) :
    Keyed.key (t.marked status providerStatus paidAt nextAction) = Keyed.key t := rfl

/-- The row of a top-up is written. -/
def PaymentDb.markTopup (db : PaymentDb) (id : UUID) (status : TopupStatus) (providerStatus : String)
    (paidAt : Option DateTime) (nextAction : Option (Option Json)) : PaymentDb :=
  { db with
    topups := db.topups.update id (fun t => t.marked status providerStatus paidAt nextAction)
      (DriverTopup.key_marked status providerStatus paidAt nextAction) }

/-- A top-up with the status succeeded is credited. -/
def PaymentDb.credit (db : PaymentDb) (t : DriverTopup) (now : DateTime) : PaymentDb :=
  if t.status = .succeeded then db.record (topupEntry t now) now else db

/-! ## Callbacks -/

/-- What the callback says before its event is recorded: its data and the event. -/
def WebhookCall.envelope (call : WebhookCall) : Except Err (Json × WebhookEvent) :=
  let invalid (statusCode : Nat) (message : String) : Err :=
    .api { statusCode := statusCode, code := "PAYMENT_CALLBACK_INVALID", message := message }
  if !call.secretConfigured then
    .error (.api { statusCode := 503, code := "PAYMENT_CONFIGURATION_MISSING"
                   message := "Secret callback DiddiPay non configure." })
  else if !call.signatureValid then .error (invalid 401 "Signature callback DiddiPay invalide.")
  else
    match call.body with
    | none => .error (invalid 422 "Payload callback DiddiPay invalide.")
    | some payload =>
      let data := payload.get "data"
      let intentId := data.get "payment_intent_id"
      let event (id : Option UUID) : WebhookEvent :=
        { id := eventIdOf payload, paymentIntentId := id
          eventType := ((payload.get "type").or (.str "")).toStr
          businessReference := data.get "business_reference" }
      if !payload.isObject then .error (.other "AttributeError")
      else if eventIdOf payload = "" ∨ call.eventIdHeader ≠ some (eventIdOf payload) then
        .error (invalid 422 "Event ID DiddiPay invalide.")
      else if !data.isObject then .error (invalid 422 "Donnees callback DiddiPay manquantes.")
      else if intentId.truthy then
        match UUID.ofString intentId.toStr with
        | some id => .ok (data, event (some id))
        | none => .error .conversion
      else .ok (data, event none)

/-- The event has been recorded. -/
def Received (eventId : String) (db : PaymentDb) : Prop := (db.webhookEvents.find? eventId).isSome

/-- The database with a new event. -/
def PaymentDb.recordEvent (db : PaymentDb) (event : WebhookEvent) : PaymentDb :=
  { db with webhookEvents := db.webhookEvents.insert event }

/-- What a callback does once its event is recorded. -/
def dispatchWebhook (data : Json) (intentId : Option UUID) (now : DateTime) :
    Action WebhookResult := do
  match ← optionalUuid (data.get "payout_id") with
  | some payoutId => applyPayoutWebhook data payoutId now
  | none =>
    match intentId with
    | none => callbackInvalid 422 "PaymentIntent ID manquant."
    | some intentId => applyIntentWebhook data intentId now

/-- The provider status in a body. -/
def providerStatusOf (body : Json) : String := ((body.get "status").or (.str "")).toStr

/-- The status that a body reports. -/
def intentStatus (body : Json) : Option PaymentStatus :=
  paymentStatusFromDiddipay (providerStatusOf body)

/-- When the money was received. -/
def paidAtOf (status : PaymentStatus) (now : DateTime) : Option DateTime :=
  if status = .succeeded then some now else none

/-- A callback is about a row with this amount, currency and reference. -/
def CallbackMatches (data : Json) (amount : Decimal) (currency : String)
    (reference : Option String) : Prop :=
  ((data.get "amount").or (.int (-1))).toInt? = some (Decimal.toInt amount) ∧
    data.get "currency" = .str currency ∧
    data.get "business_reference" = (reference.map Json.str).getD .null

/-- What a callback about a payment intent does. -/
inductive CallbackEffect (db : PaymentDb) (data : Json) (intentId : UUID) (now : DateTime) :
    WebhookResult → PaymentDb → Prop
  | ride {t : Transaction} {status : PaymentStatus} (hrows : db.transactionsWith intentId = [t])
      (hstatus : intentStatus data = some status)
      (hmatch : CallbackMatches data t.amount t.currency t.businessReference) :
      CallbackEffect db data intentId now (.ride intentId)
        (db.applyStatus status (providerStatusOf data) (paidAtOf status now) none now t.id t.rideId)
  | topup {t : DriverTopup} {status : PaymentStatus} (hnone : db.transactionsWith intentId = [])
      (hrows : db.topupsWith intentId = [t]) (hstatus : intentStatus data = some status)
      (hmatch : CallbackMatches data t.amount t.currency t.businessReference) :
      CallbackEffect db data intentId now (.driverTopup intentId)
        ((db.markTopup t.id (topupStatusFromPaymentStatus status) (providerStatusOf data)
          (paidAtOf status now) none).credit
          (t.marked (topupStatusFromPaymentStatus status) (providerStatusOf data)
            (paidAtOf status now) none) now)

/-! ## Reconciliation -/

/-- DiddiPay answers the question about a payment intent by `intent`. -/
def Answers (ask : Query → Answer) (intentId : Option UUID) (intent : Json) : Prop :=
  ∃ id, intentId = some id ∧ ask (.getPaymentIntent id) = .ok intent

/-- What the reconciliation of a transaction does: nothing, or what DiddiPay answers is applied to the
row that is stored. -/
def ReconciledTransaction (ask : Query → Answer) (db : PaymentDb) (t : Transaction) (now : DateTime)
    (db' : PaymentDb) : Prop :=
  db' = db ∨ ∃ intent status x, Answers ask t.paymentIntentId intent ∧
    intentMismatchReason intent t.amount t.currency t.businessReference = none ∧
    intentStatus intent = some status ∧ db.transactions.find? t.id = some x ∧
    db' = db.applyStatus status (providerStatusOf intent) (paidAtOf status now)
      (some (nextActionFromIntent intent)) now t.id x.rideId

/-- The same for a top-up. -/
def ReconciledTopup (ask : Query → Answer) (db : PaymentDb) (t : DriverTopup) (now : DateTime)
    (db' : PaymentDb) : Prop :=
  db' = db ∨ ∃ intent paymentStatus x, Answers ask t.paymentIntentId intent ∧
    intentMismatchReason intent t.amount t.currency t.businessReference = none ∧
    intentStatus intent = some paymentStatus ∧ db.topups.find? t.id = some x ∧
    db' = (db.markTopup t.id (topupStatusFromPaymentStatus paymentStatus) (providerStatusOf intent)
      (if topupStatusFromPaymentStatus paymentStatus = .succeeded then some now else none)
      (some (nextActionFromIntent intent))).credit
        (x.marked (topupStatusFromPaymentStatus paymentStatus) (providerStatusOf intent)
          (if topupStatusFromPaymentStatus paymentStatus = .succeeded then some now else none)
          (some (nextActionFromIntent intent))) now

/-! ## The readers of provider statuses -/

/-- The wallet service and the payment service read the same status from a text, or raise both. -/
def ReadersAgree (text : String) : Prop :=
  walletPaymentStatusFromDiddipay text = paymentStatusFromDiddipay text

/-- The top-up was created from an intent that DiddiPay has answered. -/
def DriverTopup.CreatedFrom (ask : Query → Answer) (intent : Json) (t : DriverTopup) : Prop :=
  (∃ r, ask (.createPaymentIntent r) = .ok intent) ∧
    (∃ id, UUID.ofString (intent.get "id").toStr = some id ∧ t.paymentIntentId = some id) ∧
    ∃ status, walletPaymentStatusFromDiddipay (providerStatusOf intent) = some status ∧
      t.status = topupStatusFromPaymentStatus status

/-- DiddiPay answers every creation of a payment intent by an intent with the status `text`, which it does
not change afterwards. -/
def ReportsOnly (ask : Query → Answer) (text : String) : Prop :=
  ∀ r intent, ask (.createPaymentIntent r) = .ok intent → providerStatusOf intent = text ∧
    ∀ id, UUID.ofString (intent.get "id").toStr = some id → ask (.getPaymentIntent id) = .ok intent

/-- A top-up created from an intent with the status `text` keeps its status when it is reconciled with the
same intent. -/
def TopupStable (text : String) : Prop :=
  ∀ ask, ReportsOnly ask text → ∀ db r now,
    Transactions.Prog.Ensures ask (· = db) (createTopup r) fun t created =>
      Transactions.Prog.Ensures ask (· = created) (reconcileTopup t.id now) fun _ db' =>
        (db'.topups.find? t.id).map (·.status) = some t.status

/-- The text is not empty; and without blanks around it and in lower case it is no status of an expired
intent, and a payment status only if it was one before. -/
def PlainStatus (text : String) : Prop :=
  let normalized := Data.lower (Data.strip text)
  text ≠ "" ∧ normalized ≠ "expired" ∧ normalized ≠ "abandoned" ∧
    (normalized = text ∨ ∀ s : PaymentStatus, normalized ≠ s.value)

end DiddiGo.Payments
