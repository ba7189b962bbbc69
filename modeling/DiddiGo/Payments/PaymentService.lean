import DiddiGo.Payments.WalletService

/-!
# Payment use cases

Cash remains local. Digital collection goes through DiddiPay's payment intents; only the local link and
status are stored. Callbacks and the reconciliation sweep replay the same state transitions.
-/

namespace DiddiGo.Payments

open Data (Json)
open Transactions

/-- `ride_repo.find_by_id`. -/
def findRideById (rideId : UUID) : Action (Option Rides.Ride) :=
  Prog.select fun (db : PaymentDb) => db.rides.find? rideId

/-! ## Settlement of rides -/

/-- An entry about a ride. -/
def rideEntry (ride : Rides.Ride) (driverId : UUID) (amount : Decimal)
    (direction : WalletEntryDirection) (entryType : WalletEntryType) (description : String)
    (now : DateTime) : DriverLedgerEntry where
  driverId := driverId
  amount := amount
  currency := ride.currency
  direction := direction
  entryType := entryType
  status := .confirmed
  referenceType := .ride
  referenceId := ride.id
  description := some description
  createdAt := now

/-- The commission debited for a ride paid in cash. -/
def commissionEntry (ride : Rides.Ride) (driverId : UUID) (commission : Decimal) (now : DateTime) :
    DriverLedgerEntry :=
  rideEntry ride driverId commission .debit .platformCommission
    "Commission DiddiGo sur course cash" now

/-- The net amount credited for a ride paid digitally. -/
def payoutEntry (ride : Rides.Ride) (driverId : UUID) (payout : Decimal) (now : DateTime) :
    DriverLedgerEntry :=
  rideEntry ride driverId payout .credit .ridePayout "Montant net chauffeur sur course digitale" now

/-- The entry that `_record_ride_settlement` records; it looks at the method chosen when the ride was
created, not at the method of the transaction. -/
def settlementEntry (ride : Rides.Ride) (paymentStatus : PaymentStatus) (now : DateTime) :
    Option DriverLedgerEntry :=
  match ride.driverId, ride.platformCommission, ride.driverPayoutEstimate with
  | some driverId, some commission, some payout =>
    if ride.paymentMethod = .cash ∧ paymentStatus = .collected then
      some (commissionEntry ride driverId commission now)
    else if ride.paymentMethod = .mobileMoney ∧ paymentStatus = .succeeded then
      some (payoutEntry ride driverId payout now)
    else none
  | _, _, _ => none

/-- `_record_ride_settlement`. -/
def recordRideSettlement (ride : Rides.Ride) (paymentStatus : PaymentStatus) (now : DateTime) :
    Action Unit := do
  if let some entry := settlementEntry ride paymentStatus now then
    let _ ← recordLedgerEntryOnce entry now

/-! ## Cash -/

/-- `max(_ABSOLUTE_TOLERANCE, expected * _RELATIVE_TOLERANCE)`. -/
def cashTolerance (expected : Decimal) : Decimal := max 200 (expected * (1 / 10))

/-- `a or b` on amounts: zero counts as missing. -/
def amountOr (a b : Option Decimal) : Option Decimal :=
  match a with
  | some x => if x = 0 then b else some x
  | none => b

/-- No ride has the identifier. -/
def rideNotFound {α : Type} : Action α :=
  apiError 404 "RIDE_NOT_FOUND" "Aucune course trouvee avec cet identifiant."

/-- The amount collected is close enough to the final fare. -/
def checkAmountCollected (finalFare : Option Decimal) (amountCollected : Decimal) : Action Unit :=
  match finalFare with
  | some expected =>
    apiErrorIf (cashTolerance expected < |amountCollected - expected|) 422 "AMOUNT_MISMATCH"
      "Le montant encaisse ne correspond pas au montant final."
  | none => return ()

/-- The transaction of the ride; a new one if there is none. -/
def cashTransaction (ride : Rides.Ride) (existing : Option Transaction) (amountCollected : Decimal)
    (transactionId : UUID) (now : DateTime) : Action Transaction :=
  match existing with
  | some payment => return payment
  | none => do
    let payment : Transaction :=
      { id := transactionId, rideId := ride.id, amount := amountCollected
        currency := ride.currency, method := .cash, status := .pending, createdAt := now }
    saveTransaction payment
    return payment

/-- `confirm_cash`. -/
def confirmCash (rideId : UUID) (amountCollected : Decimal) (collectedBy transactionId : UUID)
    (now : DateTime) : Action Transaction := do
  match ← findRideById rideId with
  | none => rideNotFound
  | some ride =>
    apiErrorIf (ride.status ≠ .completed) 409 "RIDE_NOT_COMPLETED"
      "Impossible de confirmer un paiement avant la fin."
    checkAmountCollected ride.finalFare amountCollected
    let existing ← findByRideId rideId
    let payment ← cashTransaction ride existing amountCollected transactionId now
    let payment ← updateCollected payment.id collectedBy amountCollected now
    recordRideSettlement ride payment.status now
    return payment

/-- `_prepare_cash`. -/
def prepareCash (rideId transactionId : UUID) (now : DateTime) : Action Transaction := do
  match ← findByRideId rideId with
  | none =>
    match ← findRideById rideId with
    | none => rideNotFound
    | some ride =>
      let payment : Transaction :=
        { id := transactionId, rideId := rideId
          amount := (amountOr ride.finalFare ride.estimatedFare).getD 0
          currency := ride.currency, method := .cash, status := .pending, createdAt := now }
      saveTransaction payment
      return payment
  | some payment =>
    if payment.method = .cash then
      return payment
    apiErrorIf (payment.status ≠ .failed ∧ payment.status ≠ .cancelled)
      409 "PAYMENT_OPERATION_CONFLICT"
      "Le paiement Mobile Money en cours doit etre finalise ou echouer avant le choix especes."
    prepareCashPayment payment.id

/-! ## Digital payment -/

/-- A request to prepare the payment of a ride. -/
structure PreparationRequest where
  rideId : UUID
  method : String
  payerUserId : UUID
  customerEmail : Option String := none
  customerPhone : Option String := none
  mobileMoneyNetwork : Option String := none
  /-- The store of return contexts is configured. -/
  returnContexts : Bool
  /-- `Transaction.new_id()`. -/
  transactionId : UUID
  now : DateTime

/-- The second half of `_prepare_diddipay`: DiddiPay is asked to collect, for a new transaction or again
for the one that failed. -/
def collectThroughDiddipay (r : PreparationRequest) (method : PaymentMethod) (customerEmail : String)
    (ride : Rides.Ride) (amount : Decimal) (retrying : Option Transaction) : Action Transaction := do
  let businessReference := "diddigo:ride:" ++ UUID.str r.rideId
  let idempotencyKey := businessReference ++ ":collection:" ++
    match retrying.bind (·.paymentIntentId) with
    | some intentId => "retry:" ++ UUID.str intentId
    | none => "v1"
  let returnToken ←
    createReturnContext r.returnContexts "ride_payment" "consumer" r.payerUserId r.rideId
  let intent ← askOrRaise (.createPaymentIntent
    { businessReference := businessReference
      amount := Decimal.toInt amount
      currency := ride.currency
      payerUserId := r.payerUserId
      payeeUserId := ride.driverId
      network := r.mobileMoneyNetwork
      customerEmail := customerEmail
      customerPhone := r.customerPhone
      returnToken := returnToken
      description := "Course DiddiGo " ++ UUID.str r.rideId
      metadata := [("ride_id", r.rideId)]
      idempotencyKey := idempotencyKey })
  let status ← statusOrRaise paymentStatusFromDiddipay
    ((intent.get "status").or (.str "requires_action")).toStr
  let paymentIntentId ← uuidOf (intent.get "id")
  bindReturnContext returnToken paymentIntentId
  let nextAction := nextActionFromIntent intent
  let providerStatus := ((intent.get "status").or (.str status.value)).toStr
  match retrying with
  | some t =>
    replaceExternalIntent t.id paymentIntentId idempotencyKey method status providerStatus nextAction
  | none =>
    let amount ← decimalOr (intent.get "amount") amount
    let payment : Transaction :=
      { id := r.transactionId
        rideId := r.rideId
        amount := amount
        currency := ((intent.get "currency").or (.str ride.currency)).toStr
        method := method
        status := status
        createdAt := r.now
        paymentIntentId := some paymentIntentId
        businessReference := some businessReference
        idempotencyKey := some idempotencyKey
        providerStatus := some providerStatus
        providerNextAction := nextAction
        paidAt := if status = .succeeded then some r.now else none }
    saveTransaction payment
    return payment

/-- A transaction whose payment intent failed can be tried again. -/
def canRetry (t : Transaction) : Bool :=
  t.paymentIntentId.isSome ∧ (t.status = .failed ∨ t.status = .cancelled)

/-- `_prepare_diddipay`. -/
def prepareDiddipay (r : PreparationRequest) (method : PaymentMethod) (customerEmail : String) :
    Action Transaction := do
  match ← findRideById r.rideId with
  | none => rideNotFound
  | some ride =>
    let amount ← getOrRaise ((amountOr ride.finalFare ride.estimatedFare).filter (0 < ·)) (.api
      { statusCode := 409, code := "PAYMENT_OPERATION_CONFLICT"
        message := "Montant de course indisponible." })
    match ← findByRideId r.rideId with
    | none => collectThroughDiddipay r method customerEmail ride amount none
    | some t =>
      if t.paymentIntentId.isSome ∧ !canRetry t then
        return t
      apiErrorIf (!canRetry t) 409 "PAYMENT_OPERATION_CONFLICT"
        "Une transaction locale existe deja pour cette course."
      collectThroughDiddipay r method customerEmail ride amount (some t)

/-- The address for DiddiPay: the given one, or one made of the digits of the phone number. -/
def customerEmailOr (email phone : Option String) : Option String :=
  match email.filter (· ≠ ""), phone.filter (· ≠ "") with
  | some e, _ => some e
  | none, some p => some (String.ofList (p.toList.filter Char.isDigit) ++ "@diddifree.com")
  | none, none => none

/-- `prepare_payment`. -/
def preparePayment (r : PreparationRequest) : Action Transaction := do
  match ← findRideById r.rideId with
  | none => rideNotFound
  | some ride =>
    apiErrorIf (ride.passengerUserId ≠ r.payerUserId) 403 "RIDE_NOT_OWNED_BY_USER"
      "Cette course ne vous appartient pas."
    apiErrorIf (ride.status ≠ .completed) 409 "RIDE_NOT_COMPLETED"
      "Le paiement ne peut etre prepare qu'apres la fin de la course."
      (.ofMembers [("ride_status", .str ride.status.value)])
    apiErrorIf ((ride.finalFare.filter (0 < ·)).isNone) 409 "PAYMENT_OPERATION_CONFLICT"
      "Le montant final de la course est indisponible."
    let method ← getOrRaise (PaymentMethod.ofString r.method) (.api
      { statusCode := 422, code := "INVALID_PAYMENT_METHOD"
        message := "Methode de paiement invalide." })
    if method = .cash then
      return ← prepareCash r.rideId r.transactionId r.now
    apiErrorIf (ride.paymentMethod.value ≠ method.value) 409 "PAYMENT_OPERATION_CONFLICT"
      ("La methode de paiement doit correspondre au choix effectue lors de la creation de la " ++
        "course.")
    apiErrorIf (method = .mobileMoney ∧
        r.mobileMoneyNetwork ∉ [some "orange", some "wave", some "mtn", some "moov"])
      422 "INVALID_PAYMENT_METHOD" "Un reseau mobile money valide est requis."
      (.ofMembers [("field", .str "mobile_money_network")])
    let email ← getOrRaise (customerEmailOr r.customerEmail r.customerPhone) (.api
      { statusCode := 422, code := "PAYMENT_EMAIL_REQUIRED"
        message := "Un email client est requis pour initialiser un paiement DiddiPay/Paystack."
        details := .ofMembers [("field", .str "customer_email")] })
    prepareDiddipay r method email

/-! ## Passenger debts -/

/-- `_fallback_customer_email`. -/
def fallbackCustomerEmail (phone : Option String) : Action String :=
  let normalized := (phone.getD "").toList.filter Char.isDigit
  if normalized = [] then
    apiError 422 "PAYMENT_EMAIL_REQUIRED" "Un email ou numero client est requis."
  else return String.ofList normalized ++ "@diddifree.com"

/-- No debt has the identifier. -/
def debtNotFound {α : Type} : Action α :=
  apiError 404 "PASSENGER_DEBT_NOT_FOUND" "Dette passager introuvable."

/-- `_owned_open_debt`. -/
def ownedOpenDebt (debtId passengerUserId : UUID) : Action PassengerDebt := do
  match ← findDebtById debtId with
  | none => debtNotFound
  | some debt =>
    apiErrorIf (debt.passengerUserId ≠ passengerUserId) 403 "RIDE_NOT_OWNED_BY_USER"
      "Cette dette ne vous appartient pas."
    apiErrorIf (debt.status = .settled) 409 "PASSENGER_DEBT_SETTLEMENT_INVALID"
      "Cette dette est deja reglee."
    return debt

/-- A request to pay a debt by mobile money. -/
structure DebtPaymentRequest where
  debtId : UUID
  passengerUserId : UUID
  customerEmail : Option String := none
  customerPhone : Option String := none
  mobileMoneyNetwork : String
  /-- The store of return contexts is configured. -/
  returnContexts : Bool
  /-- `Transaction.new_id()`. -/
  transactionId : UUID
  now : DateTime

/-- The collection that a request to pay a debt asks for. -/
def DebtPaymentRequest.preparation (r : DebtPaymentRequest) (rideId : UUID) : PreparationRequest where
  rideId := rideId
  method := "mobile_money"
  payerUserId := r.passengerUserId
  customerEmail := r.customerEmail
  customerPhone := r.customerPhone
  mobileMoneyNetwork := some r.mobileMoneyNetwork
  returnContexts := r.returnContexts
  transactionId := r.transactionId
  now := r.now

/-- `customer_email or _fallback_customer_email(customer_phone)`. -/
def debtCustomerEmail (r : DebtPaymentRequest) : Action String :=
  match r.customerEmail.filter (· ≠ "") with
  | some email => return email
  | none => fallbackCustomerEmail r.customerPhone

/-- `prepare_passenger_debt_payment`. -/
def preparePassengerDebtPayment (r : DebtPaymentRequest) : Action Transaction := do
  let debt ← ownedOpenDebt r.debtId r.passengerUserId
  let email ← debtCustomerEmail r
  let payment ← prepareDiddipay (r.preparation debt.rideId) .mobileMoney email
  let _ ← updateDebtStatus debt .mobileMoneyPending none r.now
  return payment

/-- `request_passenger_debt_cash_settlement`. -/
def requestPassengerDebtCashSettlement (debtId passengerUserId : UUID) (now : DateTime) :
    Action PassengerDebt := do
  let debt ← ownedOpenDebt debtId passengerUserId
  updateDebtStatus debt .cashPendingConfirmation none now

/-- `confirm_passenger_debt_cash_settlement`. -/
def confirmPassengerDebtCashSettlement (debtId driverId : UUID) (now : DateTime) :
    Action PassengerDebt := do
  match ← findDebtById debtId with
  | none => debtNotFound
  | some debt =>
    apiErrorIf (debt.status ≠ .cashPendingConfirmation) 409 "PASSENGER_DEBT_SETTLEMENT_INVALID"
      "Cette dette n'attend pas une confirmation d'especes."
    let ride ← findRideById debt.rideId
    apiErrorIf ((ride.bind (·.driverId)) ≠ some driverId) 403 "RIDE_NOT_OWNED_BY_USER"
      "Seul le chauffeur de cette course peut confirmer."
    updateDebtStatus debt .settled (some (now, driverId)) now

/-! ## Applying provider statuses -/

/-- `_apply_transaction_status`. -/
def applyTransactionStatus (payment : Transaction) (status : PaymentStatus) (providerStatus : String)
    (paidAt : Option DateTime) (nextAction : Option (Option Json)) (now : DateTime) :
    Action Transaction := do
  let payment ← markExternalStatus payment.id status providerStatus paidAt nextAction
  if let some ride ← findRideById payment.rideId then
    recordRideSettlement ride payment.status now
  return payment

/-- `_apply_topup_status`, which credits with `_credit_driver_topup`. -/
def applyTopupStatus (topup : DriverTopup) (status : TopupStatus) (providerStatus : String)
    (paidAt : Option DateTime) (nextAction : Option (Option Json)) (now : DateTime) :
    Action DriverTopup := do
  let topup ← markTopupStatus topup.id status providerStatus paidAt nextAction
  if topup.status = .succeeded then
    let _ ← recordLedgerEntryOnce (topupEntry topup now) now
  return topup

/-! ## Webhooks -/

/-- A callback as it reaches the backend. -/
structure WebhookCall where
  /-- The callback secret is configured. -/
  secretConfigured : Bool
  /-- The signature is the HMAC of the raw body. -/
  signatureValid : Bool
  /-- The parsed body; `none` if it is not JSON. -/
  body : Option Json
  eventIdHeader : Option String
  now : DateTime

/-- What a callback led to. -/
inductive WebhookResult
  | duplicate
  | payout (payoutId : UUID)
  | ride (paymentIntentId : UUID)
  | driverTopup (paymentIntentId : UUID)
  deriving DecidableEq, Repr

/-- A malformed callback. -/
def callbackInvalid {α : Type} (statusCode : Nat) (message : String) : Action α :=
  apiError statusCode "PAYMENT_CALLBACK_INVALID" message

/-- The callback is malformed if `c` holds. -/
def callbackInvalidIf (c : Prop) [Decidable c] (statusCode : Nat) (message : String) :
    Action Unit :=
  apiErrorIf c statusCode "PAYMENT_CALLBACK_INVALID" message

/-- `UUID(str(j)) if j else None`. -/
def optionalUuid (j : Json) : Action (Option UUID) :=
  if j.truthy then do
    let id ← uuidOf j
    return some id
  else return none

/-- The withdrawal that a callback is about, by its payout or else by its business reference. -/
def findWithdrawalOfCallback (data : Json) (payoutId : UUID) : Action (Option DriverWithdrawal) := do
  match ← findWithdrawalByPayoutId payoutId with
  | some w => return some w
  | none =>
    if (data.get "business_reference").truthy then
      findWithdrawalByBusinessReference (data.get "business_reference").toStr
    else return none

/-- The payout branch of `apply_diddipay_webhook`. -/
def applyPayoutWebhook (data : Json) (payoutId : UUID) (now : DateTime) : Action WebhookResult := do
  match ← findWithdrawalOfCallback data payoutId with
  | none => apiError 404 "WITHDRAWAL_NOT_FOUND" "Retrait chauffeur introuvable."
  | some w =>
    apiErrorIf (data.get "business_reference" ≠ .str w.businessReference)
      409 "WITHDRAWAL_REFERENCE_MISMATCH" "Reference payout DiddiPay incoherente."
    let providerStatus := ((data.get "status").or (.str "")).toStr
    let target ← getOrRaise (withdrawalStatusFromDiddipay providerStatus) (.api
      { statusCode := 422, code := "WITHDRAWAL_STATUS_INVALID"
        message := "Statut payout DiddiPay invalide." })
    let _ ← markWithdrawalProviderState w.id
      { status := target
        payoutId := some payoutId
        providerStatus := providerStatus
        failureCode := data.get "failure_code"
        failureMessage := data.get "failure_message" } now
    return .payout payoutId

/-- The payment intent branch of `apply_diddipay_webhook`. -/
def applyIntentWebhook (data : Json) (intentId : UUID) (now : DateTime) : Action WebhookResult := do
  let providerStatus := ((data.get "status").or (.str "")).toStr
  let status ← statusOrRaise paymentStatusFromDiddipay providerStatus
  let paidAt := if status = .succeeded then some now else none
  match ← findByPaymentIntentId intentId with
  | some payment =>
    let amount ← intOrMinusOne (data.get "amount")
    apiErrorIf (amount ≠ Decimal.toInt payment.amount ∨ data.get "currency" ≠ .str payment.currency)
      409 "PAYMENT_OPERATION_CONFLICT" "Montant ou devise DiddiPay incoherent."
    apiErrorIf (data.get "business_reference" ≠ (payment.businessReference.map Json.str).getD .null)
      409 "PAYMENT_OPERATION_CONFLICT" "Reference metier DiddiPay incoherente."
    let _ ← applyTransactionStatus payment status providerStatus paidAt none now
    return .ride intentId
  | none =>
    match ← findTopupByPaymentIntentId intentId with
    | none => apiError 404 "PAYMENT_INTENT_NOT_FOUND" "Paiement DiddiGo introuvable."
    | some topup =>
      let amount ← intOrMinusOne (data.get "amount")
      apiErrorIf (amount ≠ Decimal.toInt topup.amount ∨ data.get "currency" ≠ .str topup.currency)
        409 "PAYMENT_OPERATION_CONFLICT" "Montant ou devise DiddiPay incoherent."
      apiErrorIf (data.get "business_reference" ≠ (topup.businessReference.map Json.str).getD .null)
        409 "PAYMENT_OPERATION_CONFLICT" "Reference metier DiddiPay incoherente."
      let _ ← applyTopupStatus topup (topupStatusFromPaymentStatus status) providerStatus paidAt none
        now
      return .driverTopup intentId

/-- `apply_diddipay_webhook`. -/
def applyDiddipayWebhook (call : WebhookCall) : Action WebhookResult := do
  apiErrorIf (!call.secretConfigured) 503 "PAYMENT_CONFIGURATION_MISSING"
    "Secret callback DiddiPay non configure."
  callbackInvalidIf (!call.signatureValid) 401 "Signature callback DiddiPay invalide."
  match call.body with
  | none => callbackInvalid 422 "Payload callback DiddiPay invalide."
  | some payload =>
    Prog.raiseIf (!payload.isObject) (.other "AttributeError")
    let eventId := ((payload.get "id").or (.str "")).toStr
    callbackInvalidIf (eventId = "" ∨ call.eventIdHeader ≠ some eventId)
      422 "Event ID DiddiPay invalide."
    let data := payload.get "data"
    callbackInvalidIf (!data.isObject) 422 "Donnees callback DiddiPay manquantes."
    let intentId ← optionalUuid (data.get "payment_intent_id")
    let stored ← recordWebhookEvent
      { id := eventId
        paymentIntentId := intentId
        eventType := ((payload.get "type").or (.str "")).toStr
        businessReference := data.get "business_reference" }
    if !stored then
      return .duplicate
    match ← optionalUuid (data.get "payout_id") with
    | some payoutId => applyPayoutWebhook data payoutId call.now
    | none =>
      match intentId with
      | none => callbackInvalid 422 "PaymentIntent ID manquant."
      | some intentId => applyIntentWebhook data intentId call.now

/-- The backend is called back with the next body that DiddiPay sends. -/
def receiveWebhook (call : WebhookCall) : Action WebhookResult := do
  let body ← askOrRaise .callback
  applyDiddipayWebhook { call with body := some body }

/-! ## Reconciliation -/

/-- Outcome of one reconciliation sweep. -/
structure ReconciliationReport where
  checked : Nat := 0
  updated : Nat := 0
  unchanged : Nat := 0
  missing : Nat := 0
  mismatched : Nat := 0
  errors : Nat := 0
  updatedReferences : List String := []
  deriving DecidableEq, Repr

/-- `_read_intent`: any failure is a counted outcome. -/
def readIntent (paymentIntentId : Option UUID) (report : ReconciliationReport) :
    Action (Option Json × ReconciliationReport) := do
  match paymentIntentId with
  | none => return (none, { report with missing := report.missing + 1 })
  | some id =>
    match ← Prog.ask (S := sig) (.getPaymentIntent id) with
    | .error _ => return (none, { report with errors := report.errors + 1 })
    | .ok .null => return (none, { report with missing := report.missing + 1 })
    | .ok intent => return (some intent, report)

/-- `_reconcile_transaction`. -/
def reconcileStaleTransaction (payment : Transaction) (now : DateTime)
    (report : ReconciliationReport) : Action ReconciliationReport := do
  let reference := payment.businessReference.getD ("diddigo:ride:" ++ UUID.str payment.rideId)
  let (intent, report) ←
    readIntent payment.paymentIntentId { report with checked := report.checked + 1 }
  match intent with
  | none => return report
  | some intent =>
    if (intentMismatchReason intent payment.amount payment.currency
        payment.businessReference).isSome then
      return { report with mismatched := report.mismatched + 1 }
    let providerStatus := ((intent.get "status").or (.str "")).toStr
    match paymentStatusFromDiddipay providerStatus with
    | none => return { report with errors := report.errors + 1 }
    | some status =>
      let nextAction := nextActionFromIntent intent
      if status = payment.status ∧ nextAction = payment.providerNextAction then
        return { report with unchanged := report.unchanged + 1 }
      let _ ← applyTransactionStatus payment status providerStatus
        (if status = .succeeded then some now else none) (some nextAction) now
      return { report with
        updated := report.updated + 1
        updatedReferences := report.updatedReferences ++ [reference] }

/-- `_reconcile_topup`. -/
def reconcileStaleTopup (topup : DriverTopup) (now : DateTime) (report : ReconciliationReport) :
    Action ReconciliationReport := do
  let reference := topup.businessReference.getD ("diddigo:driver_topup:" ++ UUID.str topup.id)
  let (intent, report) ←
    readIntent topup.paymentIntentId { report with checked := report.checked + 1 }
  match intent with
  | none => return report
  | some intent =>
    if (intentMismatchReason intent topup.amount topup.currency topup.businessReference).isSome then
      return { report with mismatched := report.mismatched + 1 }
    let providerStatus := ((intent.get "status").or (.str "")).toStr
    match paymentStatusFromDiddipay providerStatus with
    | none => return { report with errors := report.errors + 1 }
    | some paymentStatus =>
      let status := topupStatusFromPaymentStatus paymentStatus
      let nextAction := nextActionFromIntent intent
      if status = topup.status ∧ nextAction = topup.providerNextAction then
        return { report with unchanged := report.unchanged + 1 }
      let _ ← applyTopupStatus topup status providerStatus
        (if status = .succeeded then some now else none) (some nextAction) now
      return { report with
        updated := report.updated + 1
        updatedReferences := report.updatedReferences ++ [reference] }

/-- `_reconcile_withdrawal`. -/
def reconcileStaleWithdrawal (w : DriverWithdrawal) (now : DateTime)
    (report : ReconciliationReport) : Action ReconciliationReport := do
  let report := { report with checked := report.checked + 1 }
  match ← Prog.ask (S := sig) (payoutQuery w) with
  | .error (.api _) => return { report with errors := report.errors + 1 }
  | .error e => throw e
  | .ok .null => return { report with missing := report.missing + 1 }
  | .ok payout =>
    let amount ← intOrMinusOne (payout.get "amount")
    if amount ≠ Decimal.toInt w.netAmount ∨ payout.get "currency" ≠ .str w.currency ∨
        payout.get "business_reference" ≠ .str w.businessReference then
      return { report with mismatched := report.mismatched + 1 }
    let providerStatus := ((payout.get "status").or (.str "")).toStr
    match withdrawalStatusFromDiddipay providerStatus with
    | none => return { report with errors := report.errors + 1 }
    | some target =>
      let payoutId ← uuidOf (payout.get "id")
      let updated ← markWithdrawalProviderState w.id
        { status := target
          payoutId := some payoutId
          providerStatus := providerStatus
          failureCode := payout.get "failure_code"
          failureMessage := payout.get "failure_message" } now
      if updated.status = w.status then
        return { report with unchanged := report.unchanged + 1 }
      return { report with
        updated := report.updated + 1
        updatedReferences := report.updatedReferences ++ [w.businessReference] }

/-- The bounds of one sweep. -/
structure SweepBounds where
  createdBefore : DateTime
  createdAfter : DateTime
  limit : Nat

/-- The first loop of `reconcile_pending`. -/
def reconcileStaleTransactions (b : SweepBounds) (now : DateTime) (report : ReconciliationReport) :
    Action ReconciliationReport := do
  let transactions ← listStaleTransactions b.createdBefore b.createdAfter b.limit
  transactions.foldlM (fun report payment => reconcileStaleTransaction payment now report) report

/-- The second loop of `reconcile_pending`. -/
def reconcileStaleTopups (b : SweepBounds) (now : DateTime) (report : ReconciliationReport) :
    Action ReconciliationReport := do
  let topups ← listStaleTopups b.createdBefore b.createdAfter b.limit
  topups.foldlM (fun report topup => reconcileStaleTopup topup now report) report

/-- The third loop of `reconcile_pending`. -/
def reconcileStaleWithdrawals (b : SweepBounds) (now : DateTime) (report : ReconciliationReport) :
    Action ReconciliationReport := do
  let withdrawals ← listStaleWithdrawals b.createdBefore b.limit
  withdrawals.foldlM (fun report w => reconcileStaleWithdrawal w now report) report

/-- The bounds `reconcile_pending` computes from the settings. -/
def sweepBounds (cfg : Settings) (limit minAgeSeconds maxAgeSeconds : Option Nat) (now : DateTime) :
    SweepBounds where
  createdBefore := now - minAgeSeconds.getD cfg.paymentReconciliationMinAgeSeconds * 1000000
  createdAfter := now - maxAgeSeconds.getD cfg.paymentReconciliationMaxAgeSeconds * 1000000
  limit := limit.getD cfg.paymentReconciliationBatchSize

/-- `reconcile_pending`: re-read every intent still awaiting a callback and apply its state. -/
def reconcilePending (b : SweepBounds) (now : DateTime) : Action ReconciliationReport := do
  let report ← reconcileStaleTransactions b now {}
  let report ← reconcileStaleTopups b now report
  reconcileStaleWithdrawals b now report

/-- `reconcile_transaction`, the repair path of administrators. -/
def reconcileTransaction (rideId : UUID) (now : DateTime) : Action ReconciliationReport := do
  match ← findByRideId rideId with
  | some payment =>
    apiErrorIf (payment.paymentIntentId = none) 404 "PAYMENT_INTENT_NOT_FOUND"
      "Aucun paiement DiddiPay pour cette course."
    reconcileStaleTransaction payment now {}
  | none => apiError 404 "PAYMENT_INTENT_NOT_FOUND" "Aucun paiement DiddiPay pour cette course."

/-- `reconcile_topup`, the repair path of administrators. -/
def reconcileTopup (topupId : UUID) (now : DateTime) : Action ReconciliationReport := do
  match ← findTopupById topupId with
  | some topup =>
    apiErrorIf (topup.paymentIntentId = none) 404 "PAYMENT_INTENT_NOT_FOUND"
      "Aucune recharge DiddiPay pour cet identifiant."
    reconcileStaleTopup topup now {}
  | none => apiError 404 "PAYMENT_INTENT_NOT_FOUND" "Aucune recharge DiddiPay pour cet identifiant."

end DiddiGo.Payments
