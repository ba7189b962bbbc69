import DiddiGo.Payments.DiddiPay

/-!
# Driver wallet use cases

Top-ups and withdrawals of drivers. Each request carries the instants it reads from the clock and the
identifiers it draws.
-/

namespace DiddiGo.Payments

open Data (Json)
open Transactions

/-- The settings the payment module reads. -/
structure Settings where
  driverWithdrawalMinAmountXof : Nat := 2000
  driverWithdrawalFeeXof : Nat := 0
  driverWithdrawalQuoteTtlSeconds : Nat := 300
  driverWithdrawalOtpMaxAttempts : Nat := 5
  paymentReconciliationBatchSize : Nat := 50
  paymentReconciliationMinAgeSeconds : Nat := 120
  paymentReconciliationMaxAgeSeconds : Nat := 259200

/-- Raise an `ApiError`. -/
def apiError {α : Type} (statusCode : Nat) (code message : String) (details : Json := .null) :
    Action α :=
  throw (.api { statusCode := statusCode, code := code, message := message, details := details })

/-- Raise an `ApiError` if `c` holds. -/
def apiErrorIf (c : Prop) [Decidable c] (statusCode : Nat) (code message : String)
    (details : Json := .null) : Action Unit :=
  Prog.raiseIf c
    (.api { statusCode := statusCode, code := code, message := message, details := details })

/-- `_driver_id_for_user`. -/
def driverIdForUser (userId : UUID) : Action UUID := do
  match ← Prog.select fun (db : PaymentDb) => db.driverProfiles.find? userId with
  | some profile => return profile.id
  | none => apiError 404 "DRIVER_PROFILE_NOT_FOUND" "Aucun profil chauffeur pour ce compte."

/-- A browser return context is created if their store is configured. -/
def createReturnContext (configured : Bool) (flow surface : String) (userId resourceId : UUID) :
    Action (Option String) :=
  if configured then do
    let token ← askOrRaise (.createReturnContext flow surface userId resourceId)
    return some token.toStr
  else return none

/-- The return context, if there is one, learns the payment intent. -/
def bindReturnContext (token : Option String) (paymentIntentId : UUID) : Action Unit :=
  match token with
  | some token => Prog.ignore (askOrRaise (.bindPaymentIntent token paymentIntentId))
  | none => return ()

/-! ## Top-ups -/

/-- The entry that credits a top-up. -/
def topupEntry (t : DriverTopup) (now : DateTime) : DriverLedgerEntry where
  driverId := t.driverId
  amount := t.amount
  currency := t.currency
  direction := .credit
  entryType := .topup
  status := .confirmed
  referenceType := .driverTopup
  referenceId := t.id
  description := some "Recharge chauffeur confirmee"
  createdAt := now

/-- `credit_topup`. -/
def creditTopup (t : DriverTopup) (now : DateTime) : Action Unit := do
  if t.status = .succeeded then
    let _ ← recordLedgerEntryOnce (topupEntry t now) now

/-- A request to top up. -/
structure TopupRequest where
  driverUserId : UUID
  amount : Decimal
  method : String
  customerEmail : String
  customerPhone : Option String := none
  /-- The store of return contexts is configured. -/
  returnContexts : Bool
  /-- `DriverTopup.new_id()`. -/
  topupId : UUID
  now : DateTime

/-- `create_topup`. -/
def createTopup (r : TopupRequest) : Action DriverTopup := do
  let driverId ← driverIdForUser r.driverUserId
  apiErrorIf (r.amount ≤ 0) 422 "INVALID_TOPUP_AMOUNT" "Le montant de recharge doit etre positif."
  let method ← getOrRaise (PaymentMethod.ofString r.method) (.api
    { statusCode := 422, code := "INVALID_PAYMENT_METHOD"
      message := "Methode de paiement invalide." })
  apiErrorIf (method = .cash) 422 "INVALID_PAYMENT_METHOD" "La recharge cash n'est pas supportee."
  apiErrorIf (r.customerEmail = "") 422 "PAYMENT_EMAIL_REQUIRED"
    "Un email client est requis pour initialiser une recharge DiddiPay/Paystack."
    (.ofMembers [("field", .str "customer_email")])
  let businessReference := "diddigo:driver_topup:" ++ UUID.str r.topupId
  let idempotencyKey := businessReference ++ ":v1"
  let returnToken ←
    createReturnContext r.returnContexts "driver_topup" "pro" r.driverUserId r.topupId
  let intent ← askOrRaise (.createPaymentIntent
    { businessReference := businessReference
      amount := Decimal.toInt r.amount
      currency := "XOF"
      payerUserId := r.driverUserId
      payeeUserId := none
      network := if method = .wave then some "wave" else none
      customerEmail := r.customerEmail
      customerPhone := r.customerPhone
      returnToken := returnToken
      description := "Recharge compte chauffeur DiddiGo " ++ UUID.str driverId
      metadata := [("driver_id", driverId), ("topup_id", r.topupId)]
      idempotencyKey := idempotencyKey })
  let paymentStatus ←
    statusOrRaise walletPaymentStatusFromDiddipay ((intent.get "status").or (.str "")).toStr
  let status := topupStatusFromPaymentStatus paymentStatus
  let paymentIntentId ← uuidOf (intent.get "id")
  bindReturnContext returnToken paymentIntentId
  let amount ← decimalOr (intent.get "amount") r.amount
  let topup : DriverTopup :=
    { id := r.topupId
      driverId := driverId
      amount := amount
      currency := ((intent.get "currency").or (.str "XOF")).toStr
      method := method
      status := status
      paymentIntentId := some paymentIntentId
      businessReference := some businessReference
      idempotencyKey := some idempotencyKey
      providerStatus := some ((intent.get "status").or (.str status.value)).toStr
      providerNextAction := nextActionFromIntent intent
      createdAt := r.now
      paidAt := if status = .succeeded then some r.now else none }
  saveTopup topup
  creditTopup topup r.now
  return topup

/-! ## Withdrawals -/

/-- `quote_withdrawal`. -/
def quoteWithdrawal (cfg : Settings) (driverUserId quoteId : UUID) (amount : Decimal)
    (now : DateTime) : Action DriverWithdrawalQuote := do
  let driverId ← driverIdForUser driverUserId
  let minimum : Decimal := cfg.driverWithdrawalMinAmountXof
  let fees : Decimal := cfg.driverWithdrawalFeeXof
  apiErrorIf (amount ≠ (Decimal.toInt amount : Decimal) ∨ amount < minimum)
    422 "INVALID_WITHDRAWAL_AMOUNT"
    "Le montant doit etre un entier XOF superieur ou egal au minimum."
    (.ofMembers [("minimum_amount", .int (Decimal.toInt minimum)), ("currency", .str "XOF")])
  apiErrorIf (amount ≤ fees) 422 "INVALID_WITHDRAWAL_AMOUNT"
    "Le montant doit etre superieur aux frais."
  let wallet ← getOrCreateWallet driverId
  apiErrorIf (wallet.balance < amount) 409 "WITHDRAWAL_BALANCE_INSUFFICIENT"
    "Solde disponible insuffisant."
    (.ofMembers [("available_balance", .int (Decimal.toInt wallet.balance)),
      ("requested_amount", .int (Decimal.toInt amount))])
  let quote : DriverWithdrawalQuote :=
    { id := quoteId
      driverId := driverId
      amount := amount
      fees := fees
      netAmount := amount - fees
      expiresAt := now + cfg.driverWithdrawalQuoteTtlSeconds * 1000000
      createdAt := now }
  saveWithdrawalQuote quote
  Prog.commitNow
  return quote

/-- A request to withdraw. -/
structure WithdrawalRequest where
  driverUserId : UUID
  quoteId : UUID
  beneficiaryReference : String
  beneficiaryDestination : Json
  verificationId : UUID
  /-- `_otp_hash(verification_code)`. -/
  codeHash : String
  profilePhone : String
  /-- `DriverWithdrawal.new_id()`. -/
  withdrawalId : UUID
  now : DateTime
  /-- The clock when the answer of the provider is stored. -/
  later : DateTime

/-- The HTTP status of a refused verification. -/
def verificationErrorStatus (code : String) : Nat :=
  if code = "WITHDRAWAL_VERIFICATION_NOT_FOUND" then 404
  else if code = "WITHDRAWAL_VERIFICATION_USED" then 409
  else if code = "WITHDRAWAL_VERIFICATION_EXPIRED" then 410
  else if code = "WITHDRAWAL_VERIFICATION_LOCKED" then 429
  else 400

/-- The HTTP status of a refused reservation. -/
def reservationErrorStatus (code : String) : Nat :=
  if code = "WITHDRAWAL_QUOTE_NOT_FOUND" then 404
  else if code = "WITHDRAWAL_QUOTE_ALREADY_USED" ∨ code = "WITHDRAWAL_BALANCE_INSUFFICIENT" then 409
  else 422

/-- `except LookupError`: the text becomes the code of an `ApiError`. -/
def lookupAsApiError {α : Type} (p : Action α) (status : String → Nat) (message : String) :
    Action α :=
  tryCatch p fun
    | .lookup code => apiError (status code) code message
    | e => throw e

/-- The withdrawal that a request asks the repository to reserve. -/
def requestedWithdrawal (r : WithdrawalRequest) (driverId : UUID) : DriverWithdrawal where
  id := r.withdrawalId
  driverId := driverId
  quoteId := r.quoteId
  amount := 0
  fees := 0
  netAmount := 0
  beneficiaryReference := Data.strip r.beneficiaryReference
  beneficiaryDestination := some r.beneficiaryDestination
  businessReference := "diddigo:driver_withdrawal:" ++ UUID.str r.withdrawalId
  idempotencyKey := "diddigo:driver_withdrawal:" ++ UUID.str r.withdrawalId ++ ":v1"
  createdAt := r.now
  reservedAt := r.now
  updatedAt := r.now

/-- The call of `create_payout` for a withdrawal. -/
def payoutRequest (w : DriverWithdrawal) : PayoutRequest where
  businessReference := w.businessReference
  beneficiaryReference := w.beneficiaryReference
  beneficiaryDestination := w.beneficiaryDestination
  amount := Decimal.toInt w.netAmount
  currency := w.currency
  driverId := w.driverId
  withdrawalId := w.id
  quoteId := w.quoteId
  feesXof := Decimal.toInt w.fees
  idempotencyKey := w.idempotencyKey

/-- `apply_withdrawal_provider_payload`. -/
def applyWithdrawalProviderPayload (w : DriverWithdrawal) (payout : Json) (now : DateTime) :
    Action DriverWithdrawal := do
  let amount ← intOrMinusOne (payout.get "amount")
  apiErrorIf (amount ≠ Decimal.toInt w.netAmount) 409 "WITHDRAWAL_AMOUNT_MISMATCH"
    "Montant payout DiddiPay incoherent."
  apiErrorIf (payout.get "currency" ≠ .str w.currency) 409 "WITHDRAWAL_CURRENCY_MISMATCH"
    "Devise payout DiddiPay incoherente."
  apiErrorIf (payout.get "business_reference" ≠ .str w.businessReference)
    409 "WITHDRAWAL_REFERENCE_MISMATCH" "Reference payout DiddiPay incoherente."
  let providerStatus := ((payout.get "status").or (.str "")).toStr
  let status ← getOrRaise (withdrawalStatusFromDiddipay providerStatus) (.api
    { statusCode := 422, code := "WITHDRAWAL_STATUS_INVALID"
      message := "Statut payout DiddiPay non reconnu."
      details := .ofMembers [("status", .str providerStatus)] })
  let payoutId ← uuidOf (payout.get "id")
  markWithdrawalProviderState w.id
    { status := status
      payoutId := some payoutId
      providerStatus := providerStatus
      failureCode := payout.get "failure_code"
      failureMessage := payout.get "failure_message" } now

/-- The provider state of a payout that DiddiPay refused to create. -/
def rejectedState (e : ApiError) : ProviderState where
  status := .failed
  payoutId := none
  providerStatus := "rejected"
  failureCode := .str e.code
  failureMessage := .str e.message

/-- The end of `request_withdrawal`: the reservation is committed, then DiddiPay is asked to pay. An
error below 500 releases the withdrawal. -/
def sendPayout (w : DriverWithdrawal) (later : DateTime) : Action DriverWithdrawal := do
  match ← Prog.ask (S := sig) (.createPayout (payoutRequest w)) with
  | .error (.api e) =>
    if e.statusCode < 500 then
      let _ ← markWithdrawalProviderState w.id (rejectedState e) later
      Prog.commitNow
    throw (.api e)
  | .error e => throw e
  | .ok payout =>
    let w ← applyWithdrawalProviderPayload w payout later
    Prog.commitNow
    return w

/-- `request_withdrawal`. -/
def requestWithdrawal (cfg : Settings) (r : WithdrawalRequest) : Action DriverWithdrawal := do
  let driverId ← driverIdForUser r.driverUserId
  apiErrorIf (Data.strip r.beneficiaryReference = "") 422 "WITHDRAWAL_BENEFICIARY_REQUIRED"
    "Le beneficiaire est requis."
  apiErrorIf (r.profilePhone = "") 409 "WITHDRAWAL_PROFILE_PHONE_REQUIRED"
    "Un numero de profil verifie est requis pour confirmer le retrait."
  match ← findWithdrawalByQuoteId r.quoteId with
  | some existing =>
    apiErrorIf (existing.driverId ≠ driverId ∨
        existing.beneficiaryDestination ≠ some r.beneficiaryDestination)
      409 "WITHDRAWAL_QUOTE_ALREADY_USED" "Ce devis de retrait est deja utilise."
    return existing
  | none =>
    let _ ← lookupAsApiError
      (consumeWithdrawalVerification r.verificationId driverId r.beneficiaryDestination r.codeHash
        cfg.driverWithdrawalOtpMaxAttempts r.now)
      verificationErrorStatus "Verification du retrait impossible."
    let w ← lookupAsApiError
      (reserveWithdrawalFromQuote (requestedWithdrawal r driverId) r.now)
      reservationErrorStatus "Impossible de reserver ce retrait."
    Prog.commitNow
    sendPayout w r.later

/-- The payout that the provider knows for a withdrawal, by its identifier once it is known. -/
def payoutQuery (w : DriverWithdrawal) : Query :=
  match w.payoutId with
  | some payoutId => .getPayout payoutId
  | none => .getPayoutByBusinessReference w.businessReference

/-- `reconcile_withdrawal`, the repair path of administrators. -/
def reconcileWithdrawal (withdrawalId : UUID) (now : DateTime) : Action DriverWithdrawal := do
  match ← findWithdrawalById withdrawalId with
  | none => apiError 404 "WITHDRAWAL_NOT_FOUND" "Retrait chauffeur introuvable."
  | some w =>
    let payout ← askOrRaise (payoutQuery w)
    if payout = .null then
      return w
    let w ← applyWithdrawalProviderPayload w payout now
    Prog.commitNow
    return w

end DiddiGo.Payments
