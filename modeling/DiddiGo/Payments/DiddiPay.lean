import DiddiGo.Payments.Repository

/-!
# Answers of DiddiPay

How payment code reads the JSON bodies it gets back, and how it turns provider statuses into its own.
-/

namespace DiddiGo.Payments

open Data (Json)
open Transactions

/-- Wait for an external service; its exception is raised here. -/
def askOrRaise (q : Query) : Action Json := do
  match ← Prog.ask (S := sig) q with
  | .ok body => return body
  | .error e => throw e

/-- `int(j or -1)`. -/
def intOrMinusOne (j : Json) : Action Int := getOrRaise (j.or (.int (-1))).toInt? .conversion

/-- `UUID(str(j))`. -/
def uuidOf (j : Json) : Action UUID := getOrRaise (UUID.ofString j.toStr) .conversion

/-- `Decimal(str(j or amount))`. -/
def decimalOr (j : Json) (amount : Decimal) : Action Decimal :=
  if j.truthy then getOrRaise j.toDecimal? .conversion else return amount

/-- `_payment_status_from_diddipay` of the payment service. -/
def paymentStatusFromDiddipay (status : String) : Option PaymentStatus :=
  let normalized := Data.lower (Data.strip status)
  if normalized = "expired" ∨ normalized = "abandoned" then some .cancelled
  else PaymentStatus.ofString normalized

/-- `_payment_status_from_diddipay` of the wallet service: neither spelling nor the statuses of an
expired intent are normalized. -/
def walletPaymentStatusFromDiddipay (status : String) : Option PaymentStatus :=
  PaymentStatus.ofString (if status = "" then "requires_action" else status)

/-- The error of both: the status is unknown. -/
def paymentStatusInvalid (status : String) : Err :=
  .api
    { statusCode := 422, code := "PAYMENT_STATUS_INVALID"
      message := "Statut DiddiPay non reconnu."
      details := .ofMembers [("status", .str status)] }

/-- The parsed status, or `PAYMENT_STATUS_INVALID`. -/
def statusOrRaise (parse : String → Option PaymentStatus) (status : String) :
    Action PaymentStatus :=
  getOrRaise (parse status) (paymentStatusInvalid status)

/-- `_topup_status_from_payment_status`. -/
def topupStatusFromPaymentStatus : PaymentStatus → TopupStatus
  | .pending => .pending
  | .requiresAction => .requiresAction
  | .processing => .processing
  | .succeeded => .succeeded
  | .failed => .failed
  | .cancelled => .cancelled
  | _ => .failed

/-- `_withdrawal_status_from_diddipay`, and the same choice made inline by the webhook and the sweep;
`none` is an unknown status. -/
def withdrawalStatusFromDiddipay (status : String) : Option WithdrawalStatus :=
  if status = "succeeded" then some .succeeded
  else if status = "failed" ∨ status = "disputed" then some .failed
  else if status = "pending" ∨ status = "processing" then some .processing
  else none

/-- `_next_action_from_intent`. -/
def nextActionFromIntent (intent : Json) : Option Json :=
  match intent.get "attempts" with
  | .arrCons attempt _ =>
    if attempt.isObject ∧ (attempt.get "next_action").isObject then
      some (attempt.get "next_action")
    else none
  | _ => none

/-- `_intent_mismatch_reason`: why the intent is not unambiguously the same money. -/
def intentMismatchReason (intent : Json) (amount : Decimal) (currency : String)
    (businessReference : Option String) : Option String :=
  if intent.get "amount" = .null ∨ intent.get "currency" = .null then
    some "provider response carries no amount/currency to verify against"
  else
    match (intent.get "amount").toInt? with
    | none => some "provider amount is not a number"
    | some providerAmount =>
      if providerAmount ≠ Decimal.toInt amount ∨ (intent.get "currency").toStr ≠ currency then
        some "provider amount/currency differs from the local record"
      else
        match businessReference with
        | some reference =>
          if reference ≠ "" ∧ intent.get "business_reference" ≠ .null ∧
              intent.get "business_reference" ≠ .str reference then
            some "provider business_reference differs from the local record"
          else none
        | none => none

end DiddiGo.Payments
