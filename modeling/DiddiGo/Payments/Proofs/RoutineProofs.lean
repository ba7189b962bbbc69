import DiddiGo.Payments.Changes
import DiddiGo.Transactions.Proofs.SequentialProofs

/-!
# What use cases are built from

A property of programs that composition preserves passes from the statements to the use cases. Each use
case is taken apart here once; its properties are then instances.
-/

namespace DiddiGo.Payments

open Data (Json Keyed Table)
open Transactions

/-- A property of programs that composition preserves and that reading, raising and asking have. The call
of `create_payout` is left out. -/
structure Routine (C : ∀ {α : Type}, Action α → Prop) : Prop where
  ret : ∀ {α : Type} (a : α), C (.ret a : Action α)
  raise : ∀ {α : Type} (e : Err), C (.raise e : Action α)
  bind : ∀ {α β : Type} {p : Action α} {f : α → Action β}, C p → (∀ a, C (f a)) → C (p >>= f)
  select : ∀ {α : Type} (f : PaymentDb → α), C (Prog.select f)
  ask : ∀ q : Query, (∀ r, q ≠ .createPayout r) → C (Prog.ask (S := sig) q)

/-- Programs that write transactions have the property. -/
structure WritesTransactions (C : ∀ {α : Type}, Action α → Prop) : Prop where
  update : ∀ (rs : List Row) (t : PaymentDb → Table Transaction),
    C (Prog.update rs fun db : PaymentDb => { db with transactions := t db })
  insert : ∀ (rs : List Row) (taken : PaymentDb → Bool) (t : PaymentDb → Table Transaction) (e : Err),
    C (Prog.writeOrRaise rs taken (fun db : PaymentDb => { db with transactions := t db }) e)

/-- Programs that write top-ups have the property. -/
structure WritesTopups (C : ∀ {α : Type}, Action α → Prop) : Prop where
  update : ∀ (rs : List Row) (t : PaymentDb → Table DriverTopup),
    C (Prog.update rs fun db : PaymentDb => { db with topups := t db })
  insert : ∀ (rs : List Row) (taken : PaymentDb → Bool) (t : PaymentDb → Table DriverTopup) (e : Err),
    C (Prog.writeOrRaise rs taken (fun db : PaymentDb => { db with topups := t db }) e)

theorem payoutQuery_ne (w : DriverWithdrawal) (r : PayoutRequest) :
    payoutQuery w ≠ .createPayout r := by
  unfold payoutQuery
  cases w.payoutId <;> simp

variable {C : ∀ {α : Type}, Action α → Prop}

namespace Routine

variable (h : Routine @C)

include h

/-! ## Reading, checking and asking -/

theorem raiseIf (c : Prop) [Decidable c] (e : Err) : C (Prog.raiseIf c e : Action Unit) := by
  unfold Prog.raiseIf
  split_ifs
  · exact h.raise e
  · exact h.ret ()

theorem apiErrorIf (c : Prop) [Decidable c] (statusCode : Nat) (code message : String)
    (details : Json) : C (apiErrorIf c statusCode code message details) := h.raiseIf _ _

theorem getOrRaise {α : Type} (x : Option α) (e : Err) : C (getOrRaise x e) := by
  cases x with
  | none => exact h.raise e
  | some a => exact h.ret a

theorem scalarOneOrNone {α : Type} (l : List α) : C (scalarOneOrNone l) := by
  rcases l with _ | ⟨a, _ | ⟨b, l⟩⟩
  · exact h.ret _
  · exact h.ret _
  · exact h.raise _

theorem foldlM {α β : Type} {l : List α} {f : β → α → Action β} (b : β)
    (hf : ∀ b, ∀ a ∈ l, C (f b a)) : C (l.foldlM f b) := by
  induction l generalizing b with
  | nil => exact h.ret b
  | cons a l ih =>
    rw [List.foldlM_cons]
    exact h.bind (hf b a (by simp)) fun b' => ih b' fun b'' a' ha' => hf b'' a' (by simp [ha'])

theorem askOrRaise {q : Query} (hq : ∀ r, q ≠ .createPayout r) : C (askOrRaise q) := by
  refine h.bind (h.ask q hq) fun a => ?_
  cases a with
  | ok body => exact h.ret _
  | error e => exact h.raise _

theorem decimalOr (j : Json) (amount : Decimal) : C (decimalOr j amount) := by
  unfold Payments.decimalOr
  split_ifs
  · exact h.getOrRaise _ _
  · exact h.ret _

theorem optionalUuid (j : Json) : C (optionalUuid j) := by
  unfold Payments.optionalUuid
  split_ifs
  · exact h.bind (h.getOrRaise _ _) fun _ => h.ret _
  · exact h.ret _

theorem findByRideId (rideId : UUID) : C (findByRideId rideId) :=
  h.bind (h.select _) fun _ => h.scalarOneOrNone _

theorem findByPaymentIntentId (id : UUID) : C (findByPaymentIntentId id) :=
  h.bind (h.select _) fun _ => h.scalarOneOrNone _

theorem findTopupByPaymentIntentId (id : UUID) : C (findTopupByPaymentIntentId id) :=
  h.bind (h.select _) fun _ => h.scalarOneOrNone _

theorem findWithdrawalOfCallback (data : Json) (payoutId : UUID) :
    C (findWithdrawalOfCallback data payoutId) := by
  refine h.bind (h.select _) fun o => ?_
  cases o with
  | some w => exact h.ret _
  | none =>
    dsimp only
    split_ifs
    · exact h.bind (h.select _) fun _ => h.scalarOneOrNone _
    · exact h.ret _

theorem driverIdForUser (userId : UUID) : C (driverIdForUser userId) := by
  refine h.bind (h.select _) fun o => ?_
  cases o with
  | none => exact h.raise _
  | some p => exact h.ret _

theorem createReturnContext (configured : Bool) (flow surface : String) (userId id : UUID) :
    C (createReturnContext configured flow surface userId id) := by
  unfold Payments.createReturnContext
  split_ifs
  · exact h.bind (h.askOrRaise (by simp)) fun _ => h.ret _
  · exact h.ret _

theorem bindReturnContext (token : Option String) (intentId : UUID) :
    C (bindReturnContext token intentId) := by
  cases token with
  | none => exact h.ret _
  | some t => exact h.bind (h.askOrRaise (by simp)) fun _ => h.ret _

theorem readIntent (intentId : Option UUID) (report : ReconciliationReport) :
    C (readIntent intentId report) := by
  cases intentId with
  | none => exact h.ret _
  | some id =>
    refine h.bind (h.ask _ (by simp)) fun a => ?_
    split <;> exact h.ret _

/-! ## Transactions of rides -/

theorem recordRideSettlement {ride : Rides.Ride} {status : PaymentStatus} {now : DateTime}
    (hrec : ∀ e, settlementEntry ride status now = some e → C (recordLedgerEntryOnce e now)) :
    C (recordRideSettlement ride status now) := by
  unfold Payments.recordRideSettlement
  cases he : settlementEntry ride status now with
  | none => exact h.ret ()
  | some e => exact h.bind (hrec e he) fun _ => h.ret ()

theorem checkAmountCollected (finalFare : Option Decimal) (amount : Decimal) :
    C (checkAmountCollected finalFare amount) := by
  cases finalFare with
  | none => exact h.ret _
  | some expected => exact h.apiErrorIf _ _ _ _ _

section Transactions

variable (ht : WritesTransactions @C)

include ht

theorem changeTransaction (id : UUID) (f : Transaction → Transaction)
    (hf : ∀ t, Keyed.key (f t) = Keyed.key t) : C (changeTransaction id f hf) := by
  refine h.bind (h.select _) fun o => ?_
  cases o with
  | none => exact h.raise _
  | some t => exact h.bind (ht.update _ _) fun _ => h.ret _

theorem replaceExternalIntent (id intentId : UUID) (key : String) (method : PaymentMethod)
    (status : PaymentStatus) (providerStatus : String) (nextAction : Option Json) :
    C (replaceExternalIntent id intentId key method status providerStatus nextAction) := by
  refine h.bind (h.select _) fun o => ?_
  cases o with
  | none => exact h.raise _
  | some t => exact h.bind (ht.insert _ _ _ _) fun _ => h.ret _

theorem applyTransactionStatus
    (hrec : ∀ ride status now e, settlementEntry ride status now = some e →
      C (recordLedgerEntryOnce e now)) (t : Transaction) (status : PaymentStatus)
    (providerStatus : String) (paidAt : Option DateTime) (nextAction : Option (Option Json))
    (now : DateTime) :
    C (applyTransactionStatus t status providerStatus paidAt nextAction now) := by
  refine h.bind (h.changeTransaction ht _ _ _) fun t' => h.bind (h.select _) fun o => ?_
  cases o with
  | none => exact h.ret _
  | some ride => exact h.bind (h.recordRideSettlement (hrec ride _ now)) fun _ => h.ret _

theorem cashTransaction (ride : Rides.Ride) (existing : Option Transaction) (amount : Decimal)
    (id : UUID) (now : DateTime) : C (cashTransaction ride existing amount id now) := by
  cases existing with
  | none => exact h.bind (ht.insert _ _ _ _) fun _ => h.ret _
  | some t => exact h.ret _

theorem confirmCash
    (hrec : ∀ ride status now e, settlementEntry ride status now = some e →
      C (recordLedgerEntryOnce e now)) (rideId : UUID) (amount : Decimal)
    (collectedBy transactionId : UUID) (now : DateTime) :
    C (confirmCash rideId amount collectedBy transactionId now) := by
  refine h.bind (h.select _) fun o => ?_
  cases o with
  | none => exact h.raise _
  | some ride =>
    exact h.bind (h.apiErrorIf _ _ _ _ _) fun _ => h.bind (h.checkAmountCollected _ _) fun _ =>
      h.bind (h.findByRideId _) fun _ => h.bind (h.cashTransaction ht _ _ _ _ _) fun _ =>
      h.bind (h.changeTransaction ht _ _ _) fun _ =>
      h.bind (h.recordRideSettlement (hrec ride _ now)) fun _ => h.ret _

theorem prepareCash (rideId transactionId : UUID) (now : DateTime) :
    C (prepareCash rideId transactionId now) := by
  refine h.bind (h.findByRideId _) fun o => ?_
  cases o with
  | none =>
    refine h.bind (h.select _) fun o => ?_
    cases o with
    | none => exact h.raise _
    | some ride => exact h.bind (ht.insert _ _ _ _) fun _ => h.ret _
  | some t =>
    dsimp only
    split_ifs
    · exact h.ret _
    · exact h.bind (h.apiErrorIf _ _ _ _ _) fun _ => h.changeTransaction ht _ _ _

theorem collectThroughDiddipay (r : PreparationRequest) (method : PaymentMethod) (email : String)
    (ride : Rides.Ride) (amount : Decimal) (retrying : Option Transaction) :
    C (collectThroughDiddipay r method email ride amount retrying) := by
  refine h.bind (h.createReturnContext _ _ _ _ _) fun _ =>
    h.bind (h.askOrRaise (by simp)) fun intent => h.bind (h.getOrRaise _ _) fun _ =>
    h.bind (h.getOrRaise _ _) fun _ => h.bind (h.bindReturnContext _ _) fun _ => ?_
  cases retrying with
  | some t => exact h.replaceExternalIntent ht _ _ _ _ _ _ _
  | none =>
    exact h.bind (h.decimalOr _ _) fun _ => h.bind (ht.insert _ _ _ _) fun _ => h.ret _

theorem prepareDiddipay (r : PreparationRequest) (method : PaymentMethod) (email : String) :
    C (prepareDiddipay r method email) := by
  refine h.bind (h.select _) fun o => ?_
  cases o with
  | none => exact h.raise _
  | some ride =>
    refine h.bind (h.getOrRaise _ _) fun amount => h.bind (h.findByRideId _) fun o => ?_
    cases o with
    | none => exact h.collectThroughDiddipay ht _ _ _ _ _ _
    | some t =>
      dsimp only
      split_ifs
      · exact h.ret _
      · exact h.bind (h.apiErrorIf _ _ _ _ _) fun _ => h.collectThroughDiddipay ht _ _ _ _ _ _

theorem preparePayment (r : PreparationRequest) : C (preparePayment r) := by
  refine h.bind (h.select _) fun o => ?_
  cases o with
  | none => exact h.raise _
  | some ride =>
    refine h.bind (h.apiErrorIf _ _ _ _ _) fun _ => h.bind (h.apiErrorIf _ _ _ _ _) fun _ =>
      h.bind (h.apiErrorIf _ _ _ _ _) fun _ => h.bind (h.getOrRaise _ _) fun method => ?_
    split_ifs
    · exact h.prepareCash ht _ _ _
    · exact h.bind (h.apiErrorIf _ _ _ _ _) fun _ => h.bind (h.apiErrorIf _ _ _ _ _) fun _ =>
        h.bind (h.getOrRaise _ _) fun _ => h.prepareDiddipay ht _ _ _

end Transactions

/-! ## Top-ups -/

theorem creditTopup (hrec : ∀ t now, C (recordLedgerEntryOnce (topupEntry t now) now))
    (t : DriverTopup) (now : DateTime) : C (creditTopup t now) := by
  unfold Payments.creditTopup
  split_ifs
  · exact h.bind (hrec t now) fun _ => h.ret ()
  · exact h.ret ()

section Topups

variable (ht : WritesTopups @C) (hrec : ∀ t now, C (recordLedgerEntryOnce (topupEntry t now) now))

include ht

theorem markTopupStatus (id : UUID) (status : TopupStatus) (providerStatus : String)
    (paidAt : Option DateTime) (nextAction : Option (Option Json)) :
    C (markTopupStatus id status providerStatus paidAt nextAction) := by
  refine h.bind (h.select _) fun o => ?_
  cases o with
  | none => exact h.raise _
  | some t => exact h.bind (ht.update _ _) fun _ => h.ret _

include hrec

theorem applyTopupStatus (t : DriverTopup) (status : TopupStatus) (providerStatus : String)
    (paidAt : Option DateTime) (nextAction : Option (Option Json)) (now : DateTime) :
    C (applyTopupStatus t status providerStatus paidAt nextAction now) := by
  refine h.bind (h.markTopupStatus ht _ _ _ _ _) fun t' => ?_
  split_ifs
  · exact h.bind (hrec _ _) fun _ => h.ret _
  · exact h.ret _

theorem createTopup (r : TopupRequest) : C (createTopup r) :=
  h.bind (h.driverIdForUser _) fun _ => h.bind (h.apiErrorIf _ _ _ _ _) fun _ =>
    h.bind (h.getOrRaise _ _) fun _ => h.bind (h.apiErrorIf _ _ _ _ _) fun _ =>
    h.bind (h.apiErrorIf _ _ _ _ _) fun _ => h.bind (h.createReturnContext _ _ _ _ _) fun _ =>
    h.bind (h.askOrRaise (by simp)) fun _ => h.bind (h.getOrRaise _ _) fun _ =>
    h.bind (h.getOrRaise _ _) fun _ => h.bind (h.bindReturnContext _ _) fun _ =>
    h.bind (h.decimalOr _ _) fun _ => h.bind (ht.insert _ _ _ _) fun _ =>
    h.bind (h.creditTopup hrec _ _) fun _ => h.ret _

end Topups

/-! ## Provider statuses -/

section Statuses

variable
  (htx : ∀ t status providerStatus paidAt nextAction now,
    C (Payments.applyTransactionStatus t status providerStatus paidAt nextAction now))
  (htop : ∀ t status providerStatus paidAt nextAction now,
    C (Payments.applyTopupStatus t status providerStatus paidAt nextAction now))
  (hmark : ∀ id p now, C (markWithdrawalProviderState id p now))

include htx in
theorem reconcileStaleTransaction (t : Transaction) (now : DateTime)
    (report : ReconciliationReport) : C (reconcileStaleTransaction t now report) := by
  refine h.bind (h.readIntent _ _) fun ⟨intent, report⟩ => ?_
  cases intent with
  | none => exact h.ret _
  | some intent =>
    dsimp only
    by_cases hm : (intentMismatchReason intent t.amount t.currency t.businessReference).isSome
    · rw [if_pos hm]
      exact h.ret _
    rw [if_neg hm]
    cases paymentStatusFromDiddipay ((intent.get "status").or (.str "")).toStr with
    | none => exact h.ret _
    | some status =>
      dsimp only
      by_cases hs : status = t.status ∧ nextActionFromIntent intent = t.providerNextAction
      · rw [if_pos hs]
        exact h.ret _
      · rw [if_neg hs]
        exact h.bind (htx _ _ _ _ _ _) fun _ => h.ret _

include htop in
theorem reconcileStaleTopup (t : DriverTopup) (now : DateTime)
    (report : ReconciliationReport) : C (reconcileStaleTopup t now report) := by
  refine h.bind (h.readIntent _ _) fun ⟨intent, report⟩ => ?_
  cases intent with
  | none => exact h.ret _
  | some intent =>
    dsimp only
    by_cases hm : (intentMismatchReason intent t.amount t.currency t.businessReference).isSome
    · rw [if_pos hm]
      exact h.ret _
    rw [if_neg hm]
    cases paymentStatusFromDiddipay ((intent.get "status").or (.str "")).toStr with
    | none => exact h.ret _
    | some status =>
      dsimp only
      by_cases hs : topupStatusFromPaymentStatus status = t.status ∧
          nextActionFromIntent intent = t.providerNextAction
      · rw [if_pos hs]
        exact h.ret _
      · rw [if_neg hs]
        exact h.bind (htop _ _ _ _ _ _) fun _ => h.ret _

include hmark in
theorem reconcileStaleWithdrawal (w : DriverWithdrawal) (now : DateTime)
    (report : ReconciliationReport) : C (reconcileStaleWithdrawal w now report) := by
  refine h.bind (h.ask _ (payoutQuery_ne w)) fun a => ?_
  split
  · exact h.ret _
  · exact h.raise _
  · exact h.ret _
  · refine h.bind (h.getOrRaise _ _) fun amount => ?_
    split_ifs
    · exact h.ret _
    · dsimp only
      split
      · exact h.ret _
      · refine h.bind (h.getOrRaise _ _) fun _ => h.bind (hmark _ _ _) fun updated => ?_
        split_ifs <;> exact h.ret _

include htx in
theorem reconcileTransaction (rideId : UUID) (now : DateTime) :
    C (reconcileTransaction rideId now) := by
  refine h.bind (h.findByRideId _) fun o => ?_
  cases o with
  | none => exact h.raise _
  | some t => exact h.bind (h.apiErrorIf _ _ _ _ _) fun _ => h.reconcileStaleTransaction htx _ _ _

include htop in
theorem reconcileTopup (topupId : UUID) (now : DateTime) : C (reconcileTopup topupId now) := by
  refine h.bind (h.select _) fun o => ?_
  cases o with
  | none => exact h.raise _
  | some t => exact h.bind (h.apiErrorIf _ _ _ _ _) fun _ => h.reconcileStaleTopup htop _ _ _

include hmark in
theorem reconcileStaleWithdrawals (b : SweepBounds) (now : DateTime)
    (report : ReconciliationReport) : C (reconcileStaleWithdrawals b now report) :=
  h.bind (h.select _) fun _ => h.foldlM _ fun _ _ _ => h.reconcileStaleWithdrawal hmark _ _ _

include htx in
theorem reconcileStaleTransactions (b : SweepBounds) (now : DateTime)
    (report : ReconciliationReport) : C (reconcileStaleTransactions b now report) :=
  h.bind (h.select _) fun _ => h.foldlM _ fun _ _ _ => h.reconcileStaleTransaction htx _ _ _

include htop in
theorem reconcileStaleTopups (b : SweepBounds) (now : DateTime)
    (report : ReconciliationReport) : C (reconcileStaleTopups b now report) :=
  h.bind (h.select _) fun _ => h.foldlM _ fun _ _ _ => h.reconcileStaleTopup htop _ _ _

include htx htop hmark in
theorem reconcilePending (b : SweepBounds) (now : DateTime) : C (reconcilePending b now) :=
  h.bind (h.reconcileStaleTransactions htx b now _) fun _ =>
    h.bind (h.reconcileStaleTopups htop b now _) fun _ =>
    h.reconcileStaleWithdrawals hmark b now _

include hmark in
theorem applyPayoutWebhook (data : Json) (payoutId : UUID) (now : DateTime) :
    C (applyPayoutWebhook data payoutId now) := by
  refine h.bind (h.findWithdrawalOfCallback _ _) fun o => ?_
  cases o with
  | none => exact h.raise _
  | some w =>
    exact h.bind (h.apiErrorIf _ _ _ _ _) fun _ => h.bind (h.getOrRaise _ _) fun _ =>
      h.bind (hmark _ _ _) fun _ => h.ret _

include htx htop in
theorem applyIntentWebhook (data : Json) (intentId : UUID) (now : DateTime) :
    C (applyIntentWebhook data intentId now) := by
  refine h.bind (h.getOrRaise _ _) fun status => h.bind (h.findByPaymentIntentId _) fun o => ?_
  cases o with
  | some t =>
    exact h.bind (h.getOrRaise _ _) fun _ => h.bind (h.apiErrorIf _ _ _ _ _) fun _ =>
      h.bind (h.apiErrorIf _ _ _ _ _) fun _ => h.bind (htx _ _ _ _ _ _) fun _ => h.ret _
  | none =>
    refine h.bind (h.findTopupByPaymentIntentId _) fun o => ?_
    cases o with
    | none => exact h.raise _
    | some t =>
      exact h.bind (h.getOrRaise _ _) fun _ => h.bind (h.apiErrorIf _ _ _ _ _) fun _ =>
        h.bind (h.apiErrorIf _ _ _ _ _) fun _ => h.bind (htop _ _ _ _ _ _) fun _ => h.ret _

include htx htop hmark in
theorem dispatchWebhook (data : Json) (intentId : Option UUID) (now : DateTime) :
    C (dispatchWebhook data intentId now) := by
  refine h.bind (h.optionalUuid _) fun payoutId => ?_
  cases payoutId with
  | some id => exact h.applyPayoutWebhook hmark _ _ _
  | none =>
    cases intentId with
    | none => exact h.raise _
    | some id => exact h.applyIntentWebhook htx htop _ _ _

include htx htop hmark in
theorem applyDiddipayWebhook (call : WebhookCall)
    (hev : ∀ e : WebhookEvent, (∀ payload, call.body = some payload → e.id = eventIdOf payload) →
      C (recordWebhookEvent e)) : C (applyDiddipayWebhook call) := by
  refine h.bind (h.apiErrorIf _ _ _ _ _) fun _ => h.bind (h.apiErrorIf _ _ _ _ _) fun _ => ?_
  cases hb : call.body with
  | none => exact h.raise _
  | some payload =>
    refine h.bind (h.raiseIf _ _) fun _ => h.bind (h.apiErrorIf _ _ _ _ _) fun _ =>
      h.bind (h.apiErrorIf _ _ _ _ _) fun _ => h.bind (h.optionalUuid _) fun intentId =>
      h.bind (hev _ fun p hp => ?_) fun stored => ?_
    · rw [hb] at hp
      obtain rfl := Option.some.inj hp
      rfl
    by_cases hs : (!stored) = true
    · rw [if_pos hs]
      exact h.ret _
    · rw [if_neg hs]
      exact h.dispatchWebhook htx htop hmark _ intentId _

include htx htop hmark in
theorem receiveWebhook (call : WebhookCall)
    (hev : ∀ e : WebhookEvent, C (recordWebhookEvent e)) : C (receiveWebhook call) :=
  h.bind (h.askOrRaise (by simp)) fun _ =>
    h.applyDiddipayWebhook htx htop hmark _ fun e _ => hev e

end Statuses

end Routine

end DiddiGo.Payments
