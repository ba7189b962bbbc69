import DiddiGo.Payments.Proofs.PayoutProofs
import DiddiGo.Payments.Proofs.RoutineProofs

/-!
# Requests under interference

Every program of the payment module is safe: the statements first, then the use cases that are built
from them.
-/

namespace DiddiGo.Payments

open Data (Json Keyed Table)
open Transactions Prog RelyGuarantee

variable {Proc World : Type} {σ : Scenario Proc World} {opening earnedBefore : UUID → Decimal}
  {i : Proc} {P P' : Point σ.machine}

/-! ## Repository -/

section Repository

theorem elsewhere_transactions (t : PaymentDb → Table Transaction) :
    Elsewhere fun db => { db with transactions := t db } :=
  ⟨fun _ => rfl, fun _ => rfl, fun _ => rfl, fun _ => rfl⟩

theorem elsewhere_topups (t : PaymentDb → Table DriverTopup) :
    Elsewhere fun db => { db with topups := t db } :=
  ⟨fun _ => rfl, fun _ => rfl, fun _ => rfl, fun _ => rfl⟩

theorem elsewhere_webhookEvents (t : PaymentDb → Table WebhookEvent) :
    Elsewhere fun db => { db with webhookEvents := t db } :=
  ⟨fun _ => rfl, fun _ => rfl, fun _ => rfl, fun _ => rfl⟩

/-- The statements that use cases are built from are safe. -/
theorem routine_safe : Routine fun p => Safe σ opening earnedBefore i p :=
  ⟨Safe.ret, Safe.raise, Safe.bind, Safe.select, fun _ hq => Safe.ask hq⟩

theorem transactions_safe : WritesTransactions fun p => Safe σ opening earnedBefore i p :=
  ⟨fun _ _ => .update (elsewhere_transactions _), fun _ _ _ _ =>
    .writeOrRaise (elsewhere_transactions _)⟩

theorem topups_safe : WritesTopups fun p => Safe σ opening earnedBefore i p :=
  ⟨fun _ _ => .update (elsewhere_topups _), fun _ _ _ _ => .writeOrRaise (elsewhere_topups _)⟩

theorem safe_getOrCreateWallet (driverId : UUID) (currency : String) :
    Safe σ opening earnedBefore i (getOrCreateWallet driverId currency) :=
  fun _ hP => wpOk_mono (wpOk_getOrCreateWallet hP _ _) fun _ _ h => h.reaches

theorem find?_insertQuote (db : PaymentDb) (q : DriverWithdrawalQuote) (id : UUID) :
    (db.insertQuote q).quotes.find? id =
      (db.quotes.find? id).or (if q.id = id then some q else none) :=
  Table.find?_insert _ _ _

theorem QuoteBooks.insertQuote {db : PaymentDb} (h : QuoteBooks db) {q : DriverWithdrawalQuote}
    (hq : q.consumedAt = none) : QuoteBooks (db.insertQuote q) where
  quoted id w hw := by
    obtain ⟨q', hq', hc, ho⟩ := h.quoted id w hw
    exact ⟨q', by rw [find?_insertQuote, hq']; rfl, hc, ho⟩
  consumed id q' hq' hc := by
    rw [find?_insertQuote] at hq'
    cases hold : db.quotes.find? id with
    | some x =>
      rw [hold] at hq'
      obtain rfl := Option.some.inj hq'
      exact h.consumed id _ hold hc
    | none =>
      rw [hold, Option.none_or] at hq'
      split_ifs at hq'
      obtain rfl := Option.some.inj hq'
      rw [hq] at hc
      cases hc
  oncePerQuote := h.oncePerQuote

theorem safe_saveWithdrawalQuote {q : DriverWithdrawalQuote} (hq : q.consumedAt = none) :
    Safe σ opening earnedBefore i (saveWithdrawalQuote q) := by
  intro P hP
  refine wpOk_writeOrRaise fun s hs _ => ⟨?_, records_of_interferes hs⟩
  refine hP.write (g := (·.insertQuote q)) hs (fun _ hr => Or.inr hr) rfl ?_
    (.of_withdrawals fun _ => rfl) fun s' _ hinv => ?_
  · refine ⟨fun _ _ _ h => h, fun _ _ _ h => h, fun _ _ _ h => h, fun db db' id h => ?_⟩
    rw [find?_insertQuote, find?_insertQuote, h]
  · refine ⟨⟨List.prefix_rfl, fun _ h => h, fun _ w h => ⟨w, h, .refl w⟩, fun r hr => ?_⟩,
      hinv.store_of_old (hinv.books.congr rfl rfl) (hinv.quoteBooks.insertQuote hq)
        (fun hf => (hinv.balanced hf).congr rfl rfl rfl) (fun _ w h => ⟨w, h, .refl w⟩)
        fun _ w h => ⟨w, h, .refl w, Or.inl⟩⟩
    cases r with
    | quote id =>
      have hne : ¬ q.id = id := fun h => hr (Or.inl (by rw [h]; exact List.mem_singleton.mpr rfl))
      exact ⟨by rw [find?_insertQuote, if_neg hne, Option.or_none], fun _ => rfl⟩
    | _ => simp [sameRow, PaymentDb.insertQuote]

end Repository

/-! ## Use cases -/

theorem safe_quoteWithdrawal (cfg : Settings) (driverUserId quoteId : UUID) (amount : Decimal)
    (now : DateTime) :
    Safe σ opening earnedBefore i (quoteWithdrawal cfg driverUserId quoteId amount now) :=
  (routine_safe.driverIdForUser _).bind fun _ => Safe.apiErrorIf.bind fun _ =>
    Safe.apiErrorIf.bind fun _ => (safe_getOrCreateWallet _ _).bind fun _ =>
    Safe.apiErrorIf.bind fun _ => (safe_saveWithdrawalQuote rfl).bind fun _ =>
    Safe.commitNow.bind fun _ => .ret _

section Records

variable (hrec : (σ.op i).records)

include hrec

theorem safe_settlement (ride : Rides.Ride) (status : PaymentStatus) (now : DateTime)
    (e : DriverLedgerEntry) (he : settlementEntry ride status now = some e) :
    Safe σ opening earnedBefore i (recordLedgerEntryOnce e now) :=
  safe_recordLedgerEntryOnce hrec (entryType_settlementEntry he) now

theorem safe_topupEntry (t : DriverTopup) (now : DateTime) :
    Safe σ opening earnedBefore i (recordLedgerEntryOnce (topupEntry t now) now) :=
  safe_recordLedgerEntryOnce hrec rfl now

theorem safe_applyTransactionStatus (t : Transaction) (status : PaymentStatus)
    (providerStatus : String) (paidAt : Option DateTime) (nextAction : Option (Option Json))
    (now : DateTime) :
    Safe σ opening earnedBefore i
      (applyTransactionStatus t status providerStatus paidAt nextAction now) :=
  routine_safe.applyTransactionStatus transactions_safe (safe_settlement hrec) _ _ _ _ _ _

theorem safe_applyTopupStatus (t : DriverTopup) (status : TopupStatus) (providerStatus : String)
    (paidAt : Option DateTime) (nextAction : Option (Option Json)) (now : DateTime) :
    Safe σ opening earnedBefore i
      (applyTopupStatus t status providerStatus paidAt nextAction now) :=
  routine_safe.applyTopupStatus topups_safe (safe_topupEntry hrec) _ _ _ _ _ _

theorem safe_confirmCash (rideId : UUID) (amount : Decimal) (collectedBy transactionId : UUID)
    (now : DateTime) :
    Safe σ opening earnedBefore i (confirmCash rideId amount collectedBy transactionId now) :=
  routine_safe.confirmCash transactions_safe (safe_settlement hrec) _ _ _ _ _

theorem safe_createTopup (r : TopupRequest) : Safe σ opening earnedBefore i (createTopup r) :=
  routine_safe.createTopup topups_safe (safe_topupEntry hrec) r

end Records

theorem safe_preparePayment (r : PreparationRequest) :
    Safe σ opening earnedBefore i (preparePayment r) :=
  routine_safe.preparePayment transactions_safe r

end DiddiGo.Payments
