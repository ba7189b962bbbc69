import DiddiGo.Payments.Proofs.RequestProofs

/-!
# Callbacks and sweeps under interference

What DiddiPay reports, in a callback or when it is asked again, is applied to the row that is stored.
-/

namespace DiddiGo.Payments

open Data (Json Keyed Table)
open Transactions Prog RelyGuarantee

variable {Proc World : Type} {σ : Scenario Proc World} {opening earnedBefore : UUID → Decimal}
  {i : Proc} {P P' : Point σ.machine}

/-! ## Reports about payouts -/

/-- A `SELECT` of stored withdrawals. -/
theorem wpOk_selectWithdrawals {α : Type} (hP : Tx opening earnedBefore i P) (f : PaymentDb → α)
    (mem : α → DriverWithdrawal → Prop)
    (hf : ∀ db w, mem (f db) w → w ∈ db.withdrawals.rows) :
    (protocol σ opening earnedBefore).wpOk i (Prog.select f)
      (fun a P1 => Reaches opening earnedBefore i P P1 ∧ ∀ w, mem a w → Known P1 w) P :=
  wpOk_select fun _ hs => ⟨hP.interferes hs, fun _ hw =>
    hP.known hs (Table.find?_key_of_mem (hf _ _ hw))⟩

/-- A question about payouts is answered by what DiddiPay says. -/
theorem wpOk_askPayout {q : Query} (hP : Tx opening earnedBefore i P)
    (hq : ∀ r, q ≠ .createPayout r) :
    (protocol σ opening earnedBefore).wpOk i (Prog.ask (S := sig) q)
      (fun a P1 => Reaches opening earnedBefore i P P1 ∧
        ∀ body data, a = .ok body → payoutBody q body = some data → Said P1 data) P :=
  wpOk_ask fun _ hs => by
    have hsend := Interferes.send hs hq
    refine ⟨permits_send hs.inv hq, fun s' hs' a w ha => ⟨permits_reply hs'.inv hq ha, ?_, ?_⟩⟩
    · exact hP.interferes (hsend.trans (Interferes.reply hs' hq ha))
    · exact fun body data hb hd _ => ⟨i, q, body,
        List.mem_append_right _ (List.mem_singleton.mpr (by rw [hb])), hd⟩

theorem payoutBody_payoutQuery (w : DriverWithdrawal) (body : Json) :
    payoutBody (payoutQuery w) body = some body := by
  unfold payoutQuery
  cases w.payoutId <;> rfl

theorem wpOk_applyPayoutWebhook {data : Json} (hP : Tx opening earnedBefore i P)
    (hsaid : Said P data) (payoutId : UUID) (now : DateTime) :
    (protocol σ opening earnedBefore).wpOk i (applyPayoutWebhook data payoutId now)
      (fun _ => Reaches opening earnedBefore i P) P := by
  have hfind : (protocol σ opening earnedBefore).wpOk i (findWithdrawalOfCallback data payoutId)
      (fun o P1 => Reaches opening earnedBefore i P P1 ∧ ∀ w, o = some w → Known P1 w) P := by
    refine wpOk_bind (wpOk_selectWithdrawals hP (·.withdrawalOfPayout payoutId)
      (fun o w => o = some w) fun _ _ h => List.mem_of_find?_eq_some h) fun o P1 ⟨h1, hk1⟩ => ?_
    cases o with
    | some w => exact wpOk_ret ⟨h1, hk1⟩
    | none =>
      dsimp only
      split_ifs
      · refine wpOk_bind (wpOk_selectWithdrawals h1.tx _ (fun l w => w ∈ l)
          fun _ _ h => (List.mem_filter.mp h).1) fun l P2 ⟨h2, hk2⟩ => ?_
        rcases l with _ | ⟨w, _ | ⟨w', l⟩⟩
        · exact wpOk_ret ⟨h1.trans h2, fun _ h => absurd h.symm (Option.some_ne_none _)⟩
        · refine wpOk_ret ⟨h1.trans h2, fun _ h => ?_⟩
          obtain rfl := Option.some.inj h
          exact hk2 _ (List.mem_singleton.mpr rfl)
        · exact wpOk_raise
      · exact wpOk_ret ⟨h1, fun _ h => absurd h.symm (Option.some_ne_none _)⟩
  refine wpOk_bind hfind fun o P1 ⟨h1, hk⟩ => ?_
  cases o with
  | none => exact wpOk_raise
  | some w =>
    refine wpOk_bind (Q := fun _ P2 => data.get "business_reference" = .str w.businessReference ∧
      P1 = P2) (wpOk_raiseIf fun h => ⟨not_not.mp h, rfl⟩) ?_
    rintro _ _ ⟨hb, rfl⟩
    refine wpOk_bind (Q := fun target P2 => withdrawalStatusFromDiddipay
      ((data.get "status").or (.str "")).toStr = some target ∧ P1 = P2)
      (wpOk_getOrRaise fun _ ht => ⟨ht, rfl⟩) ?_
    rintro target _ ⟨ht, rfl⟩
    refine wpOk_bind (wpOk_markWithdrawalProviderState h1.tx
      ((hsaid.along h1.records.grows).reasoned (hk w rfl) hb ht)) fun _ P2 h2 => ?_
    exact wpOk_ret (h1.trans h2)

theorem wpOk_reconcileStaleWithdrawal {w : DriverWithdrawal} (hP : Tx opening earnedBefore i P)
    (hk : Known P w) (now : DateTime) (report : ReconciliationReport) :
    (protocol σ opening earnedBefore).wpOk i (reconcileStaleWithdrawal w now report)
      (fun _ => Reaches opening earnedBefore i P) P := by
  refine wpOk_bind (wpOk_askPayout hP (payoutQuery_ne w)) fun a P1 ⟨h1, hsaid⟩ => ?_
  split
  · exact wpOk_ret h1
  · exact wpOk_raise
  · exact wpOk_ret h1
  · rename_i payout _ _
    refine wpOk_bind (Q := fun _ P2 => P1 = P2) (wpOk_getOrRaise fun _ _ => rfl) ?_
    rintro amount _ rfl
    by_cases hc : amount ≠ Decimal.toInt w.netAmount ∨ payout.get "currency" ≠ .str w.currency ∨
        payout.get "business_reference" ≠ .str w.businessReference
    · rw [if_pos hc]
      exact wpOk_ret h1
    rw [if_neg hc]
    have hb : payout.get "business_reference" = .str w.businessReference := by
      by_contra h
      exact hc (Or.inr (Or.inr h))
    dsimp only
    split
    · exact wpOk_ret h1
    · rename_i target ht
      refine wpOk_bind (Q := fun _ P2 => P1 = P2) (wpOk_getOrRaise fun _ _ => rfl) ?_
      rintro payoutId _ rfl
      have hs := hsaid payout payout rfl (payoutBody_payoutQuery w payout)
      refine wpOk_bind (wpOk_markWithdrawalProviderState h1.tx
        (hs.reasoned (hk.along h1.records.grows) hb ht)) fun updated P2 h2 => ?_
      split_ifs
      · exact wpOk_ret (h1.trans h2)
      · exact wpOk_ret (h1.trans h2)

theorem safe_reconcileStaleWithdrawals (b : SweepBounds) (now : DateTime)
    (report : ReconciliationReport) :
    Safe σ opening earnedBefore i (reconcileStaleWithdrawals b now report) := by
  intro P hP
  refine wpOk_bind (wpOk_selectWithdrawals hP _ (fun l w => w ∈ l) fun _ _ h =>
    (List.mem_filter.mp (List.mem_mergeSort.mp (List.mem_of_mem_take h))).1)
    fun l P1 ⟨h1, hk⟩ => ?_
  induction l generalizing report P1 with
  | nil => exact wpOk_ret h1
  | cons w l ih =>
    rw [List.foldlM_cons]
    refine wpOk_bind (wpOk_reconcileStaleWithdrawal h1.tx (hk w (by simp)) now report)
      fun report' P2 h2 => ih report' P2 ⟨h1.trans h2, fun w' hw' => ?_⟩ (h1.trans h2)
        fun w' hw' => ?_
    · exact (hk w' (by simp [hw'])).along h2.records.grows
    · exact (hk w' (by simp [hw'])).along h2.records.grows

theorem safe_reconcileWithdrawal (id : UUID) (now : DateTime) :
    Safe σ opening earnedBefore i (reconcileWithdrawal id now) := by
  intro P hP
  refine wpOk_bind (wpOk_selectWithdrawals hP _ (fun o w => o = some w) fun _ _ h =>
    Table.mem_of_find? h) fun o P1 ⟨h1, hk⟩ => ?_
  cases o with
  | none => exact wpOk_raise
  | some w =>
    refine wpOk_bind (Q := fun payout P2 => Reaches opening earnedBefore i P1 P2 ∧ Said P2 payout)
      (wpOk_bind (wpOk_askPayout h1.tx (payoutQuery_ne w)) fun a P2 ⟨h2, hs⟩ => ?_)
      fun payout P2 ⟨h2, hs⟩ => ?_
    · cases a with
      | error e => exact wpOk_raise
      | ok body => exact wpOk_ret ⟨h2, hs body body rfl (payoutBody_payoutQuery w body)⟩
    split_ifs
    · exact wpOk_ret (h1.trans h2)
    · have hkw := (hk w rfl).along h2.records.grows
      refine wpOk_bind (wpOk_applyWithdrawalProviderPayload h2.tx hs hkw now) fun w' P3 h3 => ?_
      refine wpOk_bind (Safe.commitNow P3 h3.tx) fun _ P4 h4 => ?_
      exact wpOk_ret (((h1.trans h2).trans h3).trans h4)

/-! ## Reports about payment intents -/

section Records

variable (hrec : (σ.op i).records)

include hrec

theorem safe_applyIntentWebhook (data : Json) (intentId : UUID) (now : DateTime) :
    Safe σ opening earnedBefore i (applyIntentWebhook data intentId now) :=
  routine_safe.applyIntentWebhook (safe_applyTransactionStatus hrec) (safe_applyTopupStatus hrec) _ _ _

theorem safe_reconcilePending (b : SweepBounds) (now : DateTime) :
    Safe σ opening earnedBefore i (reconcilePending b now) :=
  ((Safe.select _).bind fun _ => Safe.foldlM _ fun _ _ _ =>
      routine_safe.reconcileStaleTransaction (safe_applyTransactionStatus hrec) _ _ _).bind fun _ =>
    ((Safe.select _).bind fun _ => Safe.foldlM _ fun _ _ _ =>
      routine_safe.reconcileStaleTopup (safe_applyTopupStatus hrec) _ _ _).bind fun _ =>
    safe_reconcileStaleWithdrawals _ _ _

theorem safe_reconcileTransaction (rideId : UUID) (now : DateTime) :
    Safe σ opening earnedBefore i (reconcileTransaction rideId now) :=
  routine_safe.reconcileTransaction (safe_applyTransactionStatus hrec) _ _

theorem safe_reconcileTopup (topupId : UUID) (now : DateTime) :
    Safe σ opening earnedBefore i (reconcileTopup topupId now) :=
  routine_safe.reconcileTopup (safe_applyTopupStatus hrec) _ _

/-- A callback reports what DiddiPay has said. -/
theorem safe_receiveWebhook (call : WebhookCall) :
    Safe σ opening earnedBefore i (receiveWebhook call) := by
  intro P hP
  refine wpOk_bind (Q := fun body P1 => Reaches opening earnedBefore i P P1 ∧
      ∀ data, payoutBody .callback body = some data → Said P1 data)
    (wpOk_bind (wpOk_askPayout hP (by simp)) fun a P1 ⟨h1, hs⟩ => ?_) fun body P1 ⟨h1, hs⟩ => ?_
  · cases a with
    | error e => exact wpOk_raise
    | ok body => exact wpOk_ret ⟨h1, fun data => hs body data rfl⟩
  refine wpOk_bind (Safe.apiErrorIf P1 h1.tx) fun _ P2 h2 => ?_
  refine wpOk_bind (Safe.apiErrorIf P2 h2.tx) fun _ P3 h3 => ?_
  refine wpOk_bind (Safe.raiseIf _ _ P3 h3.tx) fun _ P4 h4 => ?_
  refine wpOk_bind (Safe.apiErrorIf P4 h4.tx) fun _ P5 h5 => ?_
  refine wpOk_bind (Safe.apiErrorIf P5 h5.tx) fun _ P6 h6 => ?_
  refine wpOk_bind (routine_safe.optionalUuid _ P6 h6.tx) fun intentId P7 h7 => ?_
  refine wpOk_bind (Safe.insertOnce (elsewhere_webhookEvents _) P7 h7.tx) fun stored P8 h8 => ?_
  have h := (((((h2.trans h3).trans h4).trans h5).trans h6).trans h7).trans h8
  by_cases hst : stored
  · rw [if_neg (by simp [hst])]
    refine wpOk_bind (Q := fun o P9 => Reaches opening earnedBefore i P P9 ∧
      ∀ id, o = some id → Said P9 (body.get "data")) ?_ fun o P9 ⟨h9, hsaid⟩ => ?_
    · unfold optionalUuid
      split_ifs with ht
      · refine wpOk_bind (Q := fun _ P9 => P8 = P9) (wpOk_getOrRaise fun _ _ => rfl) ?_
        rintro id _ rfl
        refine wpOk_ret ⟨h1.trans h, fun _ _ => (hs _ ?_).along h.records.grows⟩
        exact if_pos ht
      · exact wpOk_ret ⟨h1.trans h, fun _ h => absurd h.symm (Option.some_ne_none _)⟩
    cases o with
    | some payoutId =>
      exact wpOk_mono (wpOk_applyPayoutWebhook h9.tx (hsaid payoutId rfl) payoutId call.now)
        fun _ _ h' => h9.trans h'
    | none =>
      cases intentId with
      | none => exact wpOk_raise
      | some intentId =>
        exact wpOk_mono (safe_applyIntentWebhook hrec _ _ _ P9 h9.tx) fun _ _ h' => h9.trans h'
  · rw [if_pos (by simp [hst])]
    exact wpOk_ret (h1.trans h)

end Records

end DiddiGo.Payments
