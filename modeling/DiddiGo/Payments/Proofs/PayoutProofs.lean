import DiddiGo.Payments.Proofs.WithdrawalProofs
import DiddiGo.Data.Proofs.TextProofs

/-!
# Payouts under interference

The call that asks DiddiPay for a payout, and what is done with its answers and reports.
-/

namespace DiddiGo.Payments

open Data (Json Keyed Table)
open Transactions Prog RelyGuarantee

theorem payoutReference_injective {m n : UUID} (h : payoutReference m = payoutReference n) :
    m = n := by
  unfold payoutReference at h
  exact UUID.str_injective (by simpa using h)

variable {Proc World : Type} {σ : Scenario Proc World} {opening earnedBefore : UUID → Decimal}
  {i : Proc} {P P' P'' : Point σ.machine} {s : Shared σ.machine}

/-! ## Reports -/

/-- Process `i` may take it that the withdrawal was made by a request. -/
def Known (P : Point σ.machine) (w : DriverWithdrawal) : Prop :=
  Strict σ → NoReuse P.shared.trace → w.businessReference = payoutReference w.id

theorem Known.along {w : DriverWithdrawal} (h : Known P w)
    (ht : P.shared.trace <+: P'.shared.trace) : Known P' w :=
  fun hst hn => h hst (hn.along ht)

/-- The body is what DiddiPay has said about a payout. -/
def Said (P : Point σ.machine) (data : Json) : Prop :=
  Strict σ → ∃ j q body, Event.answered j q (Except.ok body) ∈ P.shared.trace ∧
    payoutBody q body = some data

theorem Said.along {data : Json} (h : Said P data)
    (ht : P.shared.trace <+: P'.shared.trace) : Said P' data := by
  intro hst
  obtain ⟨j, q, body, hm, hb⟩ := h hst
  exact ⟨j, q, body, ht.subset hm, hb⟩

theorem storedStatus_of_payout {status : String} {target : WithdrawalStatus}
    (h : withdrawalStatusFromDiddipay status = some target)
    (hr : storedStatus target = .released) : target = .failed := by
  unfold withdrawalStatusFromDiddipay at h
  split_ifs at h <;> obtain rfl := Option.some.inj h <;> first | rfl | cases hr

/-- What DiddiPay has said about a payout is a reason. -/
theorem Said.reasoned {data : Json} {w : DriverWithdrawal} {p : ProviderState} (h : Said P data)
    (hk : Known P w) (hb : data.get "business_reference" = .str w.businessReference)
    (hp : withdrawalStatusFromDiddipay ((data.get "status").or (.str "")).toStr = some p.status) :
    Reasoned P w.id p := by
  intro hr hst hn
  obtain ⟨j, q, body, hm, hbody⟩ := h hst
  have hfailed := storedStatus_of_payout hp hr
  refine Or.inl ⟨j, q, .ok body, hm, body, data, rfl, hbody, ?_, by rw [hp, hfailed]⟩
  rw [hb, hk hst hn]

/-- A withdrawal that the transaction sees is known. -/
theorem Tx.known (hP : Tx opening earnedBefore i P)
    (hs : (protocol σ opening earnedBefore).Interferes i P s) {w : DriverWithdrawal}
    (hw : (P.pending s.db).withdrawals.find? w.id = some w) : Known (P.withShared s) w :=
  fun hst hn => ((hP.ready s hs).inv.settled hst hn).references w.id w hw

theorem wpOk_getOrRaise {α : Type} {x : Option α} {e : Err}
    {Q : α → Point σ.machine → Prop} (h : ∀ a, x = some a → Q a P) :
    (protocol σ opening earnedBefore).wpOk i (getOrRaise x e) Q P := by
  cases x with
  | none => exact wpOk_raise
  | some a => exact wpOk_ret (h a rfl)

theorem wpOk_applyWithdrawalProviderPayload (hP : Tx opening earnedBefore i P)
    {w : DriverWithdrawal} {payout : Json} (hsaid : Said P payout) (hk : Known P w)
    (now : DateTime) :
    (protocol σ opening earnedBefore).wpOk i (applyWithdrawalProviderPayload w payout now)
      (fun _ => Reaches opening earnedBefore i P) P := by
  refine wpOk_bind (Q := fun _ P1 => P = P1) (wpOk_getOrRaise fun _ _ => rfl) ?_
  rintro amount _ rfl
  refine wpOk_bind (Q := fun _ P1 => P = P1) (wpOk_raiseIf fun _ => rfl) ?_
  rintro _ _ rfl
  refine wpOk_bind (Q := fun _ P1 => P = P1) (wpOk_raiseIf fun _ => rfl) ?_
  rintro _ _ rfl
  refine wpOk_bind (Q := fun _ P1 => payout.get "business_reference" = .str w.businessReference ∧
    P = P1) (wpOk_raiseIf fun h => ⟨not_not.mp h, rfl⟩) ?_
  rintro _ _ ⟨hb, rfl⟩
  refine wpOk_bind (Q := fun st P1 =>
    withdrawalStatusFromDiddipay ((payout.get "status").or (.str "")).toStr = some st ∧ P = P1)
    (wpOk_getOrRaise fun st hst => ⟨hst, rfl⟩) ?_
  rintro st _ ⟨hst, rfl⟩
  refine wpOk_bind (Q := fun _ P1 => P = P1) (wpOk_getOrRaise fun _ _ => rfl) ?_
  rintro payoutId _ rfl
  exact wpOk_markWithdrawalProviderState hP (hsaid.reasoned hk hb hst)

/-! ## The call -/

/-- Asking for the payout of a withdrawal that has not been asked for. -/
theorem permits_sendPayout {held : Row → Prop} {w y : DriverWithdrawal}
    (h : Invariant σ opening earnedBefore s)
    (hy : s.db.withdrawals.find? w.id = some y) (ho : y.order = w.order)
    (hd : w.beneficiaryDestination.isSome)
    (hown : NoReuse s.trace → (σ.op i).newWithdrawal = some w.id)
    (hfirst : ∀ e, PayoutCall i e → e ∉ s.trace) :
    (protocol σ opening earnedBefore).Permits i held s
      (s.send i (.createPayout (payoutRequest w))) := by
  have hpay : payoutRequest y = payoutRequest w := (congrArg payoutRequest ho :)
  have hyd : y.beneficiaryDestination = w.beneficiaryDestination :=
    (congrArg DriverWithdrawal.beneficiaryDestination ho :)
  have hlonger : s.trace <+: (s.send i (.createPayout (payoutRequest w))).trace :=
    List.prefix_append _ _
  refine ⟨h.record rfl rfl (fun _ _ _ _ he => nomatch he) ?_ (fun _ _ _ he => nomatch he) ?_,
    Guarantee.record rfl rfl ?_ ?_, fun r _ => sameRow_refl r _⟩
  · rintro j r ⟨⟩
    exact ⟨y, hy, hpay, by rw [hyd]; exact hd⟩
  · intro hst hn hset
    refine hset.record rfl rfl ?_ (fun j r hr => ?_) fun _ _ _ _ he => nomatch he
    · rintro j r ⟨⟩
      exact hown (hn.along hlonger)
    · have hanswered : ∀ a, Event.answered j (Query.createPayout r) a ∈
          (s.send i (.createPayout (payoutRequest w))).trace →
          Event.answered j (Query.createPayout r) a ∈ s.trace := by
        intro a hm
        exact (List.mem_append.mp hm).resolve_right fun he => nomatch List.mem_singleton.mp he
      rcases hst.honest.receives _ _ _ _ _ hr with hr' | ⟨rfl, hq⟩
      · obtain ⟨hsent, hrej⟩ := hset.accepted j r hr'
        exact ⟨hlonger.subset hsent, fun a hm => hrej a (hanswered a hm)⟩
      · obtain rfl := Query.createPayout.inj hq
        exact ⟨List.mem_append_right _ (List.mem_singleton.mpr rfl),
          fun a hm => absurd (hanswered a hm) (hfirst _ (.answered _ a))⟩
  · rintro j (_ | _)
    rfl
  · rintro hst hn j r ⟨⟩ x hx hr
    have hn' := hn.along hlonger
    have hset := h.settled hst hn'
    -- whoever asked for a payout of this withdrawal before is the same process
    have hnever : ∀ j' r', Event.sent j' (Query.createPayout r') ∈ s.trace →
        r'.withdrawalId = w.id → False := by
      intro j' r' hm hid
      have hj' := hset.caller j' r' hm
      rw [hid] at hj'
      rw [hst.distinct j' i w.id hj' (hown hn')] at hm
      exact hfirst _ (.sent r') hm
    rcases hset.released _ x hx hr with hrep | ⟨j', r', b, hm, -, hid⟩
    · obtain ⟨j', r', hm, hb⟩ := hset.reported _ hrep
      obtain ⟨w', hw', hpay', -⟩ := h.payouts j' r' hm
      have href := hset.references _ w' hw'
      have hbr : w'.businessReference = r'.businessReference :=
        (congrArg PayoutRequest.businessReference hpay' :)
      exact hnever j' r' hm (payoutReference_injective (href.symm.trans (hbr.trans hb)))
    · exact hnever j' r' (h.asked j' r' b hm) hid

/-- The first answer. -/
theorem permits_answerPayout {held : Row → Prop} {r : PayoutRequest} {a : Answer} {world : World}
    (h : Invariant σ opening earnedBefore s)
    (hsent : Event.sent i (Query.createPayout r) ∈ s.trace)
    (hfirst : ∀ r a, Event.answered i (Query.createPayout r) a ∉ s.trace)
    (ha : σ.answers s.world i (.createPayout r) a = some world) :
    (protocol σ opening earnedBefore).Permits i held s
      (s.reply i (.createPayout r) a world) := by
  have hlonger : s.trace <+: (s.reply i (.createPayout r) a world).trace :=
    List.prefix_append _ _
  refine ⟨h.record rfl rfl (fun _ _ _ _ he => nomatch he) (fun _ _ he => nomatch he) ?_ ?_,
    Guarantee.record rfl rfl ?_ (fun _ _ _ _ he => nomatch he), fun r _ => sameRow_refl r _⟩
  · rintro j r' a' ⟨⟩
    exact hsent
  · intro hst hn hset
    refine hset.record rfl rfl (fun _ _ he => nomatch he) (fun j r' hr' => ?_)
      fun j q a' b he hf => ?_
    · obtain ⟨hold, hrej⟩ := hst.honest.answers _ _ _ _ _ _ _ ha hr'
      have hlast : ∀ a', Event.answered j (Query.createPayout r') a' ∈
          (s.reply i (.createPayout r) a world).trace →
          Event.answered j (Query.createPayout r') a' ∈ s.trace ∨ isRejection a' = false := by
        intro a' hm
        rcases List.mem_append.mp hm with hm | hm
        · exact Or.inl hm
        · cases List.mem_singleton.mp hm
          exact Or.inr (by simpa using hrej)
      rcases hold with hold | ⟨rfl, hq⟩
      · obtain ⟨hs, hr⟩ := hset.accepted j r' hold
        exact ⟨hlonger.subset hs, fun a' hm => (hlast a' hm).elim (hr a') id⟩
      · obtain rfl := Query.createPayout.inj hq
        exact ⟨hlonger.subset hsent,
          fun a' hm => (hlast a' hm).resolve_left (hfirst _ a')⟩
    · cases he
      exact hst.honest.reports _ _ _ _ _ _ ha hf
  · rintro j (_ | _)
    rfl

theorem wpOk_sendPayout {w x : DriverWithdrawal} (hpend : P.pending = id)
    (hx : P.shared.db.withdrawals.find? w.id = some x) (ho : x.order = w.order)
    (hd : w.beneficiaryDestination.isSome)
    (hown : NoReuse P.shared.trace → (σ.op i).newWithdrawal = some w.id)
    (hfirst : ∀ e, PayoutCall i e → e ∉ P.shared.trace) (later : DateTime) :
    (protocol σ opening earnedBefore).wpOk i (sendPayout w later)
      (fun _ => Tx opening earnedBefore i) P := by
  refine wpOk_bind (Q := fun a P1 => Tx opening earnedBefore i P1 ∧
      Event.answered i (Query.createPayout (payoutRequest w)) a ∈ P1.shared.trace ∧ Known P1 w)
    (wpOk_ask fun s hs => ?_) fun a P1 ⟨h1, hm, hk⟩ => ?_
  · have hid : x.id = w.id := id_of_find? hx
    have hxd : x.beneficiaryDestination = w.beneficiaryDestination :=
      (congrArg DriverWithdrawal.beneficiaryDestination ho :)
    obtain ⟨y, hy, hyx⟩ := (Tx.of_id hpend).order_of_interferes hs (x := x)
      (by rw [hpend, hid]; exact hx) (Or.inr (by rw [hxd]; exact hd))
    rw [hpend, hid] at hy
    have hyo : y.order = w.order := hyx.trans ho
    have hnone : ∀ e, PayoutCall i e → e ∉ s.trace :=
      fun e he hm => hfirst e he (hs.rely.calls e he hm)
    refine ⟨permits_sendPayout hs.inv hy hyo hd
      (fun hn => hown (hn.along hs.rely.trace)) hnone, fun s' hs' a world ha => ?_⟩
    have hsent : Event.sent i (Query.createPayout (payoutRequest w)) ∈ s'.trace :=
      hs'.rely.trace.subset (List.mem_append_right _ (List.mem_singleton.mpr rfl))
    have hunanswered : ∀ r b, Event.answered i (Query.createPayout r) b ∉ s'.trace := by
      intro r b hm
      rcases List.mem_append.mp (hs'.rely.calls _ (.answered r b) hm) with hm | hm
      · exact hnone _ (.answered r b) hm
      · cases List.mem_singleton.mp hm
    refine ⟨permits_answerPayout hs'.inv hsent hunanswered ha, .of_id hpend,
      List.mem_append_right _ (List.mem_singleton.mpr rfl), fun hst hn => ?_⟩
    obtain ⟨w', hw', hpay, -⟩ := hs'.inv.payouts i _ hsent
    have hb : w'.businessReference = w.businessReference :=
      (congrArg PayoutRequest.businessReference hpay :)
    rw [← hb]
    exact (hs'.inv.settled hst (hn.along (List.prefix_append _ _))).references w.id w' hw'
  rcases a with e | payout
  · cases e with
    | api e =>
      dsimp only
      split_ifs with he
      · refine wpOk_bind (wpOk_markWithdrawalProviderState h1 fun _ _ _ => Or.inr
          ⟨i, payoutRequest w, _, hm, ?_, rfl⟩) fun _ P2 h2 => ?_
        · simpa [isRejection] using he
        · exact wpOk_bind (Safe.commitNow P2 h2.tx) fun _ _ _ => wpOk_raise
      · exact wpOk_raise
    | _ => exact wpOk_raise
  · have hsaid : Said P1 payout := fun _ => ⟨i, _, payout, hm, rfl⟩
    refine wpOk_bind (wpOk_applyWithdrawalProviderPayload h1 hsaid hk later) fun w' P2 h2 => ?_
    exact wpOk_bind (Safe.commitNow P2 h2.tx) fun _ P3 h3 => wpOk_ret h3.tx

/-! ## Requests about withdrawals -/

theorem safe_driverIdForUser (userId : UUID) :
    Safe σ opening earnedBefore i (driverIdForUser userId) := by
  refine (Safe.select _).bind fun o => ?_
  cases o with
  | none => exact .raise _
  | some p => exact .ret _

theorem safe_consumeWithdrawalVerification (verificationId driverId : UUID) (destination : Json)
    (codeHash : String) (maxAttempts : Nat) (now : DateTime) :
    Safe σ opening earnedBefore i
      (consumeWithdrawalVerification verificationId driverId destination codeHash maxAttempts now) := by
  refine (Safe.selectForUpdate _ _).bind fun o => ?_
  cases o with
  | none => exact .raise _
  | some v =>
    refine (Safe.raiseIf _ _).bind fun _ => (Safe.raiseIf _ _).bind fun _ =>
      (Safe.raiseIf _ _).bind fun _ => (Safe.raiseIf _ _).bind fun _ => ?_
    have hwrite : ∀ g : PaymentDb → Table DriverWithdrawalVerification,
        Elsewhere fun db => { db with verifications := g db } :=
      fun g => ⟨fun _ => rfl, fun _ => rfl, fun _ => rfl, fun _ => rfl⟩
    split_ifs
    · exact (Safe.update (hwrite _)).bind fun _ => (Safe.raiseIf _ _).bind fun _ => .raise _
    · exact (Safe.update (hwrite _)).bind fun _ => .ret _

/-- `request_withdrawal` ends where the process may commit, if it draws the identifier of the process and
the process has not asked for a payout. -/
theorem wpOk_requestWithdrawal (hP : Tx opening earnedBefore i P) (cfg : Settings)
    (r : WithdrawalRequest) (hown : (σ.op i).newWithdrawal = some r.withdrawalId)
    (hfirst : ∀ e, PayoutCall i e → e ∉ P.shared.trace) :
    (protocol σ opening earnedBefore).wpOk i (requestWithdrawal cfg r)
      (fun _ => Tx opening earnedBefore i) P := by
  refine wpOk_bind (safe_driverIdForUser _ P hP) fun driverId P1 h1 => ?_
  refine wpOk_bind (Safe.apiErrorIf P1 h1.tx) fun _ P2 h2 => ?_
  refine wpOk_bind (Safe.apiErrorIf P2 h2.tx) fun _ P3 h3 => ?_
  refine wpOk_bind (Safe.select _ P3 h3.tx) fun o P4 h4 => ?_
  cases o with
  | some w => exact wpOk_bind (Safe.apiErrorIf P4 h4.tx) fun _ P5 h5 => wpOk_ret h5.tx
  | none =>
    refine wpOk_bind ((safe_consumeWithdrawalVerification _ _ _ _ _ _).lookupAsApiError _ _ P4 h4.tx)
      fun _ P5 h5 => ?_
    have h := (((h1.trans h2).trans h3).trans h4).trans h5
    refine wpOk_bind (wpOk_tryCatch (wpOk_reserveWithdrawalFromQuote h5.tx
      (requestedWithdrawal r driverId) r.now fun _ => rfl) fun e _ => by cases e <;> exact wpOk_raise)
      fun w P6 h6 => ?_
    have hrecords := h.records.trans h6.records
    refine wpOk_bind (Q := fun _ P7 => P7.pending = id ∧
        Records i P.shared.trace P7.shared.trace ∧ (NoReuse P7.shared.trace → w.id = r.withdrawalId) ∧
        ∃ x, P7.shared.db.withdrawals.find? w.id = some x ∧ x.order = w.order)
      (wpOk_commitNow fun s hs => ?_) fun _ P7 ⟨hpend, hrec, hid, x, hx, ho⟩ => ?_
    · exact ⟨h6.ready s hs, rfl, hrecords.trans ⟨hs.rely.trace, hs.rely.calls⟩,
        fun hn => h6.own (hn.along hs.rely.trace), h6.row s hs⟩
    · exact wpOk_sendPayout hpend hx ho (h6.destination rfl) (fun hn => by rw [hown, hid hn])
        (fun e he hm => hfirst e he (hrec.calls e he hm)) r.later

end DiddiGo.Payments
