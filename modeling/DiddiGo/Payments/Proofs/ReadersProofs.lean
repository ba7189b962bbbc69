import DiddiGo.Payments.Proofs.TopupProofs

/-!
# The two readers of provider statuses

The wallet service reads the status of a new top-up as it stands, the payment service reads it without
blanks around it, in lower case, and takes the statuses of an expired intent for a cancellation.
-/

namespace DiddiGo.Payments

open Data (Json Keyed Table)
open Transactions Prog

variable {ask : Query → Answer} {db : PaymentDb} {text : String}

/-! ## Texts -/

namespace PaymentStatus

theorem ofString_value (s : PaymentStatus) : ofString s.value = some s := by
  cases s <;> rfl

theorem value_of_ofString {s : PaymentStatus} (h : ofString text = some s) : text = s.value := by
  unfold ofString at h
  split at h
  case h_11 => cases h
  all_goals
    obtain rfl := Option.some.inj h
    rfl

theorem ofString_eq_none_iff : ofString text = none ↔ ∀ s : PaymentStatus, text ≠ s.value := by
  constructor
  · rintro h s rfl
    rw [ofString_value] at h
    cases h
  · intro h
    cases hs : ofString text with
    | none => rfl
    | some s => exact absurd (value_of_ofString hs) (h s)

/-- A payment status is written without blanks and in lower case. -/
theorem normalized_value (s : PaymentStatus) : Data.lower (Data.strip s.value) = s.value := by
  cases s <;> decide +kernel

/-- No payment status is written like a status of an expired intent. -/
theorem value_ne_alias (s : PaymentStatus) : s.value ≠ "expired" ∧ s.value ≠ "abandoned" ∧ s.value ≠ "" := by
  cases s <;> decide

end PaymentStatus

theorem paymentStatusFromDiddipay_value (s : PaymentStatus) :
    paymentStatusFromDiddipay s.value = some s := by
  have h := s.value_ne_alias
  unfold paymentStatusFromDiddipay
  rw [s.normalized_value, if_neg fun ha => ha.elim h.1 h.2.1, s.ofString_value]

/-- What the wallet service reads is written out, or it is the default for the empty text. -/
theorem text_of_walletStatus {s : PaymentStatus} (h : walletPaymentStatusFromDiddipay text = some s) :
    text = "" ∧ s = .requiresAction ∨ text = s.value := by
  unfold walletPaymentStatusFromDiddipay at h
  by_cases ht : text = ""
  · rw [if_pos ht] at h
    exact Or.inl ⟨ht, (Option.some.inj h).symm⟩
  · rw [if_neg ht] at h
    exact Or.inr (PaymentStatus.value_of_ofString h)

theorem readersAgree_iff_plain : ReadersAgree text ↔ PlainStatus text := by
  unfold ReadersAgree PlainStatus
  by_cases ht : text = ""
  · subst ht
    exact iff_of_false (by decide +kernel) fun h => h.1 rfl
  have hwallet : walletPaymentStatusFromDiddipay text = PaymentStatus.ofString text := by
    rw [walletPaymentStatusFromDiddipay, if_neg ht]
  rw [hwallet]
  by_cases halias : Data.lower (Data.strip text) = "expired" ∨ Data.lower (Data.strip text) = "abandoned"
  · -- the payment service takes it for a cancellation, whose own text is no such alias
    refine iff_of_false (fun h => ?_) fun h => halias.elim h.2.1 h.2.2.1
    simp only [paymentStatusFromDiddipay, if_pos halias] at h
    obtain rfl := PaymentStatus.value_of_ofString h
    revert halias
    decide +kernel
  simp only [paymentStatusFromDiddipay, if_neg halias]
  constructor
  · intro h
    refine ⟨ht, fun hx => halias (Or.inl hx), fun hx => halias (Or.inr hx), ?_⟩
    cases hs : PaymentStatus.ofString text with
    | none =>
      rw [hs] at h
      exact Or.inr (PaymentStatus.ofString_eq_none_iff.mp h.symm)
    | some s =>
      rw [PaymentStatus.value_of_ofString hs]
      exact Or.inl s.normalized_value
  · rintro ⟨-, -, -, hsame | hnone⟩
    · rw [hsame]
    · rw [PaymentStatus.ofString_eq_none_iff.mpr hnone, PaymentStatus.ofString_eq_none_iff]
      -- a payment status would have been read without any change
      rintro s rfl
      exact hnone s s.normalized_value

/-! ## Creation and reconciliation -/

theorem readersAgree_of_wallet {s : PaymentStatus} (h : walletPaymentStatusFromDiddipay text = some s)
    {s' : PaymentStatus} (h' : paymentStatusFromDiddipay text = some s') : s' = s := by
  rcases text_of_walletStatus h with ⟨rfl, rfl⟩ | rfl
  · revert h'
    simp [paymentStatusFromDiddipay, PaymentStatus.ofString, Data.lower, Data.strip]
  · rw [paymentStatusFromDiddipay_value] at h'
    exact (Option.some.inj h').symm

theorem status_marked (t : DriverTopup) (status : TopupStatus) (providerStatus : String)
    (paidAt : Option DateTime) (nextAction : Option (Option Json)) :
    (t.marked status providerStatus paidAt nextAction).status = status := rfl

/-- A top-up keeps its status in the reconciliation with the intent that it was created from. -/
theorem status_of_reconciled {t : DriverTopup} {intent : Json} {now : DateTime} {db' : PaymentDb}
    (hcreated : t.CreatedFrom ask intent) (hanswers : Answers ask t.paymentIntentId intent)
    (hrow : db.topups.find? t.id = some t) (h : ReconciledTopup ask db t now db') :
    (db'.topups.find? t.id).map (·.status) = some t.status := by
  obtain ⟨-, -, status, hstatus, hts⟩ := hcreated
  obtain ⟨id, hid, hask⟩ := hanswers
  rcases h with rfl | ⟨intent', status', x, ⟨id', hid', hask'⟩, -, hstatus', hx, rfl⟩
  · rw [hrow]
    rfl
  · obtain rfl := Option.some.inj (hid.symm.trans hid')
    obtain rfl : intent' = intent := Except.ok.inj (hask'.symm.trans hask)
    rw [topups_credit, find?_markTopup, if_pos rfl, hrow, Option.map_some, Option.map_some,
      status_marked, readersAgree_of_wallet hstatus hstatus', hts]

theorem topupStable (text : String) : TopupStable text := by
  intro ask hask db r now
  refine (ensures_createTopup r).mono (fun _ h => h) ?_
  rintro t created ⟨⟨intent, hcreated⟩, -, hfree, rfl⟩
  have hrow : ((db.insertTopup t).credit t r.now).topups.find? t.id = some t := by
    rw [topups_credit, find?_insertTopup hfree, if_pos rfl]
  have hanswers : Answers ask t.paymentIntentId intent := by
    obtain ⟨⟨q, hq⟩, ⟨id, hid, htid⟩, -⟩ := hcreated
    exact ⟨id, htid, (hask q intent hq).2 id hid⟩
  refine (ensures_reconcileTopup t.id now).mono (fun _ h => h) ?_
  rintro - db' ⟨t', ht', h⟩
  obtain rfl := Option.some.inj (ht'.symm.trans hrow)
  exact status_of_reconciled hcreated hanswers hrow h

/-! ## The readers -/

/-- A text is read the same, and a top-up created from it keeps its status, exactly if the text is plain. -/
theorem readersAgree_iff (text : String) : ReadersAgree text ∧ TopupStable text ↔ PlainStatus text :=
  ⟨fun h => readersAgree_iff_plain.mp h.1, fun h => ⟨readersAgree_iff_plain.mpr h, topupStable text⟩⟩

/-- A new intent that has expired by the time it is answered is a cancelled one for the payment service,
and an error for the wallet service. -/
theorem readersDisagree_expired : ¬ (ReadersAgree "expired" ∧ TopupStable "expired") := by
  rintro ⟨h, -⟩
  revert h
  unfold ReadersAgree
  decide +kernel

end DiddiGo.Payments
