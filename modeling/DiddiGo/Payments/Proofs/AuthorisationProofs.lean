import DiddiGo.Payments.Authorisation
import DiddiGo.Payments.Proofs.GuessingProofs
import DiddiGo.Transactions.Proofs.StagesProofs

/-!
# A verification authorises one withdrawal

The row of a verification stays locked from its check to the commit of the reservation, so the commit
finds it as it was checked. What fails before DiddiPay is asked is rolled back as a whole.
-/

namespace DiddiGo.Payments

open Data (Json Keyed Table)
open Transactions Prog RelyGuarantee

variable {Proc World : Type} {σ : Scenario Proc World} {req : Proc → WithdrawalRequest} {i : Proc}
  {r : WithdrawalRequest} {driverId : UUID} {v : DriverWithdrawalVerification} {db db' db'' : PaymentDb}

/-! ## Changes -/

theorem Consumed.of_update (id : UUID) (now : DateTime) {id' : UUID} (h : Consumed id' db)
    (hv : db'.verifications = db.verifications.update id fun v => { v with consumedAt := some now }) :
    Consumed id' db' := by
  obtain ⟨v, hfound, hconsumed⟩ := h
  unfold Consumed
  rw [hv, Table.find?_update]
  by_cases hid : id' = id
  · rw [if_pos hid, hfound]
    exact ⟨_, rfl, rfl⟩
  · rw [if_neg hid]
    exact ⟨v, hfound, hconsumed⟩

theorem WithdrawalRequest.Authorises.refl (r : WithdrawalRequest) (db : PaymentDb) :
    r.Authorises db db :=
  ⟨fun _ h => h, fun _ _ h => nomatch h.1.symm.trans h.2⟩

namespace Apart

theorem openWallet (d : UUID) (currency : String) : Apart fun db => db.openWallet d currency :=
  ⟨fun _ => rfl, fun _ => rfl⟩

theorem flushWallet (d : UUID) (old new : Decimal) (now : DateTime) :
    Apart fun db => db.flushWallet d old new now := ⟨fun _ => rfl, fun _ => rfl⟩

theorem insertEntry (e : DriverLedgerEntry) : Apart fun db => db.insertEntry e :=
  ⟨fun _ => rfl, fun _ => rfl⟩

theorem consumeQuote (id : UUID) (now : DateTime) : Apart fun db => db.consumeQuote id now :=
  ⟨fun _ => rfl, fun _ => rfl⟩

end Apart

namespace Harmless

theorem id : Harmless id := ⟨fun _ => rfl, fun _ _ h => h⟩

theorem comp {f g : PaymentDb → PaymentDb} (hg : Harmless g) (hf : Harmless f) : Harmless (g ∘ f) where
  verifications db := (hg.verifications (f db)).trans (hf.verifications db)
  withdrawals db id h := hg.withdrawals (f db) id (hf.withdrawals db id h)

theorem of_apart {f : PaymentDb → PaymentDb} (h : Apart f) : Harmless f :=
  ⟨h.verifications, fun db id hid => by rw [h.withdrawals]; exact hid⟩

theorem markWithdrawal (id : UUID) (p : ProviderState) (now : DateTime) :
    Harmless fun db => db.markWithdrawal id p now := by
  refine ⟨fun _ => rfl, fun db id' h => ?_⟩
  change (db.withdrawals.update id _).find? id' = none
  rw [Table.find?_update]
  split_ifs with hid
  · rw [h]
    rfl
  · exact h

theorem fillDestination (id : UUID) (destination : Option Json) :
    Harmless fun db => db.fillDestination id destination := by
  refine ⟨fun _ => rfl, fun db id' h => ?_⟩
  change (db.withdrawals.update id _).find? id' = none
  rw [Table.find?_update]
  split_ifs with hid
  · rw [h]
    rfl
  · exact h

theorem authorises {f : PaymentDb → PaymentDb} (h : Harmless f) (r : WithdrawalRequest)
    (db : PaymentDb) : r.Authorises db (f db) where
  consumed id hc := by
    unfold Consumed
    rw [h.verifications]
    exact hc
  reserved id w hw := by
    have hnone := h.withdrawals db id hw.1
    rw [hw.2] at hnone
    cases hnone

end Harmless

/-! ## Stages -/

theorem stage_idle : (authorisation σ req).Stage i Harmless Idle where
  interfere hP _ := hP
  hold hP _ := hP
  write hP hf := hf.comp hP

theorem stage_holding : (authorisation σ req).Stage i Harmless (Holding r driverId v fun _ => False) where
  interfere hP hs := { hP with found := (hs.same _ hP.held).symm.trans hP.found }
  hold hP h := { hP with held := h _ hP.held }
  write {P f} hP hf :=
    { hP with
      consumed := fun db => (hf.verifications _).trans (hP.consumed db)
      reserved := fun db id w hw => by
        cases hid : (P.pending db).withdrawals.find? id with
        | some x => exact hP.reserved db id x ⟨hw.1, hid⟩
        | none =>
          have hnone := hf.withdrawals _ id hid
          have hsome : (f (P.pending db)).withdrawals.find? id = some w := hw.2
          rw [hsome] at hnone
          cases hnone }

theorem stage_reserved {made : DriverWithdrawal → Prop} :
    (authorisation σ req).Stage i Apart (Holding r driverId v made) where
  interfere hP hs := { hP with found := (hs.same _ hP.held).symm.trans hP.found }
  hold hP h := { hP with held := h _ hP.held }
  write {P f} hP hf :=
    { hP with
      consumed := fun db => (hf.verifications _).trans (hP.consumed db)
      reserved := fun db id w hw => by
        refine hP.reserved db id w ⟨hw.1, ?_⟩
        rw [← hf.withdrawals]
        exact hw.2 }

/-- Nothing that is not published matters to the others. -/
theorem permits_of_db {held : Row → Prop} {s s' : Shared σ.machine} (h : s'.db = s.db) :
    (authorisation σ req).Permits i held s s' where
  inv := trivial
  guar := by
    change (req i).Authorises s.db s'.db
    rw [h]
    exact .refl _ _
  frame k _ := by
    rw [h]
    exact (authorisation σ req).same_refl k _

/-- Harmless changes may be published. -/
theorem permits_of_idle {held : Row → Prop} {s s' : Shared σ.machine} {f : PaymentDb → PaymentDb}
    (hf : Harmless f) (h : s'.db = f s.db) : (authorisation σ req).Permits i held s s' where
  inv := trivial
  guar := by
    change (req i).Authorises s.db s'.db
    rw [h]
    exact hf.authorises _ _
  frame k _ := by
    rw [h]
    cases k with
    | verification id => exact (congrArg (·.find? id) (hf.verifications s.db)).symm
    | _ => trivial

/-- So may what the request has done under its verification. -/
theorem permits_of_holding {P : Point σ.machine} {s s' : Shared σ.machine}
    (hP : Holding (req i) driverId v ((req i).Authorised v) P) (hs : (authorisation σ req).Interferes i P s)
    (h : s'.db = P.pending s.db) : (authorisation σ req).Permits i P.held s s' where
  inv := trivial
  guar := by
    change (req i).Authorises s.db s'.db
    rw [h]
    have hfound : s.db.verifications.find? (req i).verificationId = some v :=
      (stage_reserved.interfere hP hs).found
    refine ⟨fun id hid => hid.of_update _ _ (hP.consumed s.db), fun id w hw => ⟨v, hP.reserved _ _ _ hw, hfound, ?_⟩⟩
    rw [hP.consumed, Table.find?_update, if_pos rfl, hfound]
    rfl
  frame k hk := by
    rw [h]
    cases k with
    | verification id =>
      change s.db.verifications.find? id = _
      rw [hP.consumed, Table.find?_update, if_neg]
      rintro rfl
      exact hk hP.held
    | _ => trivial

/-! ## Repository methods -/

section Repository

variable {J : Point σ.machine → Prop} (hJ : (authorisation σ req).Stage i Apart J)

include hJ

theorem stays_getOrCreateWallet (d : UUID) (currency : String) :
    (authorisation σ req).Stays i J (getOrCreateWallet d currency) := by
  refine (Stays.select hJ _).bind fun o => ?_
  cases o with
  | some w => exact .ret _
  | none =>
    refine (Stays.insertOnce hJ (.openWallet d currency)).bind fun _ => (Stays.select hJ _).bind fun o => ?_
    cases o with
    | some w => exact .ret _
    | none => exact .raise _

theorem stays_lockWallet (d : UUID) (currency : String) :
    (authorisation σ req).Stays i J (lockWallet d currency) := by
  refine (Stays.selectForUpdate hJ _ _).bind fun o => ?_
  cases o with
  | some w => exact .ret _
  | none =>
    refine (stays_getOrCreateWallet hJ d currency).bind fun _ =>
      (Stays.selectForUpdate hJ _ _).bind fun o => ?_
    cases o with
    | some w => exact .ret _
    | none => exact .raise _

end Repository

theorem stays_reuseWithdrawal (w : DriverWithdrawal) :
    (authorisation σ req).Stays i (Holding r driverId v fun _ => False) (reuseWithdrawal w) := by
  refine Stays.bind (fun P hP => wpOk_selectAs fun s hs => ⟨permits_of_db rfl, ?_⟩) fun o => ?_
  · exact { stage_holding.interfere hP hs with }
  cases o with
  | none => exact .raise _
  | some row =>
    dsimp only
    split_ifs
    · exact (Stays.update stage_holding (.fillDestination _ _)).bind fun _ => .ret _
    · exact .ret _

/-- The row that is reserved for a verified request is authorised. -/
theorem WithdrawalRequest.Verified.authorised (h : r.Verified driverId v) (quote : DriverWithdrawalQuote) :
    r.Authorised v (reservedRow (requestedWithdrawal r driverId) quote r.now) where
  id := rfl
  unused := h.unused
  driver := h.driver.symm
  destination := congrArg some h.destination.symm
  code := h.code.symm
  inTime := h.inTime

theorem Holding.weaken {made : DriverWithdrawal → Prop} {P : Point σ.machine}
    (h : Holding r driverId v (fun _ => False) P) : Holding r driverId v made P :=
  { h with reserved := fun db id w hw => (h.reserved db id w hw).elim }

/-- The withdrawal is inserted. -/
theorem Holding.insert {P : Point σ.machine} {held : Row → Prop} {row : DriverWithdrawal}
    (h : Holding r driverId v (fun _ => False) P) (hrow : r.Authorised v row)
    (hheld : ∀ k, P.held k → held k) :
    Holding r driverId v (r.Authorised v)
      { shared := P.shared, held := held
        pending := (fun db : PaymentDb => db.insertWithdrawal row) ∘ P.pending } :=
  { h with
    held := hheld _ h.held
    consumed := h.consumed
    reserved := fun db id w hw => by
      cases hid : (P.pending db).withdrawals.find? id with
      | some x => exact (h.reserved db id x ⟨hw.1, hid⟩).elim
      | none =>
        have hsome : ((P.pending db).withdrawals.insert row).find? id = some w := hw.2
        rw [Table.find?_insert, hid, Option.none_or, Option.ite_none_right_eq_some] at hsome
        obtain rfl := Option.some.inj hsome.2
        exact hrow }

theorem wp_reserveWithdrawalFromQuote {P : Point σ.machine} (hP : Holding r driverId v (fun _ => False) P) :
    (authorisation σ req).wpOk i (reserveWithdrawalFromQuote (requestedWithdrawal r driverId) r.now)
      (fun _ => Holding r driverId v (r.Authorised v)) P := by
  refine wpOk_bind (Stays.selectForUpdate stage_holding _ _ P hP) fun o P hP => ?_
  cases o with
  | none => exact wpOk_raise
  | some quote =>
    refine wpOk_raiseIf_bind fun _ => ?_
    by_cases hused : quote.consumedAt ≠ none
    · rw [if_pos hused]
      exact wpOk_mono (stays_reuseWithdrawal _ P hP) fun _ _ h => h.weaken
    rw [if_neg hused]
    refine wpOk_raiseIf_bind fun _ => wpOk_bind (stays_lockWallet stage_reserved _ _ P hP) fun _ P hP =>
      wpOk_raiseIf_bind fun _ => ?_
    refine wpOk_bind (Q := fun _ => Holding r driverId v (r.Authorised v)) (wpOk_writeOrRaise fun s hs _ =>
      (stage_holding.interfere hP hs).insert (hP.verified.authorised quote) fun _ h => Or.inr h) ?_
    intro _ P hP
    have hrest : (authorisation σ req).Stage i Apart (Holding r driverId v (r.Authorised v)) :=
      stage_reserved
    exact wpOk_bind (Stays.update hrest (.consumeQuote _ _) P hP) fun _ P hP =>
      wpOk_bind (Stays.update hrest (.flushWallet _ _ _ _) P hP) fun _ P hP =>
      wpOk_bind (Stays.writeOrRaise hrest (.insertEntry _) P hP) fun _ P hP => wpOk_ret hP

/-- The check locks the row of the verification and consumes it. -/
theorem wp_consumeWithdrawalVerification {P : Point σ.machine} {maxAttempts : Nat} (hP : Idle P) :
    (authorisation σ req).wpOk i (consumeWithdrawalVerification r.verificationId driverId
        r.beneficiaryDestination r.codeHash maxAttempts r.now)
      (fun _ P' => ∃ v, Holding r driverId v (fun _ => False) P') P := by
  refine wpOk_bind (Q := fun o P' => Idle P' ∧ ∀ v, o = some v →
    P'.held (.verification r.verificationId) ∧
      P'.shared.db.verifications.find? r.verificationId = some v)
    (wpOk_selectForUpdate fun s hs => ⟨hP, fun v hv => ⟨Or.inl ⟨by rw [hv]; rfl, rfl⟩, ?_⟩⟩) ?_
  · rw [← hv, hP.verifications]
  rintro o P ⟨hP, hfound⟩
  cases o with
  | none => exact wpOk_raise
  | some v =>
    obtain ⟨hheld, hfound⟩ := hfound v rfl
    refine wpOk_raiseIf_bind fun hdriver => wpOk_raiseIf_bind fun hunused =>
      wpOk_raiseIf_bind fun hfresh => wpOk_raiseIf_bind fun _ => ?_
    by_cases hwrong : v.beneficiaryDestination ≠ r.beneficiaryDestination ∨ v.codeHash ≠ r.codeHash
    · rw [if_pos hwrong]
      exact wpOk_bind (Q := fun _ _ => True) (wpOk_update fun _ _ => trivial) fun _ _ _ =>
        wpOk_raiseIf_bind fun _ => wpOk_raise
    · rw [if_neg hwrong]
      rw [not_or, not_not, not_not] at hwrong
      refine wpOk_bind (wpOk_update fun s hs => ?_) fun _ _ h => wpOk_ret h
      have hverified : r.Verified driverId v :=
        ⟨not_not.mp hunused, not_not.mp hdriver, hwrong.1, hwrong.2, not_le.mp hfresh⟩
      refine ⟨v, hverified, Or.inr hheld, (hs.same _ hheld).symm.trans hfound, fun db => ?_, fun db id w hw => ?_⟩
      · change (P.pending db).verifications.update r.verificationId _ = _
        rw [hP.verifications]
      · have hnone := hP.withdrawals db id hw.1
        have hsome : (P.pending db).withdrawals.find? id = some w := hw.2
        rw [hsome] at hnone
        cases hnone

/-! ## The rest of a request -/

theorem stays_markWithdrawalProviderState (id : UUID) (p : ProviderState) (now : DateTime) :
    (authorisation σ req).Stays i Idle (markWithdrawalProviderState id p now) := by
  refine (Stays.selectForUpdate stage_idle _ _).bind fun o => ?_
  cases o with
  | none => exact .raise _
  | some w =>
    have hentry (t : WalletEntryType) (d : WalletEntryDirection) : (authorisation σ req).Stays i Idle
        (insertWithdrawalLedgerOnce w t d now) :=
      Stays.insertOnce stage_idle (.of_apart (.insertEntry _))
    dsimp only
    by_cases hfinal : w.status = .succeeded ∨ w.status = .released
    · rw [if_pos hfinal]
      exact .ret _
    rw [if_neg hfinal]
    refine (Stays.writeOrRaise stage_idle (.markWithdrawal id p now)).bind fun _ => ?_
    by_cases hs : storedStatus p.status = .succeeded
    · rw [if_pos hs]
      exact (hentry _ _).bind fun _ => .ret _
    rw [if_neg hs]
    by_cases hr : storedStatus p.status = .released
    · rw [if_pos hr]
      refine (hentry _ _).bind fun inserted => ?_
      by_cases hi : inserted = true
      · rw [if_pos hi]
        refine (Stays.selectForUpdate stage_idle _ _).bind fun o => ?_
        cases o with
        | none => exact .raise _
        | some wallet =>
          exact (Stays.update stage_idle (.of_apart (.flushWallet _ _ _ _))).bind fun _ => .ret _
      · rw [if_neg hi]
        exact .ret _
    · rw [if_neg hr]
      exact .ret _

theorem stays_getOrRaise {α : Type} {J : Point σ.machine → Prop} (x : Option α) (e : Err) :
    (authorisation σ req).Stays i J (getOrRaise x e) := by
  cases x with
  | none => exact .raise _
  | some a => exact .ret _

theorem stays_commitNow : (authorisation σ req).Stays i Idle (Prog.commitNow (S := sig)) :=
  fun _ hP => wpOk_commitNow fun _ _ => ⟨permits_of_idle hP rfl, .id⟩

theorem stays_sendPayout (w : DriverWithdrawal) (later : DateTime) :
    (authorisation σ req).Stays i Idle (sendPayout w later) := by
  refine Stays.bind (fun P hP => wpOk_ask fun s hs =>
    ⟨permits_of_db rfl, fun s' hs' a w ha => ⟨permits_of_db rfl, hP⟩⟩) fun a => ?_
  rcases a with e | payout
  · cases e with
    | api e =>
      dsimp only
      split_ifs
      · exact (stays_markWithdrawalProviderState _ _ _).bind fun _ => stays_commitNow.bind fun _ => .raise _
      · exact .raise _
    | _ => exact .raise _
  · refine Stays.bind ?_ fun _ => stays_commitNow.bind fun _ => .ret _
    exact (stays_getOrRaise _ _).bind fun _ => (Stays.raiseIf _ _).bind fun _ =>
      (Stays.raiseIf _ _).bind fun _ => (Stays.raiseIf _ _).bind fun _ =>
      (stays_getOrRaise _ _).bind fun _ => (stays_getOrRaise _ _).bind fun _ =>
      stays_markWithdrawalProviderState _ _ _

theorem wp_lookupAsApiError {α : Type} {p : Action α} {Q : α → Point σ.machine → Prop}
    {P : Point σ.machine} (h : (authorisation σ req).wpOk i p Q P) (status : String → Nat)
    (message : String) : (authorisation σ req).wpOk i (lookupAsApiError p status message) Q P :=
  wpOk_tryCatch h fun e _ => by cases e <;> exact wpOk_raise

theorem wp_requestWithdrawal {cfg : Settings} {P : Point σ.machine} (hP : Idle P) :
    (authorisation σ req).wpOk i (requestWithdrawal cfg (req i)) (fun _ => Idle) P := by
  refine wpOk_bind (Q := fun _ => Idle) ?_ fun driverId P hP => ?_
  · refine wpOk_bind (Stays.select stage_idle _ P hP) fun o P hP => ?_
    cases o with
    | none => exact wpOk_raise
    | some profile => exact wpOk_ret hP
  refine wpOk_raiseIf_bind fun _ => wpOk_raiseIf_bind fun _ =>
    wpOk_bind (Stays.select stage_idle _ P hP) fun o P hP => ?_
  cases o with
  | some existing => exact wpOk_raiseIf_bind fun _ => wpOk_ret hP
  | none =>
    refine wpOk_bind (wp_lookupAsApiError (wp_consumeWithdrawalVerification hP) _ _) ?_
    rintro _ P ⟨v, hP⟩
    refine wpOk_bind (wp_lookupAsApiError (wp_reserveWithdrawalFromQuote hP) _ _) fun w P hP => ?_
    refine wpOk_bind (Q := fun _ => Idle) (wpOk_commitNow fun s hs => ⟨permits_of_holding hP hs rfl, .id⟩) ?_
    exact fun _ P hP => stays_sendPayout w _ P hP

variable {cfg : Proc → Settings}

theorem verified_withdraw (hσ : σ.Withdraws cfg req) (i : Proc) (s : Shared σ.machine) :
    (authorisation σ req).Verified i (σ.op i).action s := by
  rw [hσ i]
  have hwp : (authorisation σ req).wpOk i (Op.withdraw (cfg i) (req i)).action (fun _ => Idle)
      (Point.start s) := wpOk_bind (wp_requestWithdrawal .id) fun _ _ hP => wpOk_ret hP
  refine wp_mono (wpOk_iff.mp hwp) fun result P hP => ?_
  cases result with
  | error e => exact fun _ _ => permits_of_db rfl
  | ok a => exact fun _ _ => permits_of_idle (hP a rfl) rfl

/-! ## Failures -/

theorem silent_getOrRaise {α : Type} (x : Option α) (e : Err) : Silent (getOrRaise x e) := by
  cases x with
  | none => exact .raise _
  | some a => exact .ret _

theorem silent_lookupAsApiError {α : Type} {p : Action α} (hp : Silent p) (status : String → Nat)
    (message : String) : Silent (lookupAsApiError p status message) :=
  Silent.tryCatch hp fun e => by cases e <;> exact trivial

theorem silent_consumeWithdrawalVerification (verificationId driverId : UUID) (destination : Json)
    (codeHash : String) (maxAttempts : Nat) (now : DateTime) :
    Silent (consumeWithdrawalVerification verificationId driverId destination codeHash maxAttempts now) := by
  refine (Silent.selectForUpdate _ _).bind fun o => ?_
  cases o with
  | none => exact .raise _
  | some v =>
    refine (Silent.raiseIf _ _).bind fun _ => (Silent.raiseIf _ _).bind fun _ =>
      (Silent.raiseIf _ _).bind fun _ => (Silent.raiseIf _ _).bind fun _ => ?_
    split_ifs
    · exact (Silent.update _ _).bind fun _ => (Silent.raiseIf _ _).bind fun _ => .raise _
    · exact (Silent.update _ _).bind fun _ => .ret _

theorem silent_lockWallet (d : UUID) (currency : String) : Silent (lockWallet d currency) := by
  refine (Silent.selectForUpdate _ _).bind fun o => ?_
  cases o with
  | some w => exact .ret _
  | none =>
    refine Silent.bind ?_ fun _ => (Silent.selectForUpdate _ _).bind fun _ => silent_getOrRaise _ _
    refine (Silent.select _).bind fun o => ?_
    cases o with
    | some w => exact .ret _
    | none =>
      exact (Silent.insertOnce _ _ _).bind fun _ => (Silent.select _).bind fun _ => silent_getOrRaise _ _

theorem silent_reserveWithdrawalFromQuote (w : DriverWithdrawal) (now : DateTime) :
    Silent (reserveWithdrawalFromQuote w now) := by
  refine (Silent.selectForUpdate _ _).bind fun o => ?_
  cases o with
  | none => exact .raise _
  | some quote =>
    refine (Silent.raiseIf _ _).bind fun _ => ?_
    split_ifs
    · refine (Silent.selectAs _ _).bind fun o => ?_
      cases o with
      | none => exact .raise _
      | some row =>
        dsimp only
        split_ifs
        · exact (Silent.update _ _).bind fun _ => .ret _
        · exact .ret _
    · exact (Silent.raiseIf _ _).bind fun _ => (silent_lockWallet _ _).bind fun _ =>
        (Silent.raiseIf _ _).bind fun _ => (Silent.writeOrRaise _ _ _ _).bind fun _ =>
        (Silent.update _ _).bind fun _ => (Silent.update _ _).bind fun _ =>
        (Silent.writeOrRaise _ _ _ _).bind fun _ => .ret _

/-- A request commits nothing before the commit right in front of the call of DiddiPay. -/
theorem tentative_requestWithdrawal (cfg : Settings) (r : WithdrawalRequest) :
    Tentative (requestWithdrawal cfg r) := by
  refine Silent.bind_tentative ?_ fun driverId => (Silent.raiseIf _ _).bind_tentative fun _ =>
    (Silent.raiseIf _ _).bind_tentative fun _ => (Silent.select _).bind_tentative fun o => ?_
  · refine (Silent.select _).bind fun o => ?_
    cases o with
    | none => exact .raise _
    | some profile => exact .ret _
  cases o with
  | some existing => exact ((Silent.raiseIf _ _).bind fun _ => Silent.ret _).tentative
  | none =>
    exact (silent_lookupAsApiError (silent_consumeWithdrawalVerification _ _ _ _ _ _) _ _).bind_tentative
      fun _ => (silent_lookupAsApiError (silent_reserveWithdrawalFromQuote _ _) _ _).bind_tentative
      fun w => .commit_ask _ _

/-! ## Every interleaving -/

variable [DecidableEq Proc] {world : World} {ms : List (Move σ.machine)} {c : Config σ.machine}

theorem sound_withdraws (hσ : σ.Withdraws cfg req) (h : (σ.initial db world).run ms = some c) :
    (authorisation σ req).Sound c :=
  (sound_initial trivial fun i => verified_withdraw hσ i _).run h

theorem authorises_step (hc : (authorisation σ req).Sound c) {m : Move σ.machine} {c' : Config σ.machine}
    (hstep : c.step m = some c') : (req (mover m)).Authorises c.shared.db c'.shared.db := by
  rcases (hc.step hstep).2 with heq | hguar
  · rw [heq]
    exact .refl _ _
  · exact hguar

theorem consumed_run (hc : (authorisation σ req).Sound c) {ms' : List (Move σ.machine)}
    {c' : Config σ.machine} (hrun : c.run ms' = some c') {id : UUID} (h : Consumed id c.shared.db) :
    Consumed id c'.shared.db := by
  have hrel : ∀ i s s', (authorisation σ req).inv s → (authorisation σ req).inv s' →
      (authorisation σ req).guar i s s' → Consumed id s.db → Consumed id s'.db :=
    fun _ _ _ _ _ hg => hg.consumed id
  exact hc.run_rel hrun (fun _ h => h) (fun _ _ _ h h' hs => h' (h hs)) hrel h

/-- Whatever requests to withdraw interleave: a request that reserves a withdrawal consumes its verification
in the same commit, which is unused and is for that driver, destination, code and time; no verification
is consumed for two reservations; and a request that fails before it asks DiddiPay has changed nothing. -/
theorem withdrawals_authorised (hσ : σ.Withdraws cfg req) (h : (σ.initial db world).run ms = some c) :
    (∀ m c' id w, c.step m = some c' → Reserves c.shared.db c'.shared.db id w →
      id = (req (mover m)).withdrawalId ∧
        ∃ v, (req (mover m)).Authorised v w ∧ (req (mover m)).Consumes v c.shared.db c'.shared.db) ∧
    (∀ m c₁ ms' c₂ m' c₃ id w id' w', c.step m = some c₁ → Reserves c.shared.db c₁.shared.db id w →
      c₁.run ms' = some c₂ → c₂.step m' = some c₃ → Reserves c₂.shared.db c₃.shared.db id' w' →
      (req (mover m)).verificationId ≠ (req (mover m')).verificationId) ∧
    (∀ i e, (i, Except.error e) ∈ c.shared.log → (∀ q, Event.sent i q ∉ c.shared.trace) →
      LeavesAlone i (σ.initial db world) ms) := by
  have hc := sound_withdraws hσ h
  refine ⟨fun m c' id w hstep hw => ?_, fun m c₁ ms' c₂ m' c₃ id w id' w' hstep hw hrun hstep' hw' heq => ?_,
    fun i e herror hsent => ?_⟩
  · obtain ⟨v, hv, hconsumes⟩ := (authorises_step hc hstep).reserved id w hw
    exact ⟨(Table.key_of_find? hw.2).symm.trans hv.id, v, hv, hconsumes⟩
  · have hc₁ := (hc.step hstep).1
    obtain ⟨v, hv, hconsumes⟩ := (authorises_step hc hstep).reserved id w hw
    obtain ⟨v', hv', hconsumes'⟩ := (authorises_step (hc₁.run hrun) hstep').reserved id' w' hw'
    have hused : Consumed (req (mover m)).verificationId c₂.shared.db :=
      consumed_run hc₁ hrun ⟨_, hconsumes.2, rfl⟩
    obtain ⟨x, hx, hxused⟩ := hused
    rw [heq] at hx
    obtain rfl := Option.some.inj (hx.symm.trans hconsumes'.1)
    rw [hv'.unused] at hxused
    cases hxused
  · refine leavesAlone_of_error (p := (σ.op i).action) ?_ rfl rfl h herror hsent
    rw [hσ i]
    exact (tentative_requestWithdrawal _ _).ignore

/-- The request of a driver for a quote and a withdrawal. -/
def attempt (quoteId withdrawalId : UUID) : WithdrawalRequest where
  driverUserId := 2
  quoteId := quoteId
  beneficiaryReference := "Awa"
  beneficiaryDestination := .str "0700000000"
  verificationId := 5
  codeHash := "right"
  profilePhone := "0700000000"
  withdrawalId := withdrawalId
  now := 1
  later := 2

/-- The driver withdraws twice under one verification; the first time there is no such quote. -/
def twoAttempts : Scenario Bool Unit where
  op first := .withdraw {} (if first then attempt 8 6 else attempt 9 7)
  receives w _ _ := w
  answers _ _ _ _ := none
  accepted _ _ _ := False

/-- The first attempt has failed and the second is about to commit its reservation. -/
def afterFailure : List (Move twoAttempts.machine) :=
  List.replicate 6 (.go true) ++ List.replicate 10 (.go false)

theorem withdrawals_authorised_afterFailure : ∃ c c' w,
    (twoAttempts.initial verifiedWalletDb ()).run afterFailure = some c ∧ c.step (.go false) = some c' ∧
      Reserves c.shared.db c'.shared.db 7 w ∧
      (∃ v, (attempt 9 7).Authorised v w ∧ (attempt 9 7).Consumes v c.shared.db c'.shared.db) ∧
      LeavesAlone true (twoAttempts.initial verifiedWalletDb ()) afterFailure := by
  have hrun : ((twoAttempts.initial verifiedWalletDb ()).run afterFailure).isSome = true := by
    decide +kernel
  have hreserved : ((twoAttempts.initial verifiedWalletDb ()).run afterFailure).any (fun c =>
      (c.step (.go false)).any fun c' => (c.shared.db.withdrawals.find? 7).isNone &&
        (c'.shared.db.withdrawals.find? 7).isSome) = true := by decide +kernel
  have hfailed : ((twoAttempts.initial verifiedWalletDb ()).run afterFailure).any (fun c =>
      (c.shared.log.head?.any fun x => x.1 && !x.2.isOk) && c.shared.trace.isEmpty) = true := by
    decide +kernel
  obtain ⟨c, hc⟩ := Option.isSome_iff_exists.mp hrun
  rw [hc, Option.any_some] at hreserved hfailed
  have hσ : twoAttempts.Withdraws (fun _ => {}) fun first => if first then attempt 8 6 else attempt 9 7 :=
    fun _ => rfl
  obtain ⟨hbound, -, hrollback⟩ := withdrawals_authorised hσ hc
  cases hstep : c.step (.go false) with
  | none => rw [hstep] at hreserved; cases hreserved
  | some c' =>
    rw [hstep, Option.any_some, Bool.and_eq_true, Option.isNone_iff_eq_none] at hreserved
    obtain ⟨w, hw⟩ := Option.isSome_iff_exists.mp hreserved.2
    obtain ⟨hlog, htrace⟩ := Bool.and_eq_true_iff.mp hfailed
    refine ⟨c, c', w, hc, hstep, ⟨hreserved.1, hw⟩, (hbound _ _ _ _ hstep ⟨hreserved.1, hw⟩).2, ?_⟩
    rcases hl : c.shared.log with _ | ⟨⟨first, e | a⟩, log⟩
    · rw [hl] at hlog
      cases hlog
    · rw [hl] at hlog
      obtain rfl : first = true := (Bool.and_eq_true_iff.mp hlog).1
      refine hrollback true e (by rw [hl]; exact List.mem_cons_self) fun q hq => ?_
      rw [List.isEmpty_iff.mp htrace] at hq
      cases hq
    · rw [hl] at hlog
      exact absurd (Bool.and_eq_true_iff.mp hlog).2 Bool.false_ne_true

end DiddiGo.Payments
