import DiddiGo.Payments.Calls
import DiddiGo.Payments.Proofs.DeliveryProofs
import Mathlib.Data.List.Induction

/-!
# Withdrawal codes can be guessed

The attempt is counted in a transaction that is rolled back, so the counter of a verification never moves:
the number of wrong codes is bounded exactly if nobody goes on after the maximum.
-/

namespace DiddiGo.Payments

open Data (Json Keyed Table)
open Transactions Prog

variable {ask : Query → Answer} {base db start : PaymentDb} {cfg : Settings} {r : WithdrawalRequest}
  {v : DriverWithdrawalVerification} {id : UUID}

/-! ## The check of a verification -/

section Consume

variable {destination : Json} {codeHash : String} {maxAttempts : Nat} {now : DateTime}
  (hv : db.verifications.find? id = some v) (hunused : v.consumedAt = none) (hfresh : now < v.expiresAt)

include hv hunused hfresh

/-- The checks before that of the attempts are passed. -/
theorem exec_consumeWithdrawalVerification :
    (consumeWithdrawalVerification id v.driverId destination codeHash maxAttempts now).exec ask base db =
      if v.attemptCount ≥ maxAttempts then
        (.error (.lookup "WITHDRAWAL_VERIFICATION_LOCKED"), base, db)
      else if v.beneficiaryDestination ≠ destination ∨ v.codeHash ≠ codeHash then
        (.error (.lookup (if v.attemptCount + 1 ≥ maxAttempts then "WITHDRAWAL_VERIFICATION_LOCKED"
            else "WITHDRAWAL_VERIFICATION_INVALID")), base,
          { db with verifications := db.verifications.update id fun v' =>
              { v' with attemptCount := v.attemptCount + 1 } })
      else
        (.ok { v with consumedAt := some now }, base,
          { db with verifications := db.verifications.update id fun v' =>
              { v' with consumedAt := some now } }) := by
  unfold consumeWithdrawalVerification
  rw [exec_bind_of_ok _ _ _ (exec_selectForUpdate _ _ _ _ _)]
  simp only [hv]
  rw [exec_raiseIf_bind, if_neg (not_not.mpr rfl), exec_raiseIf_bind, if_neg (not_not.mpr hunused),
    exec_raiseIf_bind, if_neg (not_le.mpr hfresh), exec_raiseIf_bind]
  by_cases hmax : v.attemptCount ≥ maxAttempts
  · rw [if_pos hmax, if_pos hmax]
  rw [if_neg hmax, if_neg hmax]
  by_cases hwrong : v.beneficiaryDestination ≠ destination ∨ v.codeHash ≠ codeHash
  · rw [if_pos hwrong, if_pos hwrong, exec_bind_of_ok _ _ _ (exec_update _ _ _ _ _), exec_raiseIf_bind]
    split_ifs <;> rfl
  · rw [if_neg hwrong, if_neg hwrong]
    rfl

end Consume

/-! ## One request -/

theorem presented_eq_some (h : r.presented db = some v) :
    (∃ profile, db.driverProfiles.find? r.driverUserId = some profile ∧ v.driverId = profile.id) ∧
      Data.strip r.beneficiaryReference ≠ "" ∧ r.profilePhone ≠ "" ∧
      db.withdrawalOfQuote r.quoteId = none ∧ db.verifications.find? r.verificationId = some v ∧
      v.consumedAt = none ∧ r.now < v.expiresAt := by
  unfold WithdrawalRequest.presented at h
  cases hp : db.driverProfiles.find? r.driverUserId with
  | none =>
    rw [hp] at h
    cases h
  | some profile =>
    rw [hp] at h
    dsimp only at h
    split_ifs at h with hc
    obtain ⟨hv, hd⟩ := Option.filter_eq_some_iff.mp h
    obtain ⟨hdriver, hunused, hfresh⟩ := of_decide_eq_true hd
    rw [not_or, not_or] at hc
    obtain ⟨hb, hphone, hq⟩ := hc
    exact ⟨⟨profile, rfl, hdriver⟩, hb, hphone, by simpa using hq, hv, hunused, hfresh⟩

/-- A request that presents a verification is the check of the verification, then the rest. -/
theorem exec_requestWithdrawal (h : r.presented db = some v) :
    (requestWithdrawal cfg r).exec ask base db =
      (lookupAsApiError (consumeWithdrawalVerification r.verificationId v.driverId
          r.beneficiaryDestination r.codeHash cfg.driverWithdrawalOtpMaxAttempts r.now)
        verificationErrorStatus "Verification du retrait impossible." >>= fun _ =>
        withdrawVerified r v.driverId).exec ask base db := by
  obtain ⟨⟨profile, hp, hd⟩, hb, hphone, hq, -⟩ := presented_eq_some h
  have hdriver : (driverIdForUser r.driverUserId).exec ask base db = (.ok v.driverId, base, db) := by
    unfold driverIdForUser
    rw [exec_bind_of_ok _ _ _ (exec_select _ _ _ _)]
    simp only [hp, hd]
    rfl
  unfold requestWithdrawal apiErrorIf
  rw [exec_bind_of_ok _ _ _ hdriver, exec_raiseIf_bind, if_neg hb, exec_raiseIf_bind, if_neg hphone]
  unfold findWithdrawalByQuoteId
  rw [exec_bind_of_ok _ _ _ (exec_select _ _ _ _)]
  simp only [hq]
  rfl

theorem exec_lookupAsApiError_of_lookup {α : Type} {p : Action α} {base' db' : PaymentDb} {code : String}
    (h : p.exec ask base db = (.error (.lookup code), base', db')) (status : String → Nat)
    (message : String) :
    (lookupAsApiError p status message).exec ask base db =
      (.error (.api { statusCode := status code, code := code, message := message }), base', db') := by
  refine (exec_tryCatch _ _ _ _ _).trans ?_
  rw [h]
  rfl

theorem exec_lookupAsApiError_of_ok {α : Type} {p : Action α} {base' db' : PaymentDb} {a : α}
    (h : p.exec ask base db = (.ok a, base', db')) (status : String → Nat) (message : String) :
    (lookupAsApiError p status message).exec ask base db = (.ok a, base', db') := by
  refine (exec_tryCatch _ _ _ _ _).trans ?_
  rw [h]

/-- A request under a verification without attempts is refused. -/
theorem refusedAsLocked (h : r.presented db = some v)
    (hmax : cfg.driverWithdrawalOtpMaxAttempts ≤ v.attemptCount) : RefusedAsLocked cfg r db := by
  intro ask
  obtain ⟨-, -, -, -, hv, hunused, hfresh⟩ := presented_eq_some h
  have hexec : (consumeWithdrawalVerification r.verificationId v.driverId r.beneficiaryDestination
      r.codeHash cfg.driverWithdrawalOtpMaxAttempts r.now).exec ask db db =
      (.error (.lookup "WITHDRAWAL_VERIFICATION_LOCKED"), db, db) := by
    rw [exec_consumeWithdrawalVerification hv hunused hfresh, if_pos hmax]
  exact run_of_error _ ((exec_requestWithdrawal h).trans (exec_bind_of_error _ _ _
    (exec_lookupAsApiError_of_lookup hexec _ _)))

theorem raises_reserveWithdrawalFromQuote (w : DriverWithdrawal) (now : DateTime) :
    (reserveWithdrawalFromQuote w now).Raises ask fun e : Err => ∀ a, e ≠ .api a := by
  have hwallet : ∀ d c, (getOrCreateWallet d c).Raises ask fun e : Err => ∀ a, e ≠ .api a := by
    intro d c
    refine (Raises.select _).bind fun o => ?_
    cases o with
    | some w => exact .ret _
    | none =>
      refine (Raises.insertOnce _ _ _).bind fun _ => (Raises.select _).bind fun o => ?_
      cases o with
      | some w => exact .ret _
      | none => exact .raise fun _ h => Err.noConfusion h
  refine (Raises.selectForUpdate _ _).bind fun o => ?_
  cases o with
  | none => exact .raise fun _ h => Err.noConfusion h
  | some quote =>
    refine (Raises.raiseIf fun _ h => Err.noConfusion h).bind fun _ => ?_
    split_ifs
    · refine (Raises.selectAs _ _).bind fun o => ?_
      cases o with
      | none => exact .raise fun _ h => Err.noConfusion h
      | some row =>
        dsimp only
        split_ifs
        · exact (Raises.update _ _).bind fun _ => .ret _
        · exact .ret _
    · refine (Raises.raiseIf fun _ h => Err.noConfusion h).bind fun _ => ?_
      refine Raises.bind ?_ fun _ => (Raises.raiseIf fun _ h => Err.noConfusion h).bind fun _ =>
        (Raises.writeOrRaise fun _ h => Err.noConfusion h).bind fun _ => (Raises.update _ _).bind fun _ =>
        (Raises.update _ _).bind fun _ => (Raises.writeOrRaise fun _ h => Err.noConfusion h).bind fun _ => .ret _
      refine (Raises.selectForUpdate _ _).bind fun o => ?_
      cases o with
      | some w => exact .ret _
      | none =>
        refine (hwallet _ _).bind fun _ => (Raises.selectForUpdate _ _).bind fun o => ?_
        cases o with
        | some w => exact .ret _
        | none => exact .raise fun _ h => Err.noConfusion h

/-- Once the verification is consumed, a request is not refused because it is locked. -/
theorem raises_withdrawVerified (driverId : UUID)
    (hask : ask = fun _ => .error (.other "TimeoutException")) :
    (withdrawVerified r driverId).Raises ask fun e : Err => e ≠ refusal "WITHDRAWAL_VERIFICATION_LOCKED" := by
  refine Raises.bind ?_ fun w => Raises.commitNow.bind fun _ => ?_
  · refine (raises_reserveWithdrawalFromQuote _ _).tryCatch fun e he => ?_
    cases e with
    | api a => exact absurd rfl (he a)
    | lookup code => exact .raise (by simp [refusal])
    | _ => exact .raise (by simp [refusal])
  · intro base cur e he
    have hexec : (sendPayout w r.later).exec ask base cur = (.error (.other "TimeoutException"), base, cur) := by
      unfold sendPayout
      rw [exec_bind_of_ok _ _ _ (exec_ask _ _ _ _), hask]
      rfl
    rw [hexec] at he
    obtain rfl := Except.error.inj he
    simp [refusal]

theorem not_refusedAsLocked (h : r.presented db = some v)
    (hmax : v.attemptCount < cfg.driverWithdrawalOtpMaxAttempts) (hright : ¬ r.Mismatches v) :
    ¬ RefusedAsLocked cfg r db := by
  intro hlocked
  obtain ⟨-, -, -, -, hv, hunused, hfresh⟩ := presented_eq_some h
  have hraised := Raises.error_of_run (congrArg Prod.fst
    (hlocked fun _ => .error (.other "TimeoutException")))
  rw [exec_requestWithdrawal h, exec_bind_of_ok _ _ _ (exec_lookupAsApiError_of_ok (by
    rw [exec_consumeWithdrawalVerification hv hunused hfresh, if_neg (not_le.mpr hmax),
      if_neg (not_or.mpr (not_or.mp hright))])
    _ _)] at hraised
  exact raises_withdrawVerified v.driverId rfl _ _ _ hraised rfl

/-! ## What is left of the verifications -/

theorem VerificationsKept.congr (h : VerificationsKept start base) (hv : db.verifications = base.verifications) :
    VerificationsKept start db := by
  unfold VerificationsKept
  rw [hv]
  exact h

theorem verifications_post (db : PaymentDb) (e : DriverLedgerEntry) (now : DateTime) :
    (db.post e now).verifications = db.verifications := by
  unfold PaymentDb.post
  split_ifs <;> rfl

theorem withdrawalChanges_verifications :
    WithdrawalChanges fun db db' => db'.verifications = db.verifications where
  trans h h' := h'.trans h
  openWallet _ _ _ := rfl
  flushWallet _ _ _ _ _ := rfl
  insertEntry _ _ _ := rfl
  insertWithdrawal _ _ := rfl
  consumeQuote _ _ _ := rfl
  markWithdrawal _ _ _ _ := rfl
  fillDestination _ _ _ := rfl

/-- A wrong code leaves nothing behind, the right one consumes the verification. -/
theorem keeps_consume_verificationsKept (verificationId driverId : UUID) (destination : Json)
    (codeHash : String) (maxAttempts : Nat) (now : DateTime) :
    (consumeWithdrawalVerification verificationId driverId destination codeHash maxAttempts
      now).Keeps (VerificationsKept start) := by
  refine (Keeps.selectForUpdate _ _).bind fun o => ?_
  cases o with
  | none => exact .raise _
  | some v =>
    refine (Keeps.raiseIf _ _).bind fun _ => (Keeps.raiseIf _ _).bind fun _ =>
      (Keeps.raiseIf _ _).bind fun _ => (Keeps.raiseIf _ _).bind fun _ => ?_
    split_ifs
    · refine .of_error fun ask base cur => ?_
      rw [exec_bind_of_ok _ _ _ (exec_update _ _ _ _ _), exec_raiseIf_bind]
      split_ifs
      · exact ⟨_, _, rfl⟩
      · exact ⟨_, _, rfl⟩
    · refine (Keeps.update fun db h i x hx hunused => ?_).bind fun _ => .ret _
      rw [Table.find?_update] at hx
      split_ifs at hx with hi
      · obtain ⟨y, -, rfl⟩ := Option.map_eq_some_iff.mp hx
        cases hunused
      · exact h i x hx hunused

theorem keptThroughout_verificationsKept : KeptThroughout (VerificationsKept start) := by
  have hkept : ∀ db db' : PaymentDb, db'.verifications = db.verifications →
      VerificationsKept start db → VerificationsKept start db' := fun _ _ hv h => h.congr hv
  refine .of_writes
    { wallet := keeps_getOrCreateWallet_of_changes withdrawalChanges_verifications hkept
      quotes := fun _ _ h => h
      consume := keeps_consume_verificationsKept
      reserve := keeps_reserve_of_changes withdrawalChanges_verifications hkept
      mark := keeps_mark_of_changes withdrawalChanges_verifications hkept }
    (fun _ _ h => h) (fun _ _ h => h) (fun _ _ h => h) fun e now _ ask base db hb hc => ?_
  rw [exec_recordLedgerEntryOnce]
  split_ifs
  · exact ⟨hb, fun _ _ => hc⟩
  · exact ⟨hb, fun _ _ => hkept _ _ (verifications_post _ _ _) hc⟩

/-- No history moves the counter of a verification that it does not consume. -/
theorem verificationsKept_runCalls (cs : List Call) (db : PaymentDb) :
    VerificationsKept db (runCalls cs db) := by
  refine runCalls_inv (fun c db' _ h => ?_) (everyStep_of_forall (fun _ _ _ => trivial) db)
    fun _ _ hv _ => hv
  exact keptThroughout_verificationsKept.after (fun _ => keeps_recordWebhookEvent fun _ h => h) c h

/-! ## Histories -/

theorem wrongGuesses_cons (c : Call) (cs : List Call) (db : PaymentDb) :
    wrongGuesses id (c :: cs) db = (if c.guessesWrong id db then 1 else 0) + wrongGuesses id cs (c.after db) :=
  rfl

theorem wrongGuesses_append (cs cs' : List Call) (db : PaymentDb) :
    wrongGuesses id (cs ++ cs') db = wrongGuesses id cs db + wrongGuesses id cs' (runCalls cs db) := by
  induction cs generalizing db with
  | nil => exact (Nat.zero_add _).symm
  | cons c cs ih =>
    rw [List.cons_append, wrongGuesses_cons, wrongGuesses_cons, ih (c.after db), runCalls_cons]
    omega

theorem wrongGuesses_le_length (cs : List Call) (db : PaymentDb) : wrongGuesses id cs db ≤ cs.length := by
  induction cs generalizing db with
  | nil => exact Nat.le_refl 0
  | cons c cs ih =>
    have hrest := ih (c.after db)
    rw [wrongGuesses_cons, List.length_cons]
    split_ifs <;> omega

/-- The last of the wrong guesses, with those before it. -/
theorem exists_wrongGuess {k : Nat} {cs : List Call} (h : k < wrongGuesses id cs db) :
    ∃ before c later, cs = before ++ c :: later ∧ k ≤ wrongGuesses id before db ∧
      c.guessesWrong id (runCalls before db) = true := by
  induction cs using List.reverseRecOn with
  | nil => exact absurd h (Nat.not_lt_zero k)
  | append_singleton cs c ih =>
    by_cases hk : k < wrongGuesses id cs db
    · obtain ⟨before, c', later, rfl, hle, hguess⟩ := ih hk
      exact ⟨before, c', later ++ [c], by rw [List.append_assoc, List.cons_append], hle, hguess⟩
    · rw [wrongGuesses_append] at h
      refine ⟨cs, c, [], rfl, ?_⟩
      by_cases hguess : c.guessesWrong id (runCalls cs db) = true
      · have hone : wrongGuesses id [c] (runCalls cs db) = 1 := by simp [wrongGuesses, hguess]
        exact ⟨by omega, hguess⟩
      · have hzero : wrongGuesses id [c] (runCalls cs db) = 0 := by simp [wrongGuesses, hguess]
        omega

theorem exists_of_guessesWrong {c : Call} (h : c.guessesWrong id db = true) :
    ∃ cfg r hr ask v, c = .request (.withdraw cfg r) hr ask ∧ r.verificationId = id ∧
      r.presented db = some v ∧ v.attemptCount < cfg.driverWithdrawalOtpMaxAttempts ∧ r.Mismatches v := by
  unfold Call.guessesWrong at h
  split at h
  · next cfg r hr ask =>
    obtain ⟨hid, hany⟩ := of_decide_eq_true h
    cases hv : r.presented db with
    | none =>
      rw [hv] at hany
      cases hany
    | some v =>
      rw [hv] at hany
      exact ⟨cfg, r, hr, ask, v, rfl, hid, hv, of_decide_eq_true hany⟩
  · cases h

theorem exists_of_presents {c : Call} (h : c.presents id db = true) :
    ∃ cfg r hr ask v, c = .request (.withdraw cfg r) hr ask ∧ r.verificationId = id ∧
      r.presented db = some v := by
  unfold Call.presents at h
  split at h
  · next cfg r hr ask =>
    obtain ⟨hid, hsome⟩ := of_decide_eq_true h
    obtain ⟨v, hv⟩ := Option.isSome_iff_exists.mp hsome
    exact ⟨cfg, r, hr, ask, v, rfl, hid, hv⟩
  · cases h

theorem presents_of_guessesWrong {c : Call} (h : c.guessesWrong id db = true) :
    c.presents id db = true := by
  obtain ⟨cfg, r, hr, ask, v, rfl, hid, hv, -⟩ := exists_of_guessesWrong h
  exact decide_eq_true ⟨hid, by rw [hv]; rfl⟩

/-- A verification that has been guessed at still has attempts if it is presented again. -/
theorem attemptCount_lt {maxAttempts : Nat} {before : List Call} (hmax : 0 < maxAttempts)
    (hcfg : SameMaximum id maxAttempts before) (hle : maxAttempts ≤ wrongGuesses id before db)
    (hid : r.verificationId = id) (hv : r.presented (runCalls before db) = some v) :
    v.attemptCount < maxAttempts := by
  obtain ⟨first, c, later, rfl, -, hguess⟩ := exists_wrongGuess (hmax.trans_le hle)
  obtain ⟨cfg, r', hr, ask, v', rfl, hid', hv', hlt, -⟩ := exists_of_guessesWrong hguess
  have hmaximum : cfg.driverWithdrawalOtpMaxAttempts = maxAttempts :=
    hcfg cfg r' hr ask (List.mem_append_right _ List.mem_cons_self) hid'
  obtain ⟨-, -, -, -, hfound', -, -⟩ := presented_eq_some hv'
  obtain ⟨-, -, -, -, hfound, hunused, -⟩ := presented_eq_some hv
  rw [runCalls_append, hid] at hfound
  rw [hid'] at hfound'
  have hsame := verificationsKept_runCalls _ _ id v hfound hunused
  obtain rfl := Option.some.inj (hsame.symm.trans hfound')
  rw [← hmaximum]
  exact hlt

/-- For every history: at most `maxAttempts` wrong codes or destinations are compared with a verification,
and whoever presents it after that is refused, exactly if nobody presents it after that. -/
theorem guessesBounded_iff {maxAttempts : Nat} (hmax : 0 < maxAttempts) {cs : List Call}
    (hcfg : SameMaximum id maxAttempts cs) (db : PaymentDb) :
    GuessesBounded id maxAttempts cs db ↔ GivesUp id maxAttempts cs db := by
  constructor
  · rintro ⟨hbounded, hlocked⟩ before c later rfl hle
    by_contra hpresents
    rw [Bool.not_eq_false] at hpresents
    obtain ⟨cfg, r, hr, ask, v, rfl, hid, hv⟩ := exists_of_presents hpresents
    have hmaximum : cfg.driverWithdrawalOtpMaxAttempts = maxAttempts :=
      hcfg cfg r hr ask (List.mem_append_right _ List.mem_cons_self) hid
    have hlt : v.attemptCount < maxAttempts :=
      attemptCount_lt hmax (fun cfg r hr ask hm => hcfg cfg r hr ask (List.mem_append_left _ hm)) hle
        hid hv
    by_cases hwrong : r.Mismatches v
    · -- one more wrong guess is compared
      have hguess : (Call.request (.withdraw cfg r) hr ask).guessesWrong id (runCalls before db) = true := by
        refine decide_eq_true ⟨hid, ?_⟩
        rw [hv]
        exact decide_eq_true ⟨by rw [hmaximum]; exact hlt, hwrong⟩
      rw [wrongGuesses_append, wrongGuesses_cons, if_pos hguess] at hbounded
      omega
    · -- the right code is accepted
      refine not_refusedAsLocked hv (by rw [hmaximum]; exact hlt) hwrong ?_
      exact hlocked before cfg r hr ask later rfl hid (by rw [hv]; rfl) hle
  · intro hgives
    refine ⟨?_, fun before cfg r hr ask later hcs hid hsome hle => ?_⟩
    · by_contra hmore
      obtain ⟨before, c, later, hcs, hle, hguess⟩ := exists_wrongGuess (not_le.mp hmore)
      have hnot := hgives before c later hcs hle
      rw [presents_of_guessesWrong hguess] at hnot
      cases hnot
    · have hnot := hgives before _ later hcs hle
      have hpresents : (Call.request (.withdraw cfg r) hr ask).presents id (runCalls before db) = true :=
        decide_eq_true ⟨hid, hsome⟩
      rw [hpresents] at hnot
      cases hnot

/-! ## A guesser -/

/-- A driver with 10000, an open quote and a verification whose code has the hash `"right"`. -/
def verifiedWalletDb : PaymentDb where
  wallets := Table.empty.insert { driverId := 1, balance := 10000 }
  quotes := Table.empty.insert
    { id := 9, driverId := 1, amount := 2000, fees := 0, netAmount := 2000, expiresAt := 100
      createdAt := 0 }
  verifications := Table.empty.insert
    { id := 5, driverId := 1, beneficiaryDestination := .str "0700000000", recipientPhone := "0700000000"
      codeHash := "right", expiresAt := 100, createdAt := 0 }
  driverProfiles := Table.empty.insert { id := 1, userId := 2 }

/-- A request with a code, and DiddiPay does not answer. -/
def guess (codeHash : String) : Call :=
  .request (.withdraw {}
    { driverUserId := 2, quoteId := 9, beneficiaryReference := "Awa"
      beneficiaryDestination := .str "0700000000", verificationId := 5, codeHash := codeHash
      profilePhone := "0700000000", withdrawalId := 7, now := 1, later := 2 }) rfl
    fun _ => .error (.other "TimeoutException")

/-- Five wrong codes, as many as there may be, then a sixth. -/
def sixGuesses : List Call := ["0", "1", "2", "3", "4", "5"].map guess

theorem guessesBounded_iff_fiveGuesses : GuessesBounded 5 5 (sixGuesses.take 5) verifiedWalletDb := by
  refine (guessesBounded_iff (by decide) (fun cfg r h ask hm _ => ?_) _).mpr fun before c later hcs hle => ?_
  · obtain ⟨codeHash, -, hc⟩ := List.mem_map.mp (List.mem_of_mem_take hm)
    have hop := (Call.request.inj hc).1
    rw [← (Op.withdraw.inj hop).1]
  · have hlength := congrArg List.length hcs
    have hshort := hle.trans (wrongGuesses_le_length before verifiedWalletDb)
    simp [sixGuesses] at hlength
    omega

theorem sixGuesses_unbounded : ¬ GuessesBounded 5 5 sixGuesses verifiedWalletDb := by
  intro h
  have hcount : wrongGuesses 5 sixGuesses verifiedWalletDb = 6 := by decide +kernel
  have hbounded := h.bounded
  rw [hcount] at hbounded
  omega

end DiddiGo.Payments
