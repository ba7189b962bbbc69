import DiddiGo.Payments.Proofs.InterleavingProofs

/-!
# Payouts are not given back

As long as no request reuses a quote, a payout that the provider has taken charge of is given back only
when the provider reports a failure. A request that does reuse one breaks this.
-/

namespace DiddiGo.Payments

open Data (Json Keyed Table)
open Transactions Prog RelyGuarantee

theorem noReuse_of_all {M : Machine sig} {trace : List (Event M)} (h : trace.all isFirstUse) :
    NoReuse trace :=
  fun _ _ _ hm => nomatch List.all_eq_true.mp h _ hm

theorem not_reported_of_all {M : Machine sig} {trace : List (Event M)} (h : trace.all isNoFailure)
    (b : String) : ¬ Reported trace b := by
  rintro ⟨i, q, a, hm, body, data, rfl, hdata, -, hfailed⟩
  have hno := List.all_eq_true.mp h _ hm
  simp only [isNoFailure, hdata, hfailed, ne_eq, not_true, decide_false] at hno
  cases hno

section

variable {Proc World : Type} {σ : Scenario Proc World} [DecidableEq Proc] {db : PaymentDb}
  {world : World} {ms : List (Move σ.machine)} {c : Config σ.machine}

/-- As long as no request finds the quote that it has locked already consumed: a withdrawal whose payout
the provider has taken charge of is released only if the provider has reported the payout failed or
disputed, and no payout is asked for a released withdrawal. -/
theorem run_payouts (hst : Strict σ) (hdb : Unused db) (haccepted : ∀ i r, ¬ σ.accepted world i r)
    (h : (σ.initial db world).run ms = some c) (hn : NoReuse c.shared.trace) :
    (∀ i r w, σ.accepted c.shared.world i r →
        c.shared.db.withdrawals.find? r.withdrawalId = some w → w.status = .released →
        Reported c.shared.trace w.businessReference) ∧
      (∀ m c' i r, c.step m = some c' →
        c'.shared.trace = c.shared.trace ++ [Event.sent i (Query.createPayout r)] →
        ∀ w, c.shared.db.withdrawals.find? r.withdrawalId = some w → w.status ≠ .released) := by
  have hsound := sound_run hdb haccepted h
  have hinv := hsound.inv
  have hset := hinv.settled hst hn
  refine ⟨fun i r w hacc hw hr => ?_, fun m c' i r hstep htrace w hw => ?_⟩
  · rw [hset.references _ w hw]
    rcases hset.released _ w hw hr with hrep | ⟨j, r', a, ha, hrej, hid⟩
    · exact hrep
    · obtain ⟨hsent, hok⟩ := hset.accepted i r hacc
      have hsent' := hinv.asked j r' a ha
      -- both are calls of the request that made the withdrawal
      have hji : j = i := hst.distinct j i r.withdrawalId (by rw [← hid]; exact hset.caller j r' hsent')
        (hset.caller i r hsent)
      obtain ⟨x, hx, hpay, -⟩ := hinv.payouts i r hsent
      obtain ⟨x', hx', hpay', -⟩ := hinv.payouts j r' hsent'
      rw [hid, hx] at hx'
      obtain rfl := Option.some.inj hx'
      rw [hji, ← hpay', hpay] at ha
      rw [hok a ha] at hrej
      cases hrej
  · rcases (hsound.step hstep).2 with heq | hg
    · rw [heq] at htrace
      simp at htrace
    · refine hg.sends hst (fun j q view hm => ?_) i r htrace w hw
      rw [htrace] at hm
      rcases List.mem_append.mp hm with hm | hm
      · exact hn j q view hm
      · cases List.mem_singleton.mp hm

end

/-! ## A provider that deduplicates -/

section Provider

variable {Proc : Type} [DecidableEq Proc]

/-- The provider takes charge of the first call with an idempotency key. -/
def dedupReceives (w : List (Proc × PayoutRequest)) (i : Proc) : Query → List (Proc × PayoutRequest)
  | .createPayout r => if w.any fun x => x.2.idempotencyKey = r.idempotencyKey then w else w ++ [(i, r)]
  | _ => w

/-- What it answers to that call. -/
def acceptedBody (r : PayoutRequest) : Json :=
  .ofMembers [("id", .str "77"), ("status", .str "processing"), ("amount", .int r.amount),
    ("currency", .str r.currency), ("business_reference", .str r.businessReference)]

/-- What it answers to the others. -/
def inProgress : Err :=
  .api { statusCode := 409, code := "IDEMPOTENCY_IN_PROGRESS", message := "", details := .null }

/-- It answers calls of `create_payout` only. -/
def dedupAnswers (w : List (Proc × PayoutRequest)) (i : Proc) (q : Query) (a : Answer) :
    Option (List (Proc × PayoutRequest)) :=
  match q with
  | .createPayout r =>
    if a = (if (i, r) ∈ w then .ok (acceptedBody r) else .error inProgress) then some w else none
  | _ => none

/-- Requests to a provider that deduplicates by idempotency key. -/
def dedupScenario (op : Proc → Op) : Scenario Proc (List (Proc × PayoutRequest)) where
  op := op
  receives := dedupReceives
  answers := dedupAnswers
  accepted w i r := (i, r) ∈ w

theorem honest_dedupScenario (op : Proc → Op) : Honest (dedupScenario op) where
  receives w j q i r h := by
    cases q with
    | createPayout r' =>
      change (i, r) ∈ dedupReceives w j (.createPayout r') at h
      dsimp only [dedupReceives] at h
      split_ifs at h
      · exact Or.inl h
      · rcases List.mem_append.mp h with h | h
        · exact Or.inl h
        · cases List.mem_singleton.mp h
          exact Or.inr ⟨rfl, rfl⟩
    | _ => exact Or.inl h
  answers w j q a w' i r ha h := by
    cases q with
    | createPayout r' =>
      change dedupAnswers w j (.createPayout r') a = some w' at ha
      simp only [dedupAnswers, Option.ite_none_right_eq_some, Option.some.injEq] at ha
      obtain ⟨rfl, rfl⟩ := ha
      refine ⟨Or.inl h, ?_⟩
      rintro ⟨rfl, hq, hrej⟩
      obtain rfl := Query.createPayout.inj hq
      have hw : (i, r') ∈ w := h
      rw [if_pos hw] at hrej
      cases hrej
    | _ => cases ha
  reports w j q a w' b ha hf := by
    cases q with
    | createPayout r' =>
      change dedupAnswers w j (.createPayout r') a = some w' at ha
      simp only [dedupAnswers, Option.ite_none_right_eq_some] at ha
      obtain ⟨body, data, hbody, hdata, -, hst⟩ := hf
      rw [ha.1] at hbody
      split_ifs at hbody
      obtain rfl := Except.ok.inj hbody
      obtain rfl := Option.some.inj hdata
      simp [acceptedBody, Json.ofMembers, Json.get, Json.or, Json.truthy, Json.toStr,
        withdrawalStatusFromDiddipay] at hst
    | _ => cases ha

end Provider

/-! ## Two requests on one quote -/

/-- A driver with 10000, a quote of 2000 and two verifications. -/
def withdrawalDb : PaymentDb where
  wallets := Table.empty.insert { driverId := 1, balance := 10000 }
  quotes := Table.empty.insert
    { id := 9, driverId := 1, amount := 2000, fees := 0, netAmount := 2000, expiresAt := 100
      createdAt := 0 }
  verifications := (Table.empty.insert
    { id := 20, driverId := 1, beneficiaryDestination := .str "d", recipientPhone := "p"
      codeHash := "h", expiresAt := 100, createdAt := 0 }).insert
    { id := 21, driverId := 1, beneficiaryDestination := .str "d", recipientPhone := "p"
      codeHash := "h", expiresAt := 100, createdAt := 0 }
  driverProfiles := Table.empty.insert { id := 1, userId := 2 }

/-- Two requests of this driver on this quote, each with its own verification. -/
def twoWithdrawals : Scenario Bool (List (Bool × PayoutRequest)) :=
  dedupScenario fun first => .withdraw {}
    { driverUserId := 2, quoteId := 9, beneficiaryReference := "b"
      beneficiaryDestination := .str "d", verificationId := if first then 20 else 21
      codeHash := "h", profilePhone := "p", withdrawalId := if first then 30 else 31, now := 5
      later := 6 }

theorem strict_twoWithdrawals : Strict twoWithdrawals where
  honest := honest_dedupScenario _
  distinct i j id hi hj := by
    have hij := hi.trans hj.symm
    revert hij
    cases i <;> cases j <;> decide
  requests _ := rfl

theorem unused_withdrawalDb : Unused withdrawalDb where
  withdrawals := rfl
  ledger _ _ h := nomatch h
  quotes id q h := by
    simp only [withdrawalDb, Table.find?_insert, Table.find?_empty, Option.none_or,
      Option.ite_none_right_eq_some, Option.some.injEq] at h
    rw [← h.2]

/-- The payout that both requests ask for. -/
def sharedPayout : PayoutRequest where
  businessReference := "diddigo:driver_withdrawal:30"
  beneficiaryReference := "b"
  beneficiaryDestination := some (.str "d")
  amount := 2000
  currency := "XOF"
  driverId := 1
  withdrawalId := 30
  quoteId := 9
  feesXof := 0
  idempotencyKey := "diddigo:driver_withdrawal:30:v1"

/-- The first request alone. -/
def firstOnly : List (Move twoWithdrawals.machine) :=
  List.replicate 12 (.go true) ++ [.reply true (.ok (acceptedBody sharedPayout))] ++
    List.replicate 4 (.go true)

theorem run_payouts_firstOnly : ∃ c,
    (twoWithdrawals.initial withdrawalDb []).run firstOnly = some c ∧
      (∀ i r w, twoWithdrawals.accepted c.shared.world i r →
        c.shared.db.withdrawals.find? r.withdrawalId = some w → w.status = .released →
        Reported c.shared.trace w.businessReference) ∧
      (∀ m c' i r, c.step m = some c' →
        c'.shared.trace = c.shared.trace ++ [Event.sent i (Query.createPayout r)] →
        ∀ w, c.shared.db.withdrawals.find? r.withdrawalId = some w → w.status ≠ .released) := by
  obtain ⟨c, hc⟩ := Option.isSome_iff_exists.mp
    (by decide +kernel : ((twoWithdrawals.initial withdrawalDb []).run firstOnly).isSome = true)
  have hfirst : ((twoWithdrawals.initial withdrawalDb []).run firstOnly).all
      (fun c => c.shared.trace.all isFirstUse) = true := by decide +kernel
  rw [hc] at hfirst
  exact ⟨c, hc, run_payouts strict_twoWithdrawals unused_withdrawalDb
    (fun _ _ => List.not_mem_nil) hc
    (noReuse_of_all hfirst)⟩

/-- Both requests pass the check for an existing withdrawal; the first reserves and asks for the payout;
the second gets its withdrawal, asks again, is refused and gives the money back; then the first is
answered. -/
def doubleSchedule : List (Move twoWithdrawals.machine) :=
  List.replicate 2 (.go false) ++ List.replicate 12 (.go true) ++ List.replicate 6 (.go false) ++
    [.reply false (.error inProgress)] ++ List.replicate 7 (.go false) ++
    [.reply true (.ok (acceptedBody sharedPayout))] ++ List.replicate 3 (.go true)

/-- Who has ended and what the provider has taken charge of. -/
def doubleOutcome (c : Config twoWithdrawals.machine) : List Bool × List (Bool × PayoutRequest) :=
  (c.shared.log.map (·.1), c.shared.world)

/-- The provider has taken charge of the payout and reports no failure, but the withdrawal is released
and the wallet has its money back. -/
theorem doubleSchedule_releases_accepted : ∃ c,
    (twoWithdrawals.initial withdrawalDb []).run doubleSchedule = some c ∧
      c.shared.log.map (·.1) = [false, true] ∧ twoWithdrawals.accepted c.shared.world true sharedPayout ∧
      ∃ w, c.shared.db.withdrawals.find? sharedPayout.withdrawalId = some w ∧
        w.status = .released ∧ c.shared.db.balance w.driverId = withdrawalDb.balance w.driverId ∧
        ¬ Reported c.shared.trace w.businessReference := by
  obtain ⟨c, hc⟩ := Option.isSome_iff_exists.mp
    (by decide +kernel : ((twoWithdrawals.initial withdrawalDb []).run doubleSchedule).isSome = true)
  have hends : ((twoWithdrawals.initial withdrawalDb []).run doubleSchedule).map doubleOutcome =
      some ([false, true], [(true, sharedPayout)]) := by
    decide +kernel
  have hmoney : ((twoWithdrawals.initial withdrawalDb []).run doubleSchedule).map (fun c =>
      ((c.shared.db.withdrawals.find? 30).map (fun w => (w.status, w.driverId)),
        c.shared.db.balance 1, c.shared.trace.all isNoFailure)) =
      some (some (.released, 1), 10000, true) := by
    decide +kernel
  rw [hc, Option.map_some, Option.some_inj] at hends hmoney
  obtain ⟨hlog, hworld⟩ := Prod.mk.inj hends
  simp only [Prod.mk.injEq] at hmoney
  obtain ⟨hrow, hbalance, hreports⟩ := hmoney
  obtain ⟨w, hw, hstatus⟩ := Option.map_eq_some_iff.mp hrow
  obtain ⟨hst, hd⟩ := Prod.mk.inj hstatus
  refine ⟨c, hc, hlog, ?_, w, hw, hst, ?_, not_reported_of_all hreports _⟩
  · change (true, sharedPayout) ∈ c.shared.world
    rw [hworld]
    exact List.mem_singleton.mpr rfl
  · rw [hd, hbalance]
    decide +kernel

end DiddiGo.Payments
