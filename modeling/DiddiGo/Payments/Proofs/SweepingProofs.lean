import DiddiGo.Payments.Proofs.PayoutReportProofs
import DiddiGo.Payments.Proofs.TopupProofs

/-!
# Sweeps treat each row alone

What the body of a loop does to its row and to the ledger is the same in every state that a sweep goes through, since
the other rows touch neither the row nor what decides about it.
-/

namespace DiddiGo.Payments

open Data (Json Keyed Table)
open Transactions Prog

variable {ask : Query → Answer} {b : SweepBounds} {now : DateTime} {db s s' : PaymentDb}

/-! ## Touching one row -/

/-- From `s` to `s'` the row has become `row'`, and the ledger has got the entry if there is one. -/
structure Touches (row row' : SweptRow) (entry : Option LedgerKey) (s s' : PaymentDb) : Prop where
  own : s'.swept row.key = some row'
  others : ∀ key, key ≠ row.key → s'.swept key = s.swept key
  entries : ∀ k, (s'.ledger.find? k).isSome ↔ (s.ledger.find? k).isSome ∨ entry = some k
  rides : s'.rides = s.rides
  payable : Payable s → Payable s'
  topups : (∃ t, row = .transaction t) → s'.topups = s.topups
  withdrawals : (∀ w, row ≠ .withdrawal w) → s'.withdrawals = s.withdrawals

/-- A row that stays as it is. -/
theorem Touches.refl {row : SweptRow} (h : s.swept row.key = some row) : Touches row row none s s where
  own := h
  others _ _ := rfl
  entries k := by simp
  rides := rfl
  payable h := h
  topups _ := rfl
  withdrawals _ := rfl

/-- The report counts one more row, with one outcome. -/
def Counts (report report' : ReconciliationReport) : Prop :=
  ∀ n, report.Accounts n → report'.Accounts (n + 1)

theorem counts_of {report report' : ReconciliationReport} (hchecked : report'.checked = report.checked + 1)
    (houtcomes : report'.outcomes = report.outcomes + 1)
    (hreferences : report'.updatedReferences.length + report.updated =
      report.updatedReferences.length + report'.updated) : Counts report report' := by
  intro n h
  obtain ⟨hc, ho, hr⟩ := h
  exact ⟨by omega, by omega, by omega⟩

/-- The body of the loop returns, having touched its row only, and counts it. -/
def Lands (ask : Query → Answer) (now : DateTime) (row row' : SweptRow) (entry : Option LedgerKey)
    (s : PaymentDb) : Prop :=
  ∀ report, ∃ report' s', Returns ask s (row.reconcile now report) report' s' ∧
    Touches row row' entry s s' ∧ Counts report report'

/-- A body that returns and writes nothing. -/
theorem Lands.quiet {row : SweptRow} (hrow : s.swept row.key = some row)
    (h : ∀ report, ∃ report', Returns ask s (row.reconcile now report) report' s ∧ Counts report report') :
    Lands ask now row row none s := by
  intro report
  obtain ⟨report', hret, hcount⟩ := h report
  exact ⟨report', s, hret, .refl hrow, hcount⟩

/-! ## Entries -/

theorem isSome_record (e : DriverLedgerEntry) (k : LedgerKey) :
    ((s.record e now).ledger.find? k).isSome ↔ (s.ledger.find? k).isSome ∨ some e.ledgerKey = some k := by
  rw [find?_record, Option.isSome_or, Bool.or_eq_true, Option.some_inj]
  by_cases hk : e.ledgerKey = k
  · simp [hk]
  · simp [hk]

theorem payable_record (h : Payable s) (e : DriverLedgerEntry) : Payable (s.record e now) := by
  unfold PaymentDb.record
  split_ifs
  · exact h.openWallet _ _
  · exact (h.openWallet _ _).post _ _

@[simp] theorem withdrawals_record (e : DriverLedgerEntry) :
    (s.record e now).withdrawals = s.withdrawals := by
  unfold PaymentDb.record PaymentDb.post
  split_ifs <;> rfl

theorem isSome_recordSome_iff (e : Option DriverLedgerEntry) (k : LedgerKey) :
    ((s.recordSome e now).ledger.find? k).isSome ↔
      (s.ledger.find? k).isSome ∨ e.map (·.ledgerKey) = some k := by
  cases e with
  | none => simp [PaymentDb.recordSome]
  | some e => exact isSome_record e k

theorem payable_recordSome (h : Payable s) (e : Option DriverLedgerEntry) :
    Payable (s.recordSome e now) := by
  cases e with
  | none => exact h
  | some e => exact payable_record h e

@[simp] theorem withdrawals_recordSome (e : Option DriverLedgerEntry) :
    (s.recordSome e now).withdrawals = s.withdrawals := by
  cases e with
  | none => rfl
  | some e => exact withdrawals_record e
/-! ## Transactions and top-ups -/

section Intents

variable {intentId : Option UUID} {report : ReconciliationReport}

/-- What `_read_intent` returns: an intent, or one more outcome. -/
theorem returns_readIntent_cases (ask : Query → Answer) (intentId : Option UUID) :
    (∃ intent, Answers ask intentId intent ∧ intent ≠ .null) ∨
      ∀ (s : PaymentDb) (report : ReconciliationReport), ∃ report',
        Returns ask s (readIntent intentId report) (none, report') s ∧
          report'.checked = report.checked ∧ report'.outcomes = report.outcomes + 1 ∧
          report'.updatedReferences = report.updatedReferences ∧ report'.updated = report.updated := by
  cases intentId with
  | none =>
    refine Or.inr fun s report => ⟨_, .ret _, rfl, ?_, rfl, rfl⟩
    simp only [ReconciliationReport.outcomes]
    omega
  | some id =>
    cases hask : ask (.getPaymentIntent id) with
    | error e =>
      refine Or.inr fun s report => ⟨{ report with errors := report.errors + 1 }, ?_, rfl, rfl, rfl, rfl⟩
      refine Returns.bind (@Returns.call sig ask s (.getPaymentIntent id)) ?_
      rw [hask]
      exact .ret _
    | ok intent =>
      by_cases hnull : intent = .null
      · subst hnull
        refine Or.inr fun s report => ⟨{ report with missing := report.missing + 1 }, ?_, rfl, ?_, rfl, rfl⟩
        · refine Returns.bind (@Returns.call sig ask s (.getPaymentIntent id)) ?_
          rw [hask]
          exact .ret _
        · simp only [ReconciliationReport.outcomes]
          omega
      · exact Or.inl ⟨intent, ⟨id, rfl, hask⟩, hnull⟩

end Intents

theorem swept_transaction (id : UUID) : s.swept (.transaction id) = (s.transactions.find? id).map .transaction := rfl

theorem swept_topup (id : UUID) : s.swept (.topup id) = (s.topups.find? id).map .topup := rfl

theorem swept_withdrawal (id : UUID) : s.swept (.withdrawal id) = (s.withdrawals.find? id).map .withdrawal := rfl

/-- A status is applied to a transaction. -/
theorem touches_applyStatus {t : Transaction} (ht : s.transactions.find? t.id = some t)
    (status : PaymentStatus) (providerStatus : String) (paidAt : Option DateTime)
    (nextAction : Option (Option Json)) :
    Touches (.transaction t) (.transaction (t.marked status providerStatus paidAt nextAction))
      (((s.rides.find? t.rideId).bind fun ride => settlementEntry ride status now).map (·.ledgerKey)) s
      (s.applyStatus status providerStatus paidAt nextAction now t.id t.rideId) := by
  have htable : ∀ i, (s.applyStatus status providerStatus paidAt nextAction now t.id t.rideId).transactions.find? i =
      if i = t.id then (s.transactions.find? i).map (·.marked status providerStatus paidAt nextAction)
      else s.transactions.find? i := by
    intro i
    unfold PaymentDb.applyStatus PaymentDb.settle
    rw [transactions_recordSome]
    exact Table.find?_update s.transactions t.id (·.marked status providerStatus paidAt nextAction)
      (fun _ => rfl) i
  have hwithdrawals : (s.applyStatus status providerStatus paidAt nextAction now t.id t.rideId).withdrawals =
      s.withdrawals := withdrawals_recordSome _
  constructor
  · change (_ : Option Transaction).map _ = _
    rw [htable, if_pos rfl, ht]
    rfl
  · intro key hkey
    cases key with
    | transaction i =>
      rw [swept_transaction, swept_transaction, htable, if_neg fun h => hkey (congrArg _ h)]
    | topup i => rw [swept_topup, swept_topup, topups_applyStatus]
    | withdrawal i => rw [swept_withdrawal, swept_withdrawal, hwithdrawals]
  · exact fun k => isSome_recordSome_iff _ k
  · exact rides_recordSome _ _ _
  · intro h
    have hrow : Payable (s.updateTransaction t.id (·.marked status providerStatus paidAt nextAction)) :=
      h.grow rfl fun _ hd => hd
    exact payable_recordSome hrow _
  · exact fun _ => topups_applyStatus _ _ _ _ _ _ _ _
  · exact fun _ => hwithdrawals

/-- The body of the first loop. -/
theorem lands_transaction (ask : Query → Answer) (now : DateTime) (t : Transaction) (rides : Table Rides.Ride) :
    ∃ t' entry, ∀ s : PaymentDb, s.rides = rides → s.transactions.find? t.id = some t →
      Lands ask now (.transaction t) (.transaction t') entry s := by
  have hkey : ∀ s : PaymentDb, s.transactions.find? t.id = some t →
      s.swept (SweptRow.transaction t).key = some (.transaction t) := by
    intro s ht
    change (s.transactions.find? t.id).map _ = _
    rw [ht]
    rfl
  rcases returns_readIntent_cases ask t.paymentIntentId with ⟨intent, hans, hnull⟩ | hnone
  · by_cases hmatch : intentMismatchReason intent t.amount t.currency t.businessReference = none
    · cases hstatus : intentStatus intent with
      | none =>
        refine ⟨t, none, fun s _ ht => .quiet (hkey s ht) fun report =>
          ⟨{ report with checked := report.checked + 1, errors := report.errors + 1 }, ?_, counts_of rfl ?_ rfl⟩⟩
        · refine (returns_readIntent hans hnull _).bind ?_
          dsimp only
          rw [hmatch, show paymentStatusFromDiddipay ((intent.get "status").or (.str "")).toStr = none
            from hstatus]
          exact .ret _
        · simp only [ReconciliationReport.outcomes]
          omega
      | some status =>
        by_cases hsame : status = t.status ∧ nextActionFromIntent intent = t.providerNextAction
        · refine ⟨t, none, fun s _ ht => .quiet (hkey s ht) fun report =>
            ⟨_, returns_reconcileUnchanged hans hmatch hstatus hsame now report, counts_of rfl ?_ rfl⟩⟩
          simp only [ReconciliationReport.outcomes]
          omega
        · refine ⟨_, _, fun s hs ht report => ⟨_, _, returns_reconcileUpdated hans hmatch hstatus hsame ht now report,
            hs ▸ touches_applyStatus ht _ _ _ _, counts_of rfl ?_ ?_⟩⟩
          · simp only [ReconciliationReport.outcomes]
            omega
          · simp only [List.length_append, List.length_singleton]
            omega
    · refine ⟨t, none, fun s _ ht => .quiet (hkey s ht) fun report =>
        ⟨_, returns_reconcileMismatched hans hnull hmatch now report, counts_of rfl ?_ rfl⟩⟩
      simp only [ReconciliationReport.outcomes]
      omega
  · refine ⟨t, none, fun s _ ht => .quiet (hkey s ht) fun report => ?_⟩
    obtain ⟨report', hret, hc, ho, hr, hu⟩ := hnone s { report with checked := report.checked + 1 }
    exact ⟨report', hret.bind (.ret _), counts_of hc ho (by rw [hr, hu])⟩
theorem isSome_credit (t : DriverTopup) (k : LedgerKey) : ((s.credit t now).ledger.find? k).isSome ↔
    (s.ledger.find? k).isSome ∨
      (if t.status = .succeeded then some (topupEntry t now).ledgerKey else none) = some k := by
  unfold PaymentDb.credit
  split_ifs
  · exact isSome_record _ k
  · simp

theorem withdrawals_credit (t : DriverTopup) : (s.credit t now).withdrawals = s.withdrawals := by
  unfold PaymentDb.credit
  split_ifs
  · exact withdrawals_record _
  · rfl

theorem rides_credit (t : DriverTopup) : (s.credit t now).rides = s.rides := by
  unfold PaymentDb.credit
  split_ifs
  · exact rides_record _ _ _
  · rfl

theorem payable_credit (h : Payable s) (t : DriverTopup) : Payable (s.credit t now) := by
  unfold PaymentDb.credit
  split_ifs
  · exact payable_record h _
  · exact h

/-- A status is applied to a top-up. -/
theorem touches_markTopup {t : DriverTopup} (ht : s.topups.find? t.id = some t) (status : TopupStatus)
    (providerStatus : String) (paidAt : Option DateTime) (nextAction : Option (Option Json)) :
    Touches (.topup t) (.topup (t.marked status providerStatus paidAt nextAction))
      (if status = .succeeded then
        some (topupEntry (t.marked status providerStatus paidAt nextAction) now).ledgerKey else none) s
      ((s.markTopup t.id status providerStatus paidAt nextAction).credit
        (t.marked status providerStatus paidAt nextAction) now) := by
  constructor
  · change (_ : Option DriverTopup).map _ = _
    rw [topups_credit, find?_markTopup, if_pos rfl, ht]
    rfl
  · intro key hkey
    cases key with
    | transaction i =>
      rw [swept_transaction, swept_transaction, transactions_credit]
      rfl
    | topup i =>
      rw [swept_topup, swept_topup, topups_credit, find?_markTopup, if_neg fun h => hkey (congrArg _ h)]
    | withdrawal i =>
      rw [swept_withdrawal, swept_withdrawal, withdrawals_credit]
      rfl
  · exact fun k => isSome_credit _ k
  · exact rides_credit _
  · intro h
    have hrow : Payable (s.markTopup t.id status providerStatus paidAt nextAction) :=
      h.grow rfl fun _ hd => hd
    exact payable_credit hrow _
  · exact fun ⟨_, h⟩ => nomatch h
  · exact fun _ => withdrawals_credit _

/-- The body of the second loop. -/
theorem lands_topup (ask : Query → Answer) (now : DateTime) (t : DriverTopup) :
    ∃ t' entry, ∀ s : PaymentDb, s.topups.find? t.id = some t →
      Lands ask now (.topup t) (.topup t') entry s := by
  have hkey : ∀ s : PaymentDb, s.topups.find? t.id = some t →
      s.swept (SweptRow.topup t).key = some (.topup t) := by
    intro s ht
    change (s.topups.find? t.id).map _ = _
    rw [ht]
    rfl
  rcases returns_readIntent_cases ask t.paymentIntentId with ⟨intent, hans, hnull⟩ | hnone
  · by_cases hmatch : intentMismatchReason intent t.amount t.currency t.businessReference = none
    · cases hstatus : intentStatus intent with
      | none =>
        refine ⟨t, none, fun s ht => .quiet (hkey s ht) fun report =>
          ⟨{ report with checked := report.checked + 1, errors := report.errors + 1 }, ?_, counts_of rfl ?_ rfl⟩⟩
        · refine (returns_readIntent hans hnull _).bind ?_
          dsimp only
          rw [hmatch, show paymentStatusFromDiddipay ((intent.get "status").or (.str "")).toStr = none
            from hstatus]
          exact .ret _
        · simp only [ReconciliationReport.outcomes]
          omega
      | some status =>
        by_cases hsame : topupStatusFromPaymentStatus status = t.status ∧
            nextActionFromIntent intent = t.providerNextAction
        · refine ⟨t, none, fun s ht => .quiet (hkey s ht) fun report =>
            ⟨_, returns_reconcileTopupUnchanged hans hmatch hstatus hsame now report, counts_of rfl ?_ rfl⟩⟩
          simp only [ReconciliationReport.outcomes]
          omega
        · refine ⟨_, _, fun s ht report => ⟨_, _, returns_reconcileTopupUpdated hans hmatch hstatus hsame ht now report,
            touches_markTopup ht _ _ _ _, counts_of rfl ?_ ?_⟩⟩
          · simp only [ReconciliationReport.outcomes]
            omega
          · simp only [List.length_append, List.length_singleton]
            omega
    · refine ⟨t, none, fun s ht => .quiet (hkey s ht) fun report =>
        ⟨_, returns_reconcileTopupMismatched hans hnull hmatch now report, counts_of rfl ?_ rfl⟩⟩
      simp only [ReconciliationReport.outcomes]
      omega
  · refine ⟨t, none, fun s ht => .quiet (hkey s ht) fun report => ?_⟩
    obtain ⟨report', hret, hc, ho, hr, hu⟩ := hnone s { report with checked := report.checked + 1 }
    exact ⟨report', hret.bind (.ret _), counts_of hc ho (by rw [hr, hu])⟩

/-! ## Withdrawals -/

/-- What a mark makes of the row. -/
def markedRow (w : DriverWithdrawal) (p : ProviderState) (now : DateTime) : DriverWithdrawal :=
  if w.status.isFinal then w else w.marked p now

/-- The entry that a mark records. -/
def markedEntry (w : DriverWithdrawal) (p : ProviderState) : Option LedgerKey :=
  if w.status.isFinal then none
  else
    match storedStatus p.status with
    | .succeeded => some (w.entryKey .withdrawalSucceeded)
    | .released => some (w.entryKey .withdrawalReleased)
    | _ => none

/-- The row of a withdrawal is rewritten. -/
theorem touches_rewrite {w w' : DriverWithdrawal} {entry : Option LedgerKey}
    (hrow : ∀ i, s'.withdrawals.find? i = if i = w.id then some w' else s.withdrawals.find? i)
    (htransactions : s'.transactions = s.transactions) (htopups : s'.topups = s.topups)
    (hrides : s'.rides = s.rides)
    (hentries : ∀ k, (s'.ledger.find? k).isSome ↔ (s.ledger.find? k).isSome ∨ entry = some k)
    (hpay : Payable s → Payable s') : Touches (.withdrawal w) (.withdrawal w') entry s s' where
  own := by
    change (s'.withdrawals.find? w.id).map _ = _
    rw [hrow, if_pos rfl]
    rfl
  others key hkey := by
    cases key with
    | transaction i => rw [swept_transaction, swept_transaction, htransactions]
    | topup i => rw [swept_topup, swept_topup, htopups]
    | withdrawal i =>
      rw [swept_withdrawal, swept_withdrawal, hrow, if_neg fun h => hkey (congrArg _ h)]
  entries := hentries
  rides := hrides
  payable := hpay
  topups _ := htopups
  withdrawals h := absurd rfl (h w)

theorem isSome_insertEntry (e : DriverLedgerEntry) (k : LedgerKey) :
    ((s.insertEntry e).ledger.find? k).isSome ↔ (s.ledger.find? k).isSome ∨ some e.ledgerKey = some k := by
  rw [find?_insertEntry, Option.isSome_or, Bool.or_eq_true, Option.some_inj]
  by_cases hk : e.ledgerKey = k
  · simp [hk]
  · simp [hk]

/-- A mark of a withdrawal whose payout is not that of another one touches its row only. -/
theorem touches_mark {w : DriverWithdrawal} (hpay : Payable s) (hw : s.withdrawals.find? w.id = some w)
    (p : ProviderState) (hfree : payoutTaken w p s = false) (now : DateTime) (ask : Query → Answer) :
    ∃ s', Returns ask s (markWithdrawalProviderState w.id p now) (markedRow w p now) s' ∧
      Touches (.withdrawal w) (.withdrawal (markedRow w p now)) (markedEntry w p) s s' := by
  unfold markedRow markedEntry
  rcases exec_markWithdrawalProviderState ask s s w.id p now with
    ⟨e, cur, -, hwhy⟩ | ⟨x, hx, ⟨hfinal, he⟩ | ⟨hopen, -, ⟨hstored, he⟩ | ⟨hstored, he⟩ | ⟨hstored, hold, he⟩ |
      ⟨wal, hstored, -, he⟩⟩⟩
  · rcases hwhy w hw with htaken | hnone
    · rw [hfree] at htaken
      cases htaken
    · have hsome := hpay.wallet w.id w hw
      rw [hnone] at hsome
      cases hsome
  · obtain rfl := Option.some.inj (hw.symm.trans hx)
    rw [if_pos hfinal, if_pos hfinal]
    refine ⟨s, Returns.of_exec (S := sig) (atomic_markWithdrawalProviderState _ _ _) he, .refl ?_⟩
    change (s.withdrawals.find? w.id).map _ = _
    rw [hw]
    rfl
  all_goals
    obtain rfl := Option.some.inj (hw.symm.trans hx)
    rw [hopen, if_neg Bool.false_ne_true, if_neg Bool.false_ne_true]
    refine ⟨_, Returns.of_exec (S := sig) (atomic_markWithdrawalProviderState _ _ _) he,
      touches_rewrite (find?_markWithdrawal hw p now) rfl rfl rfl ?_ ?_⟩
  · intro k
    rw [ledger_markWithdrawal]
    cases hs : storedStatus p.status with
    | succeeded =>
      rw [hs] at hstored
      cases hstored
    | released =>
      rw [hs] at hstored
      cases hstored
    | _ => simp
  · exact fun h => h.markWithdrawal now hw hfree
  · intro k
    rw [hstored]
    exact isSome_insertEntry _ k
  · exact fun h => (h.markWithdrawal now hw hfree).insertEntry _
  · intro k
    rw [hstored]
    exact isSome_insertEntry _ k
  · exact fun h => (h.markWithdrawal now hw hfree).insertEntry _
  · intro k
    rw [hstored]
    exact isSome_insertEntry _ k
  · exact fun h => ((h.markWithdrawal now hw hfree).insertEntry _).flushWallet _ _ _ _
/-- No withdrawal but `w` has a payout that an answer gives to `w`. -/
def Free (ask : Query → Answer) (w : DriverWithdrawal) (s : PaymentDb) : Prop :=
  ∀ payoutId, NamesPayout ask w payoutId → ∀ x ∈ s.withdrawals.rows, x.payoutId = some payoutId → x.id = w.id

/-- A withdrawal has at most got a payout that an answer gives to it. -/
structure GotNamed (ask : Query → Answer) (w w' : DriverWithdrawal) : Prop where
  id : w.id = w'.id
  payout : ∀ payoutId, w'.payoutId = some payoutId → w.payoutId = some payoutId ∨ NamesPayout ask w payoutId

theorem GotNamed.refl (ask : Query → Answer) (w : DriverWithdrawal) : GotNamed ask w w := ⟨rfl, fun _ => Or.inl⟩

/-- The end of the body of the third loop. -/
def markSwept (w : DriverWithdrawal) (p : ProviderState) (now : DateTime) (report : ReconciliationReport) :
    Action ReconciliationReport := do
  let updated ← markWithdrawalProviderState w.id p now
  if updated.status = w.status then
    return { report with checked := report.checked + 1, unchanged := report.unchanged + 1 }
  return { report with
    checked := report.checked + 1
    updated := report.updated + 1
    updatedReferences := report.updatedReferences ++ [w.businessReference] }

/-- The body of the third loop once the payout is known. -/
def sweepPayout (w : DriverWithdrawal) (payout : Json) (now : DateTime) (report : ReconciliationReport) :
    Action ReconciliationReport := do
  let amount ← intOrMinusOne (payout.get "amount")
  if amount ≠ Decimal.toInt w.netAmount ∨ payout.get "currency" ≠ .str w.currency ∨
      payout.get "business_reference" ≠ .str w.businessReference then
    return { report with checked := report.checked + 1, mismatched := report.mismatched + 1 }
  match reportedStatus payout with
  | none => return { report with checked := report.checked + 1, errors := report.errors + 1 }
  | some target =>
    let payoutId ← uuidOf (payout.get "id")
    markSwept w (reportedState payout payoutId target) now report

section Withdrawals

variable {w : DriverWithdrawal} {payout : Json}

theorem returns_payout {answer : Answer} (hask : ask (payoutQuery w) = answer) :
    Returns ask s (Prog.ask (S := sig) (payoutQuery w)) answer s := by
  rw [← hask]
  exact @Returns.call sig ask s (payoutQuery w)

theorem exec_reconcileStaleWithdrawal (hask : ask (payoutQuery w) = .ok payout) (hnull : payout ≠ .null)
    (report : ReconciliationReport) (base : PaymentDb) :
    (reconcileStaleWithdrawal w now report).exec ask base s =
      (sweepPayout w payout now report).exec ask base s := by
  unfold reconcileStaleWithdrawal
  rw [exec_bind_of_ok _ _ _ (exec_ask _ _ _ _), hask]
  cases payout with
  | null => exact absurd rfl hnull
  | _ => rfl

theorem legible_iff (hask : ask (payoutQuery w) = .ok payout) (hnull : payout ≠ .null) :
    Legible ask w ↔ (((payout.get "amount").or (.int (-1))).toInt?).isSome ∧
      (SameMoney w payout → SameReference w payout → (reportedStatus payout).isSome →
        (UUID.ofString (payout.get "id").toStr).isSome) := by
  unfold Legible
  rw [hask]
  cases payout with
  | null => exact absurd rfl hnull
  | _ => exact Iff.rfl

theorem returns_markSwept (hpay : Payable s) (hw : s.withdrawals.find? w.id = some w) {p : ProviderState}
    (hfree : payoutTaken w p s = false) (now : DateTime) (ask : Query → Answer) (report : ReconciliationReport) :
    ∃ report' s', Returns ask s (markSwept w p now report) report' s' ∧
      Touches (.withdrawal w) (.withdrawal (markedRow w p now)) (markedEntry w p) s s' ∧ Counts report report' := by
  obtain ⟨s', hret, htouch⟩ := touches_mark hpay hw p hfree now ask
  by_cases hstatus : (markedRow w p now).status = w.status
  · refine ⟨{ report with checked := report.checked + 1, unchanged := report.unchanged + 1 }, s', hret.bind ?_,
      htouch, counts_of rfl ?_ rfl⟩
    · rw [if_pos hstatus]
      exact .ret _
    · simp only [ReconciliationReport.outcomes]
      omega
  · refine ⟨{ report with
      checked := report.checked + 1
      updated := report.updated + 1
      updatedReferences := report.updatedReferences ++ [w.businessReference] }, s', hret.bind ?_, htouch,
      counts_of rfl ?_ ?_⟩
    · rw [if_neg hstatus]
      exact .ret _
    · simp only [ReconciliationReport.outcomes]
      omega
    · simp only [List.length_append, List.length_singleton]
      omega

/-- The body fails on a payout that cannot be read. -/
theorem fails_sweepPayout {report : ReconciliationReport}
    (h : ¬ ((((payout.get "amount").or (.int (-1))).toInt?).isSome ∧
      (SameMoney w payout → SameReference w payout → (reportedStatus payout).isSome →
        (UUID.ofString (payout.get "id").toStr).isSome))) :
    Fails ask s (sweepPayout w payout now report) := by
  unfold sweepPayout intOrMinusOne uuidOf
  cases ha : ((payout.get "amount").or (.int (-1))).toInt? with
  | none => exact (Fails.raise _).bind _
  | some a =>
    have hid : SameMoney w payout ∧ SameReference w payout ∧ (reportedStatus payout).isSome ∧
        UUID.ofString (payout.get "id").toStr = none := by
      rw [ha] at h
      simpa using h
    obtain ⟨hm, hr, hs, hnone⟩ := hid
    obtain ⟨target, ht⟩ := Option.isSome_iff_exists.mp hs
    obtain rfl : a = Decimal.toInt w.netAmount := Option.some.inj (ha.symm.trans hm.1)
    refine .after (.ret _) ?_
    rw [if_neg (by simp [hm.2, show payout.get "business_reference" = .str w.businessReference from hr]), ht]
    dsimp only
    rw [hnone]
    exact (Fails.raise _).bind _

/-- On one that can be read it returns, and what it does to the row does not depend on the state. -/
theorem lands_sweepPayout (hask : ask (payoutQuery w) = .ok payout) (hnull : payout ≠ .null)
    (hlegible : Legible ask w) (now : DateTime) :
    ∃ w' entry, GotNamed ask w w' ∧
      ∀ s : PaymentDb, Payable s → s.withdrawals.find? w.id = some w → Free ask w s →
        Lands ask now (.withdrawal w) (.withdrawal w') entry s := by
  have hkey : ∀ s : PaymentDb, s.withdrawals.find? w.id = some w →
      s.swept (SweptRow.withdrawal w).key = some (.withdrawal w) := by
    intro s hw
    change (s.withdrawals.find? w.id).map _ = _
    rw [hw]
    rfl
  have hbody : ∀ (s : PaymentDb) report report' s', Returns ask s (sweepPayout w payout now report) report' s' →
      Returns ask s (reconcileStaleWithdrawal w now report) report' s' := fun s report report' s' h base =>
    (exec_reconcileStaleWithdrawal hask hnull report base).trans (h base)
  obtain ⟨hamount, hid⟩ := (legible_iff hask hnull).mp hlegible
  obtain ⟨a, ha⟩ := Option.isSome_iff_exists.mp hamount
  by_cases hmis : a ≠ Decimal.toInt w.netAmount ∨ payout.get "currency" ≠ .str w.currency ∨
      payout.get "business_reference" ≠ .str w.businessReference
  · refine ⟨w, none, .refl ask w, fun s _ hw _ => .quiet (hkey s hw) fun report =>
      ⟨{ report with checked := report.checked + 1, mismatched := report.mismatched + 1 }, hbody _ _ _ _ ?_,
        counts_of rfl ?_ rfl⟩⟩
    · unfold sweepPayout intOrMinusOne
      rw [ha]
      refine Returns.bind (.ret a) ?_
      rw [if_pos hmis]
      exact .ret _
    · simp only [ReconciliationReport.outcomes]
      omega
  have hsame : SameMoney w payout ∧ SameReference w payout := by
    obtain ⟨hamount, hcurrency, href⟩ : a = Decimal.toInt w.netAmount ∧ payout.get "currency" = .str w.currency ∧
        payout.get "business_reference" = .str w.businessReference := by simpa [not_or] using hmis
    exact ⟨⟨by rw [ha, hamount], hcurrency⟩, href⟩
  cases ht : reportedStatus payout with
  | none =>
    refine ⟨w, none, .refl ask w, fun s _ hw _ => .quiet (hkey s hw) fun report =>
      ⟨{ report with checked := report.checked + 1, errors := report.errors + 1 }, hbody _ _ _ _ ?_,
        counts_of rfl ?_ rfl⟩⟩
    · unfold sweepPayout intOrMinusOne
      rw [ha]
      refine Returns.bind (.ret a) ?_
      rw [if_neg hmis, ht]
      exact .ret _
    · simp only [ReconciliationReport.outcomes]
      omega
  | some target =>
    obtain ⟨payoutId, hpayout⟩ := Option.isSome_iff_exists.mp (hid hsame.1 hsame.2 (by rw [ht]; rfl))
    have hnames : NamesPayout ask w payoutId := ⟨payout, hask, hsame.2, hpayout⟩
    refine ⟨markedRow w (reportedState payout payoutId target) now,
      markedEntry w (reportedState payout payoutId target), ?_, fun s hpay hw hfree report => ?_⟩
    · unfold markedRow
      split_ifs
      · exact .refl ask w
      · refine ⟨rfl, fun p hp => Or.inr ?_⟩
        obtain rfl : payoutId = p := Option.some.inj hp
        exact hnames
    have htaken : payoutTaken w (reportedState payout payoutId target) s = false := by
      refine List.any_eq_false.mpr fun x hx htaken => ?_
      simp only [decide_eq_true_eq] at htaken
      exact htaken.1 (hfree payoutId hnames x hx htaken.2.1)
    obtain ⟨report', s', hret, htouch, hcount⟩ := returns_markSwept hpay hw htaken now ask report
    refine ⟨report', s', hbody _ _ _ _ ?_, htouch, hcount⟩
    unfold sweepPayout intOrMinusOne uuidOf
    rw [ha]
    refine Returns.bind (.ret a) ?_
    rw [if_neg hmis, ht]
    dsimp only
    rw [hpayout]
    exact Returns.bind (.ret payoutId) hret

end Withdrawals
/-! ## Rows -/

/-- The answer about the row can be read. -/
def SweptRow.Legible (ask : Query → Answer) : SweptRow → Prop
  | .withdrawal w => DiddiGo.Payments.Legible ask w
  | _ => True

/-- A state that a sweep from `db` goes through. -/
structure Swept (ask : Query → Answer) (db s : PaymentDb) : Prop where
  rides : s.rides = db.rides
  payable : Payable s
  named : ∀ x ∈ s.withdrawals.rows, ∃ w ∈ db.withdrawals.rows, GotNamed ask w x

theorem Swept.refl (h : Payable db) : Swept ask db db where
  rides := rfl
  payable := h
  named x hx := ⟨x, hx, .refl ask x⟩

theorem Swept.free (h : Swept ask db s) (hsound : SoundAnswers ask db) {w : DriverWithdrawal}
    (hw : w ∈ db.withdrawals.rows) : Free ask w s := by
  intro payoutId hnames x hx hpayout
  obtain ⟨y, hy, hgot⟩ := h.named x hx
  exact hgot.id.symm.trans (hsound.payouts w hw payoutId hnames y hy (hgot.payout payoutId hpayout))

/-- The body of the third loop. -/
theorem lands_withdrawal {w : DriverWithdrawal} (hlegible : Legible ask w) (now : DateTime) :
    ∃ w' entry, GotNamed ask w w' ∧ ∀ s : PaymentDb, Payable s → s.withdrawals.find? w.id = some w →
      Free ask w s → Lands ask now (.withdrawal w) (.withdrawal w') entry s := by
  have hkey : ∀ s : PaymentDb, s.withdrawals.find? w.id = some w →
      s.swept (SweptRow.withdrawal w).key = some (.withdrawal w) := by
    intro s hw
    change (s.withdrawals.find? w.id).map _ = _
    rw [hw]
    rfl
  cases hask : ask (payoutQuery w) with
  | ok payout =>
    by_cases hnull : payout = .null
    · subst hnull
      refine ⟨w, none, .refl ask w, fun s _ hw _ => .quiet (hkey s hw) fun report =>
        ⟨{ report with checked := report.checked + 1, missing := report.missing + 1 },
          (returns_payout hask).bind (.ret _), counts_of rfl ?_ rfl⟩⟩
      simp only [ReconciliationReport.outcomes]
      omega
    · exact lands_sweepPayout hask hnull hlegible now
  | error e =>
    cases e with
    | api e =>
      refine ⟨w, none, .refl ask w, fun s _ hw _ => .quiet (hkey s hw) fun report =>
        ⟨{ report with checked := report.checked + 1, errors := report.errors + 1 },
          (returns_payout hask).bind (.ret _), counts_of rfl ?_ rfl⟩⟩
      simp only [ReconciliationReport.outcomes]
      omega
    | _ =>
      unfold Legible at hlegible
      rw [hask] at hlegible
      exact hlegible.elim

theorem fails_withdrawal {w : DriverWithdrawal} (h : ¬ Legible ask w) (report : ReconciliationReport) :
    Fails ask s (reconcileStaleWithdrawal w now report) := by
  cases hask : ask (payoutQuery w) with
  | ok payout =>
    by_cases hnull : payout = .null
    · unfold Legible at h
      rw [hask, hnull] at h
      exact absurd trivial h
    · rw [legible_iff hask hnull] at h
      intro base
      rw [exec_reconcileStaleWithdrawal hask hnull]
      exact fails_sweepPayout h base
  | error e =>
    cases e with
    | api e =>
      unfold Legible at h
      rw [hask] at h
      exact absurd trivial h
    | _ =>
      exact Fails.after (returns_payout hask) (.raise _)

/-- What the body of a loop does to its row is the same in all states that the sweep goes through. -/
theorem lands_row (hsound : SoundAnswers ask db) {row : SweptRow} (hrow : db.swept row.key = some row)
    (hlegible : row.Legible ask) (now : DateTime) :
    ∃ row' entry, (∀ x, row' = .withdrawal x → ∃ w ∈ db.withdrawals.rows, GotNamed ask w x) ∧
      ∀ s, Swept ask db s → s.swept row.key = some row → Lands ask now row row' entry s := by
  cases row with
  | transaction t =>
    obtain ⟨t', entry, h⟩ := lands_transaction ask now t db.rides
    refine ⟨.transaction t', entry, (fun _ hx => nomatch hx), fun s hs hcur => h s hs.rides ?_⟩
    obtain ⟨x, hx, heq⟩ := Option.map_eq_some_iff.mp hcur
    obtain rfl := SweptRow.transaction.inj heq
    exact hx
  | topup t =>
    obtain ⟨t', entry, h⟩ := lands_topup ask now t
    refine ⟨.topup t', entry, (fun _ hx => nomatch hx), fun s hs hcur => h s ?_⟩
    obtain ⟨x, hx, heq⟩ := Option.map_eq_some_iff.mp hcur
    obtain rfl := SweptRow.topup.inj heq
    exact hx
  | withdrawal w =>
    have hfind : ∀ s : PaymentDb, s.swept (SweptRow.withdrawal w).key = some (.withdrawal w) →
        s.withdrawals.find? w.id = some w := by
      intro s hcur
      obtain ⟨x, hx, heq⟩ := Option.map_eq_some_iff.mp hcur
      obtain rfl := SweptRow.withdrawal.inj heq
      exact hx
    have hmem : w ∈ db.withdrawals.rows := Table.mem_of_find? (hfind db hrow)
    obtain ⟨w', entry, hgot, h⟩ := lands_withdrawal hlegible now
    refine ⟨.withdrawal w', entry, fun x hx => ?_, fun s hs hcur =>
      h s hs.payable (hfind s hcur) (hs.free hsound hmem)⟩
    obtain rfl := SweptRow.withdrawal.inj hx
    exact ⟨w, hmem, hgot⟩

/-- A loop body leads from a state of the sweep to another one. -/
theorem Swept.touches (h : Swept ask db s) {row row' : SweptRow} {entry : Option LedgerKey}
    (hnamed : ∀ x, row' = .withdrawal x → ∃ w ∈ db.withdrawals.rows, GotNamed ask w x)
    (ht : Touches row row' entry s s') : Swept ask db s' where
  rides := ht.rides.trans h.rides
  payable := ht.payable h.payable
  named x hx := by
    have hcur : s'.swept (.withdrawal x.id) = some (.withdrawal x) := by
      rw [swept_withdrawal, show s'.withdrawals.find? x.id = some x from Table.find?_key_of_mem hx]
      rfl
    by_cases hkey : SweptKey.withdrawal x.id = row.key
    · rw [hkey, ht.own] at hcur
      exact hnamed x (Option.some.inj hcur)
    · rw [ht.others _ hkey] at hcur
      obtain ⟨y, hy, heq⟩ := Option.map_eq_some_iff.mp hcur
      obtain rfl := SweptRow.withdrawal.inj heq
      exact h.named y (Table.mem_of_find? hy)
/-! ## Sweeps -/

/-- A sweep from `db` has come to `s` and has done what `SweptAlone` says to the rows in `done`. -/
structure Along (ask : Query → Answer) (now : DateTime) (db : PaymentDb) (done : List SweptRow)
    (report : ReconciliationReport) (s : PaymentDb) : Prop where
  swept : Swept ask db s
  rows : ∀ row ∈ done, s.swept row.key = ((row.reconcile now {}).run ask db).2.swept row.key
  others : ∀ key, (∀ row ∈ done, row.key ≠ key) → s.swept key = db.swept key
  entries : ∀ k, (s.ledger.find? k).isSome ↔ (db.ledger.find? k).isSome ∨
    ∃ row ∈ done, (((row.reconcile now {}).run ask db).2.ledger.find? k).isSome
  accounts : report.Accounts done.length
  topups : (∀ row ∈ done, ∃ t, row = .transaction t) → s.topups = db.topups
  withdrawals : (∀ row ∈ done, ∀ w, row ≠ .withdrawal w) → s.withdrawals = db.withdrawals

theorem Along.nil (h : Payable db) : Along ask now db [] {} db where
  swept := .refl h
  rows _ h := nomatch h
  others _ _ := rfl
  entries k := by simp
  accounts := ⟨rfl, rfl, rfl⟩
  topups _ := rfl
  withdrawals _ := rfl

/-- The body of a loop goes on with a row that was not swept before, if its answer can be read. -/
theorem Along.step (hsound : SoundAnswers ask db) (hpay : Payable db) {done : List SweptRow}
    {report : ReconciliationReport} (h : Along ask now db done report s) {row : SweptRow}
    (hrow : db.swept row.key = some row) (hnew : ∀ r ∈ done, r.key ≠ row.key) (hlegible : row.Legible ask) :
    ∃ report' s', Returns ask s (row.reconcile now report) report' s' ∧
      Along ask now db (done ++ [row]) report' s' := by
  obtain ⟨row', entry, hnamed, hlands⟩ := lands_row hsound hrow hlegible now
  -- the same row and the same entry, when the row is reconciled alone
  obtain ⟨report₁, alone, hret₁, htouch₁, -⟩ := hlands db (.refl hpay) hrow {}
  have halone : ((row.reconcile now {}).run ask db).2 = alone := by rw [hret₁.run]
  obtain ⟨report', s', hret, htouch, hcount⟩ := hlands s h.swept ((h.others _ hnew).trans hrow) report
  refine ⟨report', s', hret, ?_⟩
  constructor
  · exact h.swept.touches hnamed htouch
  · intro r hr
    rcases List.mem_append.mp hr with hr | hr
    · rw [htouch.others _ (hnew r hr), h.rows r hr]
    · obtain rfl := List.mem_singleton.mp hr
      rw [htouch.own, halone, htouch₁.own]
  · intro key hkey
    rw [htouch.others key fun heq => hkey row (by simp) heq.symm]
    exact h.others key fun r hr => hkey r (by simp [hr])
  · intro k
    rw [htouch.entries, h.entries]
    constructor
    · rintro ((hk | ⟨r, hr, hk⟩) | hk)
      · exact Or.inl hk
      · exact Or.inr ⟨r, by simp [hr], hk⟩
      · exact Or.inr ⟨row, by simp, by rw [halone, htouch₁.entries]; exact Or.inr hk⟩
    · rintro (hk | ⟨r, hr, hk⟩)
      · exact Or.inl (Or.inl hk)
      · rcases List.mem_append.mp hr with hr | hr
        · exact Or.inl (Or.inr ⟨r, hr, hk⟩)
        · obtain rfl := List.mem_singleton.mp hr
          rw [halone, htouch₁.entries] at hk
          exact hk.elim (fun hk => Or.inl (Or.inl hk)) Or.inr
  · rw [List.length_append, List.length_singleton]
    exact hcount _ h.accounts
  · intro hkind
    rw [htouch.topups (hkind row (by simp)), h.topups fun r hr => hkind r (by simp [hr])]
  · intro hkind
    rw [htouch.withdrawals (hkind row (by simp)), h.withdrawals fun r hr => hkind r (by simp [hr])]

/-- The body fails on a row whose answer cannot be read. -/
theorem fails_row {row : SweptRow} (h : ¬ row.Legible ask) (report : ReconciliationReport) :
    Fails ask s (row.reconcile now report) := by
  cases row with
  | transaction t => exact absurd trivial h
  | topup t => exact absurd trivial h
  | withdrawal w => exact fails_withdrawal h report

/-- A loop over rows of the database that were not swept before. -/
theorem Along.loop (hsound : SoundAnswers ask db) (hpay : Payable db) {done rows : List SweptRow}
    {report : ReconciliationReport} (h : Along ask now db done report s)
    (hrows : ∀ row ∈ rows, db.swept row.key = some row) (hnodup : ((done ++ rows).map SweptRow.key).Nodup) :
    ((∀ row ∈ rows, row.Legible ask) → ∃ report' s',
      Returns ask s (rows.foldlM (fun report row => row.reconcile now report) report) report' s' ∧
        Along ask now db (done ++ rows) report' s') ∧
      ((∃ row ∈ rows, ¬ row.Legible ask) →
        Fails ask s (rows.foldlM (fun report row => row.reconcile now report) report)) := by
  refine @foldlM_cases sig SweptRow ReconciliationReport ask rows (fun report row => row.reconcile now report)
    (·.Legible ask) (fun swept report s => Along ask now db (done ++ swept) report s)
    (fun swept row rest report s hsplit hI => ⟨fun hlegible => ?_, fun hnot => fails_row hnot report⟩) report s
    (by rwa [List.append_nil])
  have hnew : ∀ r ∈ done ++ swept, r.key ≠ row.key := by
    intro r hr heq
    rw [← hsplit, ← List.append_assoc, List.map_append, List.nodup_append] at hnodup
    exact hnodup.2.2 _ (List.mem_map_of_mem hr) _ (List.mem_map_of_mem List.mem_cons_self) heq
  obtain ⟨report', s', hret, hI'⟩ := hI.step hsound hpay (hrows row (by simp [← hsplit])) hnew hlegible
  exact ⟨report', s', hret, by rwa [← List.append_assoc]⟩
/-! ## The three loops -/

theorem current_staleTransactions {t : Transaction} (h : t ∈ db.staleTransactions b) :
    db.swept (SweptRow.transaction t).key = some (.transaction t) := by
  have hfind : db.transactions.find? t.id = some t := Table.find?_key_of_mem (Table.mem_of_mem_page h).1
  change (db.transactions.find? t.id).map _ = _
  rw [hfind]
  rfl

theorem current_staleTopups {t : DriverTopup} (h : t ∈ db.staleTopups b) :
    db.swept (SweptRow.topup t).key = some (.topup t) := by
  have hfind : db.topups.find? t.id = some t := Table.find?_key_of_mem (Table.mem_of_mem_page h).1
  change (db.topups.find? t.id).map _ = _
  rw [hfind]
  rfl

theorem current_staleWithdrawals {w : DriverWithdrawal} (h : w ∈ db.staleWithdrawals b) :
    db.swept (SweptRow.withdrawal w).key = some (.withdrawal w) := by
  have hfind : db.withdrawals.find? w.id = some w := Table.find?_key_of_mem (Table.mem_of_mem_page h).1
  change (db.withdrawals.find? w.id).map _ = _
  rw [hfind]
  rfl

/-- No row is swept twice. -/
theorem nodup_staleRows (db : PaymentDb) (b : SweepBounds) : ((db.staleRows b).map SweptRow.key).Nodup := by
  have htransactions : (((db.staleTransactions b).map SweptRow.transaction).map SweptRow.key).Nodup := by
    have hkeys : ((db.staleTransactions b).map Transaction.id).Nodup := Table.nodup_page _ _ _ _
    rw [List.map_map, show SweptRow.key ∘ SweptRow.transaction = SweptKey.transaction ∘ Transaction.id from rfl,
      ← List.map_map]
    exact hkeys.map fun _ _ => SweptKey.transaction.inj
  have htopups : (((db.staleTopups b).map SweptRow.topup).map SweptRow.key).Nodup := by
    have hkeys : ((db.staleTopups b).map DriverTopup.id).Nodup := Table.nodup_page _ _ _ _
    rw [List.map_map, show SweptRow.key ∘ SweptRow.topup = SweptKey.topup ∘ DriverTopup.id from rfl,
      ← List.map_map]
    exact hkeys.map fun _ _ => SweptKey.topup.inj
  have hwithdrawals : (((db.staleWithdrawals b).map SweptRow.withdrawal).map SweptRow.key).Nodup := by
    have hkeys : ((db.staleWithdrawals b).map DriverWithdrawal.id).Nodup := Table.nodup_page _ _ _ _
    rw [List.map_map, show SweptRow.key ∘ SweptRow.withdrawal = SweptKey.withdrawal ∘ DriverWithdrawal.id from rfl,
      ← List.map_map]
    exact hkeys.map fun _ _ => SweptKey.withdrawal.inj
  unfold PaymentDb.staleRows
  rw [List.map_append, List.map_append, List.nodup_append, List.nodup_append]
  refine ⟨⟨htransactions, htopups, ?_⟩, hwithdrawals, ?_⟩
  · simp [SweptRow.key]
  · simp only [List.map_map, List.mem_append, List.mem_map, Function.comp_apply]
    rintro _ (⟨x, -, rfl⟩ | ⟨x, -, rfl⟩) _ ⟨y, -, rfl⟩ h <;> cases h

/-- The first two loops always return. -/
theorem along_intents (hsound : SoundAnswers ask db) (hpay : Payable db) :
    ∃ report₁ s₁ report₂ s₂, Returns ask db (reconcileStaleTransactions b now {}) report₁ s₁ ∧
      Returns ask s₁ (reconcileStaleTopups b now report₁) report₂ s₂ ∧
      Along ask now db ((db.staleTransactions b).map .transaction ++ (db.staleTopups b).map .topup) report₂ s₂ := by
  have hnodup := nodup_staleRows db b
  unfold PaymentDb.staleRows at hnodup
  rw [List.map_append, List.nodup_append, List.map_append] at hnodup
  obtain ⟨hboth, -, -⟩ := hnodup
  have htransactions : ∀ row ∈ (db.staleTransactions b).map SweptRow.transaction, db.swept row.key = some row := by
    intro row hrow
    obtain ⟨t, ht, rfl⟩ := List.mem_map.mp hrow
    exact current_staleTransactions ht
  have htopups : ∀ row ∈ (db.staleTopups b).map SweptRow.topup, db.swept row.key = some row := by
    intro row hrow
    obtain ⟨t, ht, rfl⟩ := List.mem_map.mp hrow
    exact current_staleTopups ht
  obtain ⟨report₁, s₁, hret₁, h₁⟩ := ((@Along.nil ask now db hpay).loop hsound hpay htransactions
    (List.nodup_append.mp hboth).1).1 fun row hrow => by
      obtain ⟨t, -, rfl⟩ := List.mem_map.mp hrow
      trivial
  rw [List.nil_append] at h₁
  have htable : s₁.topups = db.topups := h₁.topups fun row hrow => by
    obtain ⟨t, -, rfl⟩ := List.mem_map.mp hrow
    exact ⟨t, rfl⟩
  obtain ⟨report₂, s₂, hret₂, h₂⟩ := (h₁.loop hsound hpay htopups (by rwa [List.map_append])).1 fun row hrow => by
    obtain ⟨t, -, rfl⟩ := List.mem_map.mp hrow
    trivial
  rw [List.foldlM_map] at hret₁ hret₂
  refine ⟨report₁, s₁, report₂, s₂, ?_, ?_, h₂⟩
  · exact Returns.bind (@Returns.select sig _ ask db fun db : PaymentDb => db.staleTransactions b) hret₁
  · refine Returns.bind (@Returns.select sig _ ask s₁ fun db : PaymentDb => db.staleTopups b) ?_
    unfold PaymentDb.staleTopups at hret₂ ⊢
    rw [htable]
    exact hret₂

/-- Rows that have not changed for long enough. -/
def sweptBounds : SweepBounds where
  createdBefore := 100
  createdAfter := 0
  limit := 10

theorem rows_reservedHistory :
    (runCalls reservedHistory withdrawalDb).withdrawals.rows = [withdrawal30] := by decide +kernel

/-- DiddiPay answers with the payout of one withdrawal. -/
theorem soundAnswers_payoutOf2000 :
    SoundAnswers (answering (succeededPayout 2000)) (runCalls reservedHistory withdrawalDb) where
  objects _ body h := by
    obtain rfl := Except.ok.inj h
    exact Or.inr rfl
  payouts w hw _ _ x hx _ := by
    rw [rows_reservedHistory, List.mem_singleton] at hw hx
    rw [hw, hx]

end DiddiGo.Payments
