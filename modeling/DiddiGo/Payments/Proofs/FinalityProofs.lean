import DiddiGo.Payments.Finality
import DiddiGo.Payments.Proofs.PreparationProofs
import DiddiGo.Payments.Proofs.TopupProofs

/-!
# Which histories keep received money

Sweeps and payments in the app never overturn received money; callbacks and reconciliations by
administrators do exactly when they report a status that overturns it.
-/

namespace DiddiGo.Payments

open Data (Json Keyed Table)
open Transactions Prog

variable {ask : Query → Answer} {start db db' : PaymentDb} {id : UUID}

/-! ## Transactions -/

/-- What is received at `start` in transactions is still received. -/
def TransactionsStay (start db : PaymentDb) : Prop :=
  ∀ id t, start.transactions.find? id = some t → t.IsReceived →
    ∃ t', db.transactions.find? id = some t' ∧ ¬ t.OverturnedBy t'.status

namespace TransactionsStay

theorem congr (h : TransactionsStay start db) (ht : db'.transactions = db.transactions) :
    TransactionsStay start db' := by
  unfold TransactionsStay
  rw [ht]
  exact h

theorem insert (h : TransactionsStay start db) (t : Transaction) :
    TransactionsStay start (db.insertTransaction t) := by
  intro id x hx hr
  obtain ⟨y, hy, hok⟩ := h id x hx hr
  exact ⟨y, Table.find?_insert_of_some t hy, hok⟩

/-- A row may be rewritten if its new status overturns nothing. -/
theorem update (h : TransactionsStay start db) {t : Transaction}
    (ht : db.transactions.find? id = some t) (f : Transaction → Transaction)
    (hf : ∀ t, Keyed.key (f t) = Keyed.key t) (hok : ¬ OverturnsTransaction start id (f t).status) :
    TransactionsStay start (db.updateTransaction id f hf) := by
  intro i x hx hr
  obtain ⟨y, hy, hkept⟩ := h i x hx hr
  by_cases hi : i = id
  · subst hi
    refine ⟨f t, Table.find?_update_self f hf ht, fun hover => hok ⟨x, hx, hr, hover⟩⟩
  · exact ⟨y, (Table.find?_update_of_ne _ f hf hi).trans hy, hkept⟩

/-- The status of a row overturns nothing. -/
theorem not_overturns (h : TransactionsStay start db) {t : Transaction}
    (ht : db.transactions.find? id = some t) : ¬ OverturnsTransaction start id t.status := by
  rintro ⟨x, hx, hr, hover⟩
  obtain ⟨y, hy, hok⟩ := h id x hx hr
  obtain rfl := Option.some.inj (ht.symm.trans hy)
  exact hok hover

/-- So an unpaid row was not received at `start`, and nothing overturns it. -/
theorem not_overturns_of_unpaid (h : TransactionsStay start db) {t : Transaction}
    (ht : db.transactions.find? id = some t) (hunpaid : t.status.isUnpaid) (status : PaymentStatus) :
    ¬ OverturnsTransaction start id status := by
  rintro ⟨x, hx, hr, -⟩
  exact h.not_overturns ht ⟨x, hx, hr, Or.inl hunpaid⟩

theorem applyStatus (h : TransactionsStay start db) {t : Transaction}
    (ht : db.transactions.find? id = some t) {status : PaymentStatus}
    (hok : ¬ OverturnsTransaction start id status) (providerStatus : String)
    (paidAt : Option DateTime) (nextAction : Option (Option Json)) (now : DateTime) (rideId : UUID) :
    TransactionsStay start (db.applyStatus status providerStatus paidAt nextAction now id rideId) :=
  (h.update ht (fun t => t.marked status providerStatus paidAt nextAction) (fun _ => rfl) hok).congr
    (transactions_recordSome _ _ _)

/-- Collected cash overturns nothing. -/
theorem collect (h : TransactionsStay start db) {t : Transaction}
    (ht : db.transactions.find? id = some t) (collectedBy : UUID) (amount : Decimal) (now : DateTime) :
    TransactionsStay start (db.updateTransaction id (.collect collectedBy amount now)) := by
  refine h.update ht (.collect collectedBy amount now) (fun _ => rfl) ?_
  rintro ⟨x, -, -, hunpaid | ⟨-, hstatus⟩⟩
  · cases hunpaid
  · cases hstatus

end TransactionsStay

theorem find?_of_transactionsOf {rideId : UUID} {t : Transaction}
    (h : db.transactionsOf rideId = [t]) :
    db.transactions.find? t.id = some t ∧ t.rideId = rideId := by
  have hmem : t ∈ db.transactionsOf rideId := by simp [h]
  obtain ⟨ht, hi⟩ := List.mem_filter.mp hmem
  exact ⟨Table.find?_key_of_mem ht, by simpa using hi⟩

theorem isUnpaid_of_retry {t : Transaction} (h : t.status = .failed ∨ t.status = .cancelled) :
    t.status.isUnpaid := by
  rcases h with h | h <;> rw [h] <;> rfl

theorem isUnpaid_of_isPending {status : PaymentStatus} (h : status.isPending) : status.isUnpaid := by
  cases status <;> first | rfl | cases h

theorem stay_confirmed {rideId collectedBy : UUID} {amount : Decimal} {now : DateTime}
    (h : TransactionsStay start db) (hc : Confirmed db rideId collectedBy amount now db') :
    TransactionsStay start db' := by
  obtain ⟨ride, -, -, -, existing, hsome, -, t, db₁, htarget, rfl⟩ := hc
  refine TransactionsStay.congr ?_ (transactions_recordSome _ _ _)
  rcases htarget with ⟨rfl, rfl⟩ | ⟨-, hfresh, -, -, -, -, rfl⟩
  · exact h.collect (find?_of_transactionsOf (hsome t rfl)).1 _ _ _
  · exact (h.insert t).collect (Table.find?_insert_self hfresh.id) _ _ _

theorem stay_prepared {rideId : UUID} (h : TransactionsStay start db)
    (hp : Prepared ask db rideId db') : TransactionsStay start db' := by
  cases hp with
  | same => exact h
  | cash => exact h.insert _
  | digital => exact h.insert _
  | fallback hrows hstatus =>
    have ht := (find?_of_transactionsOf hrows).1
    exact h.update ht Transaction.payInCash (fun _ => rfl)
      (h.not_overturns_of_unpaid ht (isUnpaid_of_retry hstatus) _)
  | @again t intentId key method status providerStatus nextAction hrows hretry =>
    have ht := (find?_of_transactionsOf hrows).1
    unfold canRetry at hretry
    have hstatus := (of_decide_eq_true hretry).2
    exact h.update ht (.collectAgain intentId key method status providerStatus nextAction)
      (fun _ => rfl) (h.not_overturns_of_unpaid ht (isUnpaid_of_retry hstatus) _)

/-- The sweep reads only rows that are pending. -/
theorem ensures_sweepTransactions (b : SweepBounds) (now : DateTime) (report : ReconciliationReport) :
    Ensures ask (TransactionsStay start) (reconcileStaleTransactions b now report)
      fun _ => TransactionsStay start := by
  refine Ensures.bind (Q := fun rows db => (∀ t ∈ rows, ∀ status,
    ¬ OverturnsTransaction start t.id status) ∧ TransactionsStay start db)
    (Ensures.select fun db hdb => ⟨fun t ht status => ?_, hdb⟩) fun rows => .assuming fun hrows => ?_
  · obtain ⟨hmem, hstale⟩ := Table.mem_of_mem_page ht
    simp only [decide_eq_true_eq] at hstale
    exact hdb.not_overturns_of_unpaid (Table.find?_key_of_mem hmem)
      (isUnpaid_of_isPending hstale.2.1) status
  · refine Ensures.foldlM _ fun report t ht base db hdb a ha => ?_
    rcases ensures_reconcileStaleTransaction t now report base db rfl a ha with
      h | ⟨intent, status, x, -, -, -, hx, h⟩
    · rw [h]
      exact hdb
    · rw [h]
      exact hdb.applyStatus hx (hrows t ht status) _ _ _ _ _

theorem keptByTopups_stay (start : PaymentDb) : KeptByTopups (TransactionsStay start) where
  toKept := .of_sameBusiness fun _ _ hs h => h.congr hs.transactions
  topups _ _ h := h
  credit t now ask base db hb hc := by
    rw [exec_record]
    exact ⟨hb, fun _ _ => hc.congr (transactions_record _ _ _)⟩

/-- A callback that overturns nothing. -/
theorem stay_webhook (h : TransactionsStay start db) (call : WebhookCall)
    (hnot : ¬ CallbackOverturns start db call) :
    TransactionsStay start ((applyDiddipayWebhook call).run ask db).2 := by
  refine run_webhook h (fun _ h => h) (fun _ => h) (keptByTopups_stay start).mark ?_
  intro event data intentId r db' henv hnew hpayout hintent heffect
  cases heffect with
  | ride hrows hstatus hmatch =>
    have hkept : TransactionsStay start (db.recordEvent event) := h
    refine hkept.applyStatus (find?_of_transactionsWith hrows).1 (fun hover => hnot ?_) _ _ _ _ _
    exact ⟨data, event, intentId, _, henv, hnew, hpayout, hintent, hstatus,
      Or.inl ⟨_, hrows, hmatch, hover⟩⟩
  | topup => exact h.congr (transactions_credit _ _ _)

/-- A step that overturns nothing keeps what is received in transactions. -/
theorem stay_after (h : TransactionsStay start db) {c : Call} (hnot : ¬ Overturns start c db) :
    TransactionsStay start (c.after db) := by
  cases c with
  | rides t => exact h
  | request op hop ask =>
    by_cases ht : op.touchesTransactions = false
    · exact ((keptByTopups_stay start).op hop ht).run ask h
    cases op with
    | confirmCash rideId amount collectedBy id now =>
      rw [Call.after_request, Op.action,
        @run_ignore sig _ ask (confirmCash rideId amount collectedBy id now) db]
      rcases Ensures.run_cases (atomic_confirmCash rideId amount collectedBy id now)
        (ensures_confirmCash rideId amount collectedBy id now) with hrun | ⟨_, -, hrun⟩
      · rwa [hrun]
      · exact stay_confirmed h hrun
    | prepare r =>
      rw [Call.after_request, Op.action, @run_ignore sig _ ask (preparePayment r) db]
      rcases Ensures.run_cases (atomic_preparePayment r) (ensures_preparePayment r) with
        hrun | ⟨_, -, hrun⟩
      · rwa [hrun]
      · exact stay_prepared h hrun
    | webhook call =>
      rw [Call.after_webhook]
      cases hbody : ask .callback with
      | error e => exact h
      | ok body => exact stay_webhook h _ fun hover => hnot ⟨body, hbody, hover⟩
    | sweep b now =>
      rw [Call.after_request, Op.action, @run_ignore sig _ ask (reconcilePending b now) db]
      refine Ensures.run (P := TransactionsStay start) (I := TransactionsStay start)
        (atomic_reconcilePending b now) ?_ h h
      exact (ensures_sweepTransactions b now {}).bind fun r => .of_keeps ask <|
        Keeps.bind (routine_keeps.reconcileStaleTopups (keptByTopups_stay start).applyTopupStatus b
          now r) fun r' => routine_keeps.reconcileStaleWithdrawals (keptByTopups_stay start).mark b now r'
    | reconcileTransaction rideId now =>
      rw [Call.after_request, Op.action, @run_ignore sig _ ask (reconcileTransaction rideId now) db]
      rcases Ensures.run_cases (atomic_reconcileTransaction rideId now)
        (ensures_reconcileTransaction rideId now) with hrun | ⟨_, -, t, hrows, hrun⟩
      · rwa [hrun]
      · rcases hrun with hrun | ⟨intent, status, x, hans, hmatch, hstatus, hx, hrun⟩
        · rwa [hrun]
        · rw [hrun]
          refine h.applyStatus hx (fun hover => hnot ?_) _ _ _ _ _
          exact ⟨t, status, hrows, ⟨intent, hans, hmatch, hstatus⟩, hover⟩
    | _ => exact absurd rfl ht

/-! ## Top-ups -/

/-- A top-up that has succeeded at `start` still has. -/
def TopupsStay (start db : PaymentDb) : Prop :=
  ∀ id t, start.topups.find? id = some t → t.status = .succeeded →
    ∃ t', db.topups.find? id = some t' ∧ t'.status = .succeeded

namespace TopupsStay

theorem congr (h : TopupsStay start db) (ht : db'.topups = db.topups) : TopupsStay start db' := by
  unfold TopupsStay
  rw [ht]
  exact h

theorem insert (h : TopupsStay start db) (t : DriverTopup) (now : DateTime) :
    TopupsStay start ((db.insertTopup t).credit t now) := by
  refine congr (fun id x hx hs => ?_) (topups_credit _ _ _)
  obtain ⟨y, hy, hs'⟩ := h id x hx hs
  exact ⟨y, Table.find?_insert_of_some t hy, hs'⟩

/-- A status that overturns nothing is applied. -/
theorem mark (h : TopupsStay start db) {status : PaymentStatus} (hok : ¬ OverturnsTopup start id status)
    (providerStatus : String) (paidAt : Option DateTime) (nextAction : Option (Option Json))
    (x : DriverTopup) (now : DateTime) :
    TopupsStay start ((db.markTopup id (topupStatusFromPaymentStatus status) providerStatus paidAt
      nextAction).credit x now) := by
  refine congr (fun i t ht hs => ?_) (topups_credit _ _ _)
  obtain ⟨y, hy, hs'⟩ := h i t ht hs
  rw [find?_markTopup, hy]
  by_cases hi : i = id
  · rw [if_pos hi]
    refine ⟨_, rfl, ?_⟩
    by_contra hne
    exact hok ⟨t, hi ▸ ht, hs, hne⟩
  · rw [if_neg hi]
    exact ⟨y, rfl, hs'⟩

/-- A pending row had not succeeded at `start`, and nothing overturns it. -/
theorem not_overturns_of_pending (h : TopupsStay start db) {t : DriverTopup}
    (ht : db.topups.find? id = some t) (hp : t.status.isPending) (status : PaymentStatus) :
    ¬ OverturnsTopup start id status := by
  rintro ⟨x, hx, hs, -⟩
  obtain ⟨y, hy, hs'⟩ := h id x hx hs
  obtain rfl := Option.some.inj (ht.symm.trans hy)
  rw [hs'] at hp
  cases hp

end TopupsStay

theorem keptByRides_stay (start : PaymentDb) : KeptByRides (TopupsStay start) :=
  keptByRides_topups fun _ _ ht _ h => h.congr ht

theorem ensures_sweepTopups_stay (b : SweepBounds) (now : DateTime) (report : ReconciliationReport) :
    Ensures ask (TopupsStay start) (reconcileStaleTopups b now report)
      fun _ => TopupsStay start := by
  refine Ensures.bind (Q := fun rows db => (∀ t ∈ rows, ∀ status,
    ¬ OverturnsTopup start t.id status) ∧ TopupsStay start db)
    (Ensures.select fun db hdb => ⟨fun t ht status => ?_, hdb⟩) fun rows => .assuming fun hrows => ?_
  · obtain ⟨hmem, hstale⟩ := Table.mem_of_mem_page ht
    simp only [decide_eq_true_eq] at hstale
    exact hdb.not_overturns_of_pending (Table.find?_key_of_mem hmem) hstale.2.1 status
  · refine Ensures.foldlM _ fun report t ht base db hdb a ha => ?_
    rcases ensures_reconcileStaleTopup t now report base db rfl a ha with
      h | ⟨intent, status, x, -, -, -, hx, h⟩
    · rw [h]
      exact hdb
    · rw [h]
      exact hdb.mark (hrows t ht status) _ _ _ _ _

theorem topupsStay_webhook (h : TopupsStay start db) (call : WebhookCall)
    (hnot : ¬ CallbackOverturns start db call) :
    TopupsStay start ((applyDiddipayWebhook call).run ask db).2 := by
  refine run_webhook h (fun _ h => h) (fun _ => h) (keptByRides_stay start).mark ?_
  intro event data intentId r db' henv hnew hpayout hintent heffect
  cases heffect with
  | ride => exact h.congr (topups_applyStatus _ _ _ _ _ _ _ _)
  | topup hnone hrows hstatus hmatch =>
    have hkept : TopupsStay start (db.recordEvent event) := h
    refine hkept.mark (fun hover => hnot ?_) _ _ _ _ _
    exact ⟨data, event, intentId, _, henv, hnew, hpayout, hintent, hstatus,
      Or.inr ⟨_, hnone, hrows, hmatch, hover⟩⟩

/-- A step that overturns nothing keeps succeeded top-ups. -/
theorem topupsStay_after (h : TopupsStay start db) {c : Call} (hnot : ¬ Overturns start c db) :
    TopupsStay start (c.after db) := by
  cases c with
  | rides t => exact h
  | request op hop ask =>
    by_cases ht : op.touchesTopups = false
    · exact ((keptByRides_stay start).op hop ht).run ask h
    cases op with
    | topup r =>
      rw [Call.after_request, Op.action, @run_ignore sig _ ask (createTopup r) db]
      rcases Ensures.run_cases (atomic_createTopup r) (ensures_createTopup r) with
        hrun | ⟨t, -, -, -, -, hrun⟩
      · rwa [hrun]
      · rw [hrun]
        exact h.insert t r.now
    | webhook call =>
      rw [Call.after_webhook]
      cases hbody : ask .callback with
      | error e => exact h
      | ok body => exact topupsStay_webhook h _ fun hover => hnot ⟨body, hbody, hover⟩
    | sweep b now =>
      rw [Call.after_request, Op.action, @run_ignore sig _ ask (reconcilePending b now) db]
      refine Ensures.run (P := TopupsStay start) (I := TopupsStay start)
        (atomic_reconcilePending b now) ?_ h h
      exact (Ensures.of_keeps ask (routine_keeps.reconcileStaleTransactions
          (keptByRides_stay start).applyTransactionStatus b now {})).bind fun r =>
        (ensures_sweepTopups_stay b now r).bind fun r' => .of_keeps ask <|
          routine_keeps.reconcileStaleWithdrawals (keptByRides_stay start).mark b now r'
    | reconcileTopup i now =>
      rw [Call.after_request, Op.action, @run_ignore sig _ ask (reconcileTopup i now) db]
      rcases Ensures.run_cases (atomic_reconcileTopup i now) (ensures_reconcileTopup i now) with
        hrun | ⟨_, -, t, hrow, hrun⟩
      · rwa [hrun]
      · rcases hrun with hrun | ⟨intent, status, x, hans, hmatch, hstatus, hx, hrun⟩
        · rwa [hrun]
        · have hid : t.id = i := Table.key_of_find? hrow
          rw [hrun]
          refine h.mark (fun hover => hnot ?_) _ _ _ _ _
          exact ⟨t, status, hrow, ⟨intent, hans, hmatch, hstatus⟩, hid ▸ hover⟩
    | _ => exact absurd rfl ht

/-! ## What overturns received money -/

theorem find?_applyStatus {t : Transaction} (ht : db.transactions.find? id = some t)
    (status : PaymentStatus) (providerStatus : String) (paidAt : Option DateTime)
    (nextAction : Option (Option Json)) (now : DateTime) (rideId : UUID) :
    (db.applyStatus status providerStatus paidAt nextAction now id rideId).transactions.find? id =
      some (t.marked status providerStatus paidAt nextAction) := by
  have htable : (db.applyStatus status providerStatus paidAt nextAction now id rideId).transactions =
      (db.updateTransaction id fun t => t.marked status providerStatus paidAt nextAction).transactions :=
    transactions_recordSome _ _ _
  rw [htable]
  exact Table.find?_update_self (fun t : Transaction => t.marked status providerStatus paidAt nextAction)
    (fun _ => rfl) ht

/-- A status that overturns a transaction is applied to it. -/
theorem not_stay_applyStatus {t : Transaction} (ht : db.transactions.find? id = some t)
    {status : PaymentStatus} (hover : OverturnsTransaction start id status) (providerStatus : String)
    (paidAt : Option DateTime) (nextAction : Option (Option Json)) (now : DateTime) (rideId : UUID) :
    ¬ TransactionsStay start
      (db.applyStatus status providerStatus paidAt nextAction now id rideId) :=
  fun h => h.not_overturns (find?_applyStatus ht _ _ _ _ _ _) hover

/-- A status that overturns a top-up is applied to it. -/
theorem not_stay_markTopup {t : DriverTopup} (ht : db.topups.find? id = some t)
    {status : PaymentStatus} (hover : OverturnsTopup start id status) (providerStatus : String)
    (paidAt : Option DateTime) (nextAction : Option (Option Json)) (x : DriverTopup) (now : DateTime) :
    ¬ TopupsStay start ((db.markTopup id (topupStatusFromPaymentStatus status) providerStatus paidAt
      nextAction).credit x now) := by
  intro h
  obtain ⟨y, hy, hs, hne⟩ := hover
  obtain ⟨z, hz, hs'⟩ := h id y hy hs
  rw [topups_credit, find?_markTopup, if_pos rfl, ht] at hz
  obtain rfl := Option.some.inj hz
  exact hne hs'

theorem StaysReceived.iff : StaysReceived start db ↔ TransactionsStay start db ∧ TopupsStay start db :=
  ⟨fun h => ⟨h.transactions, h.topups⟩, fun h => ⟨h.1, h.2⟩⟩

theorem not_stays_of_callback {call : WebhookCall} (h : CallbackOverturns start db call) :
    ¬ StaysReceived start ((applyDiddipayWebhook call).run ask db).2 := by
  rw [StaysReceived.iff]
  obtain ⟨data, event, intentId, status, henv, hnew, hpayout, hintent, hstatus, hrow⟩ := h
  rcases hrow with ⟨t, hrows, hmatch, hover⟩ | ⟨t, hnone, hrows, hmatch, hover⟩
  · have heffect : CallbackEffect (db.recordEvent event) data intentId call.now _ _ :=
      .ride hrows hstatus hmatch
    rw [(returns_applyDiddipayWebhook henv hnew hpayout hintent heffect).run]
    have ht : (db.recordEvent event).transactions.find? t.id = some t :=
      (find?_of_transactionsWith hrows).1
    exact fun h => not_stay_applyStatus ht hover _ _ _ _ _ h.1
  · have heffect : CallbackEffect (db.recordEvent event) data intentId call.now _ _ :=
      .topup hnone hrows hstatus hmatch
    rw [(returns_applyDiddipayWebhook henv hnew hpayout hintent heffect).run]
    have ht : (db.recordEvent event).topups.find? t.id = some t := (find?_of_topupsWith hrows).1
    exact fun h => not_stay_markTopup ht hover _ _ _ _ _ h.2

theorem ne_none_of_answers {intentId : Option UUID} {intent : Json}
    (h : Answers ask intentId intent) : intentId ≠ none := by
  obtain ⟨id, rfl, -⟩ := h
  simp

/-- A step that overturns received money. -/
theorem not_stays_after (h : StaysReceived start db) {c : Call} (hover : Overturns start c db) :
    ¬ StaysReceived start (c.after db) := by
  cases c with
  | rides t => exact hover.elim
  | request op hop ask =>
    cases op with
    | webhook call =>
      obtain ⟨body, hbody, hover⟩ := hover
      rw [Call.after_webhook, hbody]
      exact not_stays_of_callback hover
    | reconcileTransaction rideId now =>
      obtain ⟨t, status, hrows, ⟨intent, hans, hmatch, hstatus⟩, hover⟩ := hover
      have ht := (find?_of_transactionsOf hrows).1
      have hchanged : ¬ (status = t.status ∧ nextActionFromIntent intent = t.providerNextAction) := by
        rintro ⟨rfl, -⟩
        exact TransactionsStay.not_overturns h.transactions ht hover
      rw [Call.after_request, Op.action, @run_ignore sig _ ask (reconcileTransaction rideId now) db,
        (returns_reconcileTransaction hrows (ne_none_of_answers hans)
          (returns_reconcileUpdated hans hmatch hstatus hchanged ht now {})).run]
      exact fun h => not_stay_applyStatus ht hover _ _ _ _ _ h.transactions
    | reconcileTopup id now =>
      obtain ⟨t, status, ht, ⟨intent, hans, hmatch, hstatus⟩, hover⟩ := hover
      have hid : t.id = id := Table.key_of_find? ht
      have hchanged : ¬ (topupStatusFromPaymentStatus status = t.status ∧
          nextActionFromIntent intent = t.providerNextAction) := by
        rintro ⟨hsame, -⟩
        obtain ⟨y, hy, hs, hne⟩ := hover
        obtain ⟨z, hz, hs'⟩ := h.topups id y hy hs
        obtain rfl := Option.some.inj (ht.symm.trans hz)
        exact hne (hsame.trans hs')
      have ht' : db.topups.find? t.id = some t := hid.symm ▸ ht
      rw [Call.after_request, Op.action, @run_ignore sig _ ask (reconcileTopup id now) db,
        (returns_reconcileTopup ht (ne_none_of_answers hans)
          (returns_reconcileTopupUpdated hans hmatch hstatus hchanged ht' now {})).run]
      exact fun h => not_stay_markTopup ht' (hid.symm ▸ hover) _ _ _ _ _ h.topups
    | _ => exact hover.elim

/-! ## Histories -/

theorem StaysReceived.refl (db : PaymentDb) : StaysReceived db db where
  transactions id t ht hr := by
    refine ⟨t, ht, ?_⟩
    rintro (hunpaid | ⟨⟨-, hcollected⟩, hsucceeded⟩)
    · rcases hr with hr | hr <;> rw [hr] at hunpaid <;> cases hunpaid
    · rw [hcollected] at hsucceeded
      cases hsucceeded
  topups id t ht hs := ⟨t, ht, hs⟩

/-- What is received at `start` stays received exactly as long as no step overturns it. -/
theorem staysReceived_states (cs : List Call) (h : StaysReceived start db) :
    (∀ s ∈ statesOf cs db, StaysReceived start s) ↔
      EveryStep (fun c s => ¬ Overturns start c s) cs db := by
  induction cs generalizing db with
  | nil =>
    refine ⟨fun _ => trivial, fun _ s hs => ?_⟩
    rw [List.mem_singleton.mp hs]
    exact h
  | cons c cs ih =>
    have hstate : c.after db ∈ statesOf cs (c.after db) := by
      cases cs <;> simp [statesOf]
    constructor
    · intro hall
      have hnext : StaysReceived start (c.after db) := hall _ (List.mem_cons_of_mem _ hstate)
      exact ⟨fun hover => not_stays_after h hover hnext,
        (ih hnext).mp fun s hs => hall s (List.mem_cons_of_mem _ hs)⟩
    · rintro ⟨hnot, hrest⟩ s hs
      have hnext : StaysReceived start (c.after db) :=
        StaysReceived.iff.mpr ⟨stay_after h.transactions hnot, topupsStay_after h.topups hnot⟩
      rcases List.mem_cons.mp hs with rfl | hs
      · exact h
      · exact (ih hnext).mpr hrest s hs

/-- Received money is final throughout a history, from each state to every later one, exactly if no
callback and no reconciliation by an administrator overturns what was received before. -/
theorem received_final_iff (cs : List Call) (db : PaymentDb) :
    (statesOf cs db).Pairwise StaysReceived ↔ NeverOverturns cs db := by
  induction cs generalizing db with
  | nil => simp [statesOf, NeverOverturns]
  | cons c cs ih =>
    have hstates := staysReceived_states (c :: cs) (.refl db)
    rw [statesOf, List.forall_mem_cons] at hstates
    rw [statesOf, List.pairwise_cons, ih, NeverOverturns, ← hstates]
    constructor
    · intro h
      exact ⟨⟨.refl db, h.1⟩, h.2⟩
    · intro h
      exact ⟨h.1.2, h.2⟩

/-- A completed ride paid through DiddiPay. -/
def paidRide : Rides.Ride where
  id := 1
  passengerUserId := 2
  status := .completed
  finalFare := some 1000
  platformCommission := some 180
  driverPayoutEstimate := some 820
  paymentMethod := .mobileMoney
  driverId := some 4

/-- A database with that ride. -/
def paidRideDb : PaymentDb := { rides := Table.empty.insert paidRide }

/-- The payment of the ride is prepared; DiddiPay creates the payment intent 5 with the status. -/
def preparation (status : String) : Call :=
  .request (.prepare { rideId := 1, method := "mobile_money", payerUserId := 2
                       customerEmail := some "c", mobileMoneyNetwork := some "wave"
                       returnContexts := false, transactionId := 3, now := 1 }) rfl
    fun _ => .ok (.ofMembers [("id", .str "5"), ("status", .str status)])

/-- A callback about that payment intent. -/
def rideCallback (eventId status : String) : Call :=
  .callback { secretConfigured := true, signatureValid := true, body := none, eventIdHeader := some eventId, now := 2 }
    fun _ =>
    .ok (.ofMembers [("id", .str eventId), ("data", .ofMembers [("payment_intent_id", .str "5"),
      ("status", .str status), ("amount", .int 1000), ("currency", .str "XOF"),
      ("business_reference", .str "diddigo:ride:1")])])

/-- The payment succeeds, and then a callback says that it has failed. -/
def lateFailure : List Call :=
  [preparation "processing", rideCallback "e1" "succeeded", rideCallback "e2" "failed"]

theorem lateFailure_overturns : ¬ (statesOf lateFailure paidRideDb).Pairwise StaysReceived := by
  intro h
  have hlast := (List.pairwise_cons.mp (List.pairwise_cons.mp (List.pairwise_cons.mp h).2).2).1 _
    (List.mem_singleton.mpr rfl)
  obtain ⟨t', ht', hok⟩ := hlast.transactions 3 _ rfl (Or.inl rfl)
  obtain rfl := Option.some.inj ht'
  exact hok (Or.inl rfl)

end DiddiGo.Payments
