import DiddiGo.Payments.Proofs.StatusProofs

/-!
# Credits of top-ups

A top-up is credited when its status first becomes succeeded, and never again, whatever happens to its
status afterwards.
-/

namespace DiddiGo.Payments

open Data (Json Keyed Table)
open Transactions Prog

variable {db db' : PaymentDb} {id : UUID} {t x : DriverTopup}

/-! ## Single changes -/

section Changes

variable (status : TopupStatus) (providerStatus : String) (paidAt : Option DateTime)
  (nextAction : Option (Option Json)) (now : DateTime)

theorem ledgerKey_topupEntry (t : DriverTopup) : (topupEntry t now).ledgerKey = t.creditKey := rfl

theorem creditKey_marked (t : DriverTopup) :
    (t.marked status providerStatus paidAt nextAction).creditKey = t.creditKey := rfl

theorem find?_markTopup (id i : UUID) :
    (db.markTopup id status providerStatus paidAt nextAction).topups.find? i =
      if i = id then
        (db.topups.find? i).map (·.marked status providerStatus paidAt nextAction)
      else db.topups.find? i := by
  unfold PaymentDb.markTopup
  rw [Table.find?_update]

theorem find?_insertTopup (hfree : db.topups.find? t.id = none) (i : UUID) :
    (db.insertTopup t).topups.find? i = if i = t.id then some t else db.topups.find? i := by
  have h : (db.insertTopup t).topups.find? i =
      (db.topups.find? i).or (if t.id = i then some t else none) := Table.find?_insert _ _ _
  rw [h]
  by_cases hi : i = t.id
  · rw [if_pos hi, if_pos hi.symm, hi, hfree, Option.none_or]
  · rw [if_neg hi, if_neg fun h => hi h.symm, Option.or_none]

theorem find?_credit (t : DriverTopup) (k : LedgerKey) : (db.credit t now).ledger.find? k =
    (db.ledger.find? k).or
      (if t.status = .succeeded ∧ t.creditKey = k then some (topupEntry t now) else none) := by
  unfold PaymentDb.credit
  by_cases hs : t.status = .succeeded
  · rw [if_pos hs, find?_record, ledgerKey_topupEntry]
    simp [hs]
  · rw [if_neg hs, if_neg fun h => hs h.1, Option.or_none]

end Changes

/-! ## The books of top-ups -/

namespace TopupBooks

theorem congr (h : TopupBooks db) (ht : db'.topups = db.topups)
    (hl : ∀ k : LedgerKey, k.entryType = .topup → db'.ledger.find? k = db.ledger.find? k) :
    TopupBooks db' where
  owned k e he htype := by
    have hk : k.entryType = .topup := by rw [← Table.key_of_find? he]; exact htype
    rw [hl k hk] at he
    rw [ht]
    exact h.owned k e he htype
  credited id t hid hs := by
    rw [hl _ rfl]
    rw [ht] at hid
    exact h.credited id t hid hs

theorem of_sameBusiness (h : TopupBooks db) (hs : SameBusiness db db') : TopupBooks db' :=
  h.congr hs.topups fun k hk => hs.ledger k (by rw [hk]; rfl)

/-- The row of a top-up is written, and the top-up is credited if it has succeeded. -/
theorem write (h : TopupBooks db) {db₁ : PaymentDb} (now : DateTime)
    (hl : db₁.ledger = db.ledger)
    (hfind : ∀ i, db₁.topups.find? i = if i = t.id then some t else db.topups.find? i)
    (hold : ∀ x, db.topups.find? t.id = some x → x.creditKey = t.creditKey ∧ x.amount = t.amount) :
    TopupBooks (db₁.credit t now) where
  owned k e he htype := by
    rw [find?_credit, hl] at he
    rw [topups_credit, hfind]
    cases hk : db.ledger.find? k with
    | some e' =>
      rw [hk, Option.some_or] at he
      obtain rfl := Option.some.inj he
      obtain ⟨x, hx, hc⟩ := h.owned k e' hk htype
      by_cases hid : e'.referenceId = t.id
      · rw [hid] at hx
        obtain ⟨hkey, hamount⟩ := hold x hx
        rw [if_pos hid]
        exact ⟨t, rfl, hc.key.trans hkey, hc.amount.trans hamount, hc.direction, hc.status⟩
      · rw [if_neg hid]
        exact ⟨x, hx, hc⟩
    | none =>
      rw [hk, Option.none_or] at he
      split_ifs at he with hs
      obtain rfl := Option.some.inj he
      exact ⟨t, if_pos rfl, rfl, rfl, rfl, rfl⟩
  credited id x hx hs := by
    rw [topups_credit, hfind] at hx
    rw [find?_credit, hl]
    split_ifs at hx with hid
    · obtain rfl := Option.some.inj hx
      rw [if_pos ⟨hs, rfl⟩]
      cases db.ledger.find? t.creditKey <;> rfl
    · obtain ⟨e, he⟩ := Option.isSome_iff_exists.mp (h.credited id x hx hs)
      rw [he]
      rfl

theorem mark (h : TopupBooks db) (hx : db.topups.find? id = some x) (status : TopupStatus)
    (providerStatus : String) (paidAt : Option DateTime) (nextAction : Option (Option Json))
    (now : DateTime) :
    TopupBooks ((db.markTopup id status providerStatus paidAt nextAction).credit
      (x.marked status providerStatus paidAt nextAction) now) := by
  have hid : (x.marked status providerStatus paidAt nextAction).id = id := Table.key_of_find? hx
  refine h.write now rfl (fun i => ?_) fun y hy => ?_
  · rw [find?_markTopup]
    by_cases hi : i = id
    · rw [if_pos hi, if_pos (hi.trans hid.symm), hi, hx]
      rfl
    · rw [if_neg hi, if_neg fun h => hi (h.trans hid)]
  · have hy' : db.topups.find? id = some y := hid ▸ hy
    obtain rfl : x = y := Option.some.inj (hx.symm.trans hy')
    exact ⟨rfl, rfl⟩

theorem insert (h : TopupBooks db) (hfree : db.topups.find? t.id = none) (now : DateTime) :
    TopupBooks ((db.insertTopup t).credit t now) :=
  h.write now rfl (find?_insertTopup hfree) fun x hx => by rw [hfree] at hx; cases hx

end TopupBooks

/-- An entry about a ride does not touch the entries of top-ups. -/
theorem find?_record_settlement {ride : Rides.Ride} {status : PaymentStatus} {now now' : DateTime}
    {e : DriverLedgerEntry} (he : settlementEntry ride status now = some e) {k : LedgerKey}
    (hk : k.entryType = .topup) : (db.record e now').ledger.find? k = db.ledger.find? k := by
  rw [find?_record, if_neg, Option.or_none]
  intro h
  have htype : e.entryType = .topup := (congrArg LedgerKey.entryType h).trans hk
  unfold settlementEntry at he
  split at he
  · split_ifs at he
    · obtain rfl := Option.some.inj he
      cases htype
    · obtain rfl := Option.some.inj he
      cases htype
  · cases he

theorem find?_applyStatus_of_topup (db : PaymentDb) (status : PaymentStatus) (providerStatus : String)
    (paidAt : Option DateTime) (nextAction : Option (Option Json)) (now : DateTime)
    (id rideId : UUID) {k : LedgerKey} (hk : k.entryType = .topup) :
    (db.applyStatus status providerStatus paidAt nextAction now id rideId).ledger.find? k =
      db.ledger.find? k := by
  unfold PaymentDb.applyStatus PaymentDb.settle
  cases he : ((db.updateTransaction id fun t =>
      t.marked status providerStatus paidAt nextAction).rides.find? rideId).bind
      fun ride => settlementEntry ride status now with
  | none => rfl
  | some e =>
    obtain ⟨ride, -, he⟩ := Option.bind_eq_some_iff.mp he
    exact find?_record_settlement he hk

/-- What the top-ups and their entries determine survives what requests do for rides. -/
theorem keptByRides_topups {I : PaymentDb → Prop}
    (h : ∀ db db' : PaymentDb, db'.topups = db.topups →
      (∀ k : LedgerKey, k.entryType = .topup → db'.ledger.find? k = db.ledger.find? k) →
      I db → I db') : KeptByRides I where
  toKept := .of_sameBusiness fun db db' hs =>
    h db db' hs.topups fun k hk => hs.ledger k (by rw [hk]; rfl)
  rides db t := h db _ rfl fun _ _ => rfl
  transactions db t := h db _ rfl fun _ _ => rfl
  settle ride status now e he ask base db hb hc := by
    rw [exec_record]
    exact ⟨hb, fun _ _ => h db _ (topups_record _ _ _) (fun k hk => find?_record_settlement he hk) hc⟩

/-! ## What every request keeps -/

section Requests

variable {I : PaymentDb → Prop}

/-- An invariant that survives new top-ups and provider statuses survives every request. -/
theorem KeptByRides.throughout (h : KeptByRides I)
    (hinsert : ∀ (db : PaymentDb) t now, I db → db.topups.find? t.id = none →
      I ((db.insertTopup t).credit t now))
    (hmark : ∀ (db : PaymentDb) id x status providerStatus paidAt nextAction now, I db →
      db.topups.find? id = some x →
      I ((db.markTopup id status providerStatus paidAt nextAction).credit
        (x.marked status providerStatus paidAt nextAction) now)) : KeptThroughout I where
  toKept := h.toKept
  rides := h.rides
  confirmCash := h.confirmCash
  preparePayment := h.preparePayment
  applyTransactionStatus := h.applyTransactionStatus
  createTopup r := by
    refine Ensures.keeps (atomic_createTopup r) fun ask base db hdb t ht => ?_
    obtain ⟨-, -, hfree, h'⟩ := ensures_createTopup r base db rfl t ht
    rw [h']
    exact hinsert db t r.now hdb hfree
  applyTopupStatus t status providerStatus paidAt nextAction now ask base db hb hc := by
    rw [exec_applyTopupStatus]
    cases hx : db.topups.find? t.id with
    | none => exact ⟨hb, by simp⟩
    | some x => exact ⟨hb, fun _ _ => hmark db t.id x _ _ _ _ _ hc hx⟩

/-- The books of top-ups stay in order. -/
theorem kept_topupBooks : KeptThroughout TopupBooks :=
  (keptByRides_topups fun _ _ ht hl h => h.congr ht hl).throughout
    (fun _ _ now h hfree => h.insert hfree now)
    fun _ _ _ _ _ _ _ now h hx => h.mark hx _ _ _ _ now

theorem credited_congr (ht : db'.topups = db.topups)
    (hl : ∀ k : LedgerKey, k.entryType = .topup → db'.ledger.find? k = db.ledger.find? k) :
    Credited id db' ↔ Credited id db := by
  unfold Credited
  rw [ht]
  refine exists_congr fun t => and_congr_right fun _ => ?_
  rw [hl _ rfl]

/-- Writing a row and crediting it leaves older credits in place. -/
theorem credited_write (h : Credited id db) {db₁ : PaymentDb} (now : DateTime)
    (hl : db₁.ledger = db.ledger)
    (hold : ∀ x, db.topups.find? id = some x →
      ∃ x', db₁.topups.find? id = some x' ∧ x'.creditKey = x.creditKey) :
    Credited id (db₁.credit t now) := by
  obtain ⟨x, hx, hk⟩ := h
  obtain ⟨x', hx', hkey⟩ := hold x hx
  refine ⟨x', by rw [topups_credit]; exact hx', ?_⟩
  obtain ⟨e, he⟩ := Option.isSome_iff_exists.mp hk
  rw [find?_credit, hl, hkey, he]
  rfl

/-- A credit stays. -/
theorem kept_credited (id : UUID) : KeptThroughout (Credited id) :=
  (keptByRides_topups fun _ _ ht hl h => (credited_congr ht hl).mpr h).throughout
    (fun db t now h hfree => by
      refine credited_write h now rfl fun x hx => ⟨x, ?_, rfl⟩
      rw [find?_insertTopup hfree, if_neg, hx]
      rintro rfl
      rw [hx] at hfree
      cases hfree)
    fun db i y status providerStatus paidAt nextAction now h hy => by
      refine credited_write h now rfl fun x hx => ?_
      rw [find?_markTopup, hx]
      split_ifs
      · exact ⟨_, rfl, creditKey_marked _ _ _ _ x⟩
      · exact ⟨x, rfl, rfl⟩

/-- The accounts stay balanced. -/
theorem kept_accounts (opening earnedBefore : UUID → Decimal) :
    KeptThroughout (Accounts opening earnedBefore) := by
  have hcongr : ∀ db db' : PaymentDb, db'.wallets = db.wallets → db'.ledger = db.ledger →
      db'.withdrawals = db.withdrawals → Accounts opening earnedBefore db →
      Accounts opening earnedBefore db' := fun db db' hw hl hwd h =>
    ⟨h.books.congr hwd hl, h.balanced.congr hw hl hwd⟩
  refine .of_writes ⟨fun d c ask base db hb hc => ?_, fun db _ => hcongr db _ rfl rfl rfl,
      keeps_consumeWithdrawalVerification fun db _ => hcongr db _ rfl rfl rfl,
      keeps_reserveWithdrawalFromQuote,
      keeps_markWithdrawalProviderState⟩
    (fun db _ => hcongr db _ rfl rfl rfl) (fun db _ => hcongr db _ rfl rfl rfl)
    (fun db _ => hcongr db _ rfl rfl rfl) fun e now he => keeps_recordLedgerEntryOnce now he
  rw [exec_getOrCreateWallet]
  exact ⟨hb, fun _ _ => hc.openWallet d c⟩

end Requests

/-! ## The moment of the credit -/

/-- Credited for the first time, the top-up has the status succeeded. -/
theorem credited_of_write (h : TopupBooks db) {db₁ : PaymentDb} {now : DateTime}
    (hc : Credited id (db₁.credit t now)) (hl : db₁.ledger = db.ledger)
    (hfind : ∀ i, db₁.topups.find? i = if i = t.id then some t else db.topups.find? i) :
    Credited id db ∨ id = t.id ∧ ToppedUp id (db₁.credit t now) := by
  obtain ⟨x, hx, hk⟩ := hc
  have hrow := hx
  rw [topups_credit, hfind] at hx
  rw [find?_credit, hl] at hk
  cases he : db.ledger.find? x.creditKey with
  | some e =>
    left
    obtain ⟨y, hy, hcy⟩ := h.owned _ e he (congrArg LedgerKey.entryType (Table.key_of_find? he))
    have hkey : e.ledgerKey = x.creditKey := Table.key_of_find? he
    have hid : x.id = id := Table.key_of_find? hrow
    have href : e.referenceId = id := (congrArg LedgerKey.referenceId hkey).trans hid
    rw [href] at hy
    exact ⟨y, hy, by rw [← hcy.key, hkey, he]; rfl⟩
  | none =>
    right
    rw [he, Option.none_or] at hk
    split_ifs at hk with hs
    · have hid : t.id = x.id := congrArg LedgerKey.referenceId hs.2
      have hxid : x.id = id := Table.key_of_find? hrow
      have hi : id = t.id := (hid.trans hxid).symm
      rw [if_pos hi] at hx
      exact ⟨hi, x, hrow, (Option.some.inj hx) ▸ hs.1⟩
    · cases hk

theorem credited_of_mark (h : TopupBooks db) {i : UUID} (hx : db.topups.find? i = some x)
    {status : TopupStatus} {providerStatus : String} {paidAt : Option DateTime}
    {nextAction : Option (Option Json)} {now : DateTime}
    (hdb' : db' = (db.markTopup i status providerStatus paidAt nextAction).credit
      (x.marked status providerStatus paidAt nextAction) now) (hc : Credited id db') :
    Credited id db ∨ id = i ∧ ToppedUp id db' := by
  have hid : (x.marked status providerStatus paidAt nextAction).id = i := Table.key_of_find? hx
  rw [hdb'] at hc ⊢
  have hfind : ∀ j, (db.markTopup i status providerStatus paidAt nextAction).topups.find? j =
      if j = (x.marked status providerStatus paidAt nextAction).id then
        some (x.marked status providerStatus paidAt nextAction)
      else db.topups.find? j := by
    intro j
    rw [find?_markTopup, hid]
    by_cases hj : j = i
    · rw [if_pos hj, if_pos hj, hj, hx]
      rfl
    · rw [if_neg hj, if_neg hj]
  have hcases := credited_of_write h hc rfl hfind
  rwa [hid] at hcases

/-- Nothing is credited yet, or the status is succeeded. -/
theorem credited_or_toppedUp (h : Credited id db' → Credited id db ∨ ToppedUp id db')
    (hnot : ¬ Credited id db) : ¬ Credited id db' ∨ ToppedUp id db' := by
  by_cases hc : Credited id db'
  · exact Or.inr ((h hc).resolve_left hnot)
  · exact Or.inl hc

section Steps

variable {ask : Query → Answer}

/-- What is left of the sweep does not touch the top-up once it is credited. -/
def SweptSoFar (id : UUID) (rest : List DriverTopup) (db : PaymentDb) : Prop :=
  TopupBooks db ∧ (rest.map (·.id)).Nodup ∧
    (¬ Credited id db ∨ ToppedUp id db ∧ ∀ t ∈ rest, t.id ≠ id)

theorem sweptSoFar_cons {rest : List DriverTopup} {now : DateTime}
    (h : SweptSoFar id (t :: rest) db) (hdb' : ReconciledTopup ask db t now db') :
    SweptSoFar id rest db' := by
  obtain ⟨hbooks, hnodup, hcases⟩ := h
  rw [List.map_cons, List.nodup_cons] at hnodup
  rcases hdb' with rfl | ⟨intent, status, x, -, -, -, hx, hdb'⟩
  · exact ⟨hbooks, hnodup.2, hcases.imp_right fun h => ⟨h.1, fun y hy => h.2 y (by simp [hy])⟩⟩
  refine ⟨hdb' ▸ hbooks.mark hx _ _ _ _ _, hnodup.2, ?_⟩
  rcases hcases with hnot | ⟨⟨y, hy, hs⟩, hrest⟩
  · by_cases hc : Credited id db'
    · obtain ⟨rfl, hup⟩ := (credited_of_mark hbooks hx hdb' hc).resolve_left hnot
      refine Or.inr ⟨hup, fun y hy heq => hnodup.1 ?_⟩
      exact List.mem_map.mpr ⟨y, hy, heq⟩
    · exact Or.inl hc
  · refine Or.inr ⟨⟨y, ?_, hs⟩, fun y hy => hrest y (by simp [hy])⟩
    rw [hdb', topups_credit, find?_markTopup, if_neg fun h => hrest t (by simp) h.symm, hy]

theorem ensures_sweepTopups (b : SweepBounds) (now : DateTime) (report : ReconciliationReport) :
    Ensures ask (fun db => TopupBooks db ∧ ¬ Credited id db) (reconcileStaleTopups b now report)
      fun _ db => TopupBooks db ∧ (¬ Credited id db ∨ ToppedUp id db) := by
  refine Ensures.bind (Q := fun rows => SweptSoFar id rows) (Ensures.select fun db hdb => ?_)
    fun rows => ?_
  · exact ⟨hdb.1, Table.nodup_page _ _ _ _, Or.inl hdb.2⟩
  · have hloop : Ensures ask (SweptSoFar id rows)
        (rows.foldlM (fun report topup => reconcileStaleTopup topup now report) report)
        fun _ => SweptSoFar id [] :=
      Ensures.foldlM_rest _ fun report t rest base db hdb a ha =>
        sweptSoFar_cons hdb (ensures_reconcileStaleTopup t now report base db rfl a ha)
    exact hloop.mono (fun _ h => h) fun _ db h => ⟨h.1, h.2.2.imp_right fun h => h.1⟩

/-- What the callback of DiddiPay does to a top-up that is not credited yet. -/
theorem webhook_credits (call : WebhookCall) (h : TopupBooks db) (hnot : ¬ Credited id db) :
    ¬ Credited id ((applyDiddipayWebhook call).run ask db).2 ∨
      ToppedUp id ((applyDiddipayWebhook call).run ask db).2 := by
  have hkept : KeptByRides fun db => TopupBooks db ∧ ¬ Credited id db :=
    keptByRides_topups fun _ _ ht hl h => ⟨h.1.congr ht hl, fun hc =>
      h.2 ((credited_congr ht hl).mp hc)⟩
  refine @run_webhook ask db (fun db => TopupBooks db ∧ ¬ Credited id db)
    (fun db => ¬ Credited id db ∨ ToppedUp id db) call ⟨h, hnot⟩ (fun _ h => Or.inl h.2)
    (fun _ => ⟨h.congr rfl fun _ _ => rfl, hnot⟩) hkept.mark ?_
  intro event data intentId r db' _ _ _ _ heffect
  have hbooks : TopupBooks (db.recordEvent event) := h.congr rfl fun _ _ => rfl
  cases heffect with
  | ride hrows hstatus hmatch =>
    left
    intro hc
    refine hnot ((credited_congr ?_ ?_).mp hc)
    · exact topups_recordSome _ _ _
    · intro k hk
      exact find?_applyStatus_of_topup _ _ _ _ _ _ _ _ hk
  | topup hnone hrows hstatus hmatch =>
    exact credited_or_toppedUp (fun hc =>
      (credited_of_mark hbooks (find?_of_topupsWith hrows).1 rfl hc).imp_right And.right) hnot

end Steps

/-- A step that credits a top-up leaves its status succeeded. -/
theorem after_credits (c : Call) (h : TopupBooks db) (hnot : ¬ Credited id db) :
    ¬ Credited id (c.after db) ∨ ToppedUp id (c.after db) := by
  have hkept : KeptByRides fun db => TopupBooks db ∧ ¬ Credited id db :=
    keptByRides_topups fun _ _ ht hl h => ⟨h.1.congr ht hl, fun hc =>
      h.2 ((credited_congr ht hl).mp hc)⟩
  have hsame : ¬ Credited id db ∨ ToppedUp id db := Or.inl hnot
  cases c with
  | rides t => exact Or.inl (hkept.rides db t ⟨h, hnot⟩).2
  | request op hop ask =>
    by_cases ht : op.touchesTopups = false
    · exact Or.inl ((hkept.op hop ht).run ask ⟨h, hnot⟩).2
    cases op with
    | topup r =>
      rw [Call.after_request, Op.action, @run_ignore sig _ ask (createTopup r) db]
      rcases Ensures.run_cases (atomic_createTopup r) (ensures_createTopup r) with
        hrun | ⟨t, -, -, -, hfree, hrun⟩
      · rw [hrun]
        exact hsame
      · rw [hrun]
        exact credited_or_toppedUp (fun hc =>
          (credited_of_write h hc rfl (find?_insertTopup hfree)).imp_right And.right) hnot
    | webhook call =>
      rw [Call.after_webhook]
      cases ask .callback with
      | error e => exact hsame
      | ok body => exact webhook_credits _ h hnot
    | sweep b now =>
      rw [Call.after_request, Op.action, @run_ignore sig _ ask (reconcilePending b now) db]
      have hrides : Ensures ask (fun db => TopupBooks db ∧ ¬ Credited id db)
          (reconcileStaleTransactions b now {}) fun _ db => TopupBooks db ∧ ¬ Credited id db :=
        .of_keeps ask (routine_keeps.reconcileStaleTransactions hkept.applyTransactionStatus b now {})
      have hwithdrawals : Kept fun db => ¬ Credited id db ∨ ToppedUp id db :=
        .of_sameBusiness fun db db' hs hdb => hdb.imp
          (mt (credited_congr hs.topups fun k hk => hs.ledger k (by rw [hk]; rfl)).mp)
          fun ⟨t, ht, hst⟩ => ⟨t, hs.topups ▸ ht, hst⟩
      refine Ensures.run (P := fun db => TopupBooks db ∧ ¬ Credited id db)
        (I := fun db => ¬ Credited id db ∨ ToppedUp id db) (atomic_reconcilePending b now) ?_
        ⟨h, hnot⟩ hsame
      exact hrides.bind fun r => (ensures_sweepTopups b now r).bind fun r' =>
        (Ensures.of_keeps ask (routine_keeps.reconcileStaleWithdrawals hwithdrawals.mark b now r')).mono
          (fun _ h => h.2) fun _ _ h => h
    | reconcileTopup i now =>
      rw [Call.after_request, Op.action, @run_ignore sig _ ask (reconcileTopup i now) db]
      rcases Ensures.run_cases (atomic_reconcileTopup i now) (ensures_reconcileTopup i now) with
        hrun | ⟨_, -, t, -, hrun⟩
      · rw [hrun]
        exact hsame
      · rcases hrun with hrun | ⟨intent, status, x, -, -, -, hx, hrun⟩
        · rw [hrun]
          exact hsame
        · exact credited_or_toppedUp (fun hc =>
            (credited_of_mark h hx hrun hc).imp_right And.right) hnot
    | _ => exact absurd rfl ht

/-! ## Histories -/

/-- What every request keeps, callbacks included, holds after every history. -/
theorem KeptThroughout.runCalls {I : PaymentDb → Prop} (h : KeptThroughout I)
    (hev : ∀ (db : PaymentDb) e, I db → I (db.recordEvent e)) (cs : List Call) (hdb : I db) :
    I (runCalls cs db) :=
  runCalls_inv (P := fun _ _ => True)
    (fun c _ _ hdb => h.after (fun e => keeps_recordWebhookEvent fun db hdb => hev db e hdb) c hdb)
    (everyStep_of_forall (fun _ _ _ => trivial) db) hdb

theorem topupBooks_runCalls (cs : List Call) (h : TopupBooks db) : TopupBooks (runCalls cs db) :=
  kept_topupBooks.runCalls (fun _ _ h => h.congr rfl fun _ _ => rfl) cs h

theorem credited_runCalls (cs : List Call) (h : Credited id db) : Credited id (runCalls cs db) :=
  (kept_credited id).runCalls (fun _ _ h => h) cs h

theorem accounts_runCalls {opening earnedBefore : UUID → Decimal} (cs : List Call)
    (h : Accounts opening earnedBefore db) : Accounts opening earnedBefore (runCalls cs db) :=
  (kept_accounts opening earnedBefore).runCalls
    (fun _ _ h => ⟨h.books.congr rfl rfl, h.balanced.congr rfl rfl rfl⟩) cs h

theorem credited_of_toppedUp (h : TopupBooks db) (hup : ToppedUp id db) : Credited id db := by
  obtain ⟨t, ht, hs⟩ := hup
  exact ⟨t, ht, h.credited id t ht hs⟩

/-- Not credited at first, the top-up is credited in the end exactly if its status was succeeded in some
state of the history. -/
theorem credited_iff_toppedUp (cs : List Call) (h : TopupBooks db) (hnot : ¬ Credited id db) :
    Credited id (runCalls cs db) ↔ ∃ s ∈ statesOf cs db, ToppedUp id s := by
  induction cs generalizing db with
  | nil =>
    constructor
    · exact fun hc => absurd hc hnot
    · rintro ⟨s, hs, hup⟩
      rw [List.mem_singleton.mp hs] at hup
      exact absurd (credited_of_toppedUp h hup) hnot
  | cons c cs ih =>
    have hbooks : TopupBooks (c.after db) := topupBooks_runCalls [c] h
    by_cases hc : Credited id (c.after db)
    · have hup := (after_credits c h hnot).resolve_left (not_not.mpr hc)
      have hstate : c.after db ∈ statesOf (c :: cs) db := by
        cases cs <;> simp [statesOf]
      exact ⟨fun _ => ⟨_, hstate, hup⟩, fun _ => credited_runCalls cs hc⟩
    · rw [runCalls_cons, ih hbooks hc]
      constructor
      · rintro ⟨s, hs, hup⟩
        exact ⟨s, List.mem_cons_of_mem _ hs, hup⟩
      · rintro ⟨s, hs, hup⟩
        rcases List.mem_cons.mp hs with rfl | hs
        · exact absurd (credited_of_toppedUp h hup) hnot
        · exact ⟨s, hs, hup⟩

theorem entriesOf_topup (h : TopupBooks db) (ht : db.topups.find? id = some t) :
    db.entriesOf id .topup = (db.ledger.find? t.creditKey).toList := by
  rw [← Table.filter_key, PaymentDb.entriesOf]
  refine List.filter_congr fun e he => ?_
  have hiff : e.entryType = .topup ∧ e.referenceId = id ↔ Keyed.key e = t.creditKey := by
    constructor
    · rintro ⟨htype, hid⟩
      obtain ⟨x, hx, hc⟩ := h.owned _ e (Table.find?_key_of_mem he) htype
      rw [hid, ht] at hx
      exact (Option.some.inj hx) ▸ hc.key
    · intro hk
      exact ⟨congrArg LedgerKey.entryType hk,
        (congrArg LedgerKey.referenceId hk).trans (Table.key_of_find? ht)⟩
  simp only [hiff]

/-- The entries of a driver, and the one that credits a top-up apart. -/
theorem countedTotal_eq (h : TopupBooks db) (ht : db.topups.find? id = some t) :
    db.countedTotal t.driverId = db.countedWithout id t.driverId +
      if db.entriesOf id .topup = [] then 0 else t.amount := by
  have hsplit := Table.sum_filter_add db.ledger
    (fun e => e.entryType = .topup ∧ e.referenceId = id) (·.counted t.driverId)
  have hentries := entriesOf_topup h ht
  unfold PaymentDb.countedTotal PaymentDb.countedWithout
  simp only [decide_eq_true_eq] at hsplit
  rw [hsplit]
  congr 1
  change ((db.entriesOf id .topup).map _).sum = _
  rw [hentries]
  cases he : db.ledger.find? t.creditKey with
  | none => rfl
  | some e =>
    obtain ⟨x, hx, hc⟩ := h.owned _ e he (congrArg LedgerKey.entryType (Table.key_of_find? he))
    have href : e.referenceId = id :=
      (congrArg LedgerKey.referenceId (Table.key_of_find? he)).trans (Table.key_of_find? ht)
    rw [href, ht] at hx
    obtain rfl := Option.some.inj hx
    have hdriver : e.driverId = t.driverId := congrArg LedgerKey.driverId hc.key
    have htype : e.entryType = .topup := congrArg LedgerKey.entryType hc.key
    simp [DriverLedgerEntry.counted, DriverLedgerEntry.delta, hdriver, htype, hc.status, hc.direction,
      hc.amount]

/-- A driver with an account. -/
def driverDb : PaymentDb := { driverProfiles := Table.empty.insert { id := 1, userId := 2 } }

/-- A callback about the payment intent 5 of 1000 XOF. -/
def callbackOf (eventId status : String) : Call :=
  .callback { secretConfigured := true, signatureValid := true, body := none, eventIdHeader := some eventId, now := 2 }
    fun _ =>
    .ok (.ofMembers [("id", .str eventId), ("data", .ofMembers [("payment_intent_id", .str "5"),
      ("status", .str status), ("amount", .int 1000), ("currency", .str "XOF"),
      ("business_reference", .str "diddigo:driver_topup:3")])])

/-- A top-up succeeds, fails, and succeeds again; the first callback is delivered twice. -/
def topupTwice : List Call :=
  [.request (.topup { driverUserId := 2, amount := 1000, method := "diddipay", customerEmail := "c"
                      returnContexts := false, topupId := 3, now := 1 }) rfl
      fun _ => .ok (.ofMembers [("id", .str "5"), ("status", .str "processing")]),
    callbackOf "e1" "succeeded", callbackOf "e1" "succeeded", callbackOf "e2" "failed",
    callbackOf "e3" "succeeded"]

end DiddiGo.Payments
