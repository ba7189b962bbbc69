import DiddiGo.Payments.Proofs.DeliveryProofs
import DiddiGo.Payments.Proofs.DoublePayoutProofs
import DiddiGo.Payments.Sweeping

/-!
# Three ways to report a payout

The callback, the answer to a request and the sweep all end in the same mark. They agree on a payload
unless the callback, which compares neither the amount nor the currency, accepts it alone.
-/

namespace DiddiGo.Payments

open Data (Json Keyed Table)
open Transactions Prog

/-! ## Withdrawals that can be marked -/

/-- Every withdrawal has a wallet to return to, and no two withdrawals share a payout. -/
structure Payable (db : PaymentDb) : Prop where
  wallet : ∀ id w, db.withdrawals.find? id = some w → (db.wallets.find? w.driverId).isSome
  payout : ∀ id id' w w' p, db.withdrawals.find? id = some w → db.withdrawals.find? id' = some w' →
    w.payoutId = some p → w'.payoutId = some p → id = id'

namespace Payable

variable {db db' : PaymentDb} {w : DriverWithdrawal} {id : UUID}

/-- Wallets may be added. -/
theorem grow (h : Payable db) (hw : db'.withdrawals = db.withdrawals)
    (hwal : ∀ d, (db.wallets.find? d).isSome → (db'.wallets.find? d).isSome) : Payable db' where
  wallet id w hfind := hwal _ (h.wallet id w (hw ▸ hfind))
  payout id id' w w' p hfind hfind' := h.payout id id' w w' p (hw ▸ hfind) (hw ▸ hfind')

theorem wallet_openWallet (d d' : UUID) (currency : String) (h : (db.wallets.find? d').isSome) :
    ((db.openWallet d currency).wallets.find? d').isSome := by
  rw [find?_openWallet_eq, Option.isSome_or, h]
  rfl

theorem wallet_flushWallet (d d' : UUID) (old new : Decimal) (now : DateTime)
    (h : (db.wallets.find? d').isSome) :
    ((db.flushWallet d old new now).wallets.find? d').isSome := by
  rw [find?_flushWallet]
  by_cases hd : d' = d
  · rw [if_pos hd, Option.isSome_map]
    exact h
  · rw [if_neg hd]
    exact h

theorem openWallet (h : Payable db) (d : UUID) (currency : String) :
    Payable (db.openWallet d currency) :=
  h.grow rfl fun d' => wallet_openWallet d d' currency

theorem flushWallet (h : Payable db) (d : UUID) (old new : Decimal) (now : DateTime) :
    Payable (db.flushWallet d old new now) :=
  h.grow rfl fun d' => wallet_flushWallet d d' old new now

theorem insertEntry (h : Payable db) (e : DriverLedgerEntry) : Payable (db.insertEntry e) :=
  h.grow rfl fun _ hd => hd

theorem post (h : Payable db) (e : DriverLedgerEntry) (now : DateTime) : Payable (db.post e now) := by
  unfold PaymentDb.post
  split_ifs
  · exact (h.insertEntry e).flushWallet _ _ _ _
  · exact h.insertEntry e

/-- A row is rewritten without a new payout. -/
theorem rewrite (h : Payable db) {x : DriverWithdrawal} (hx : db.withdrawals.find? id = some x)
    (hw : ∀ i, db'.withdrawals.find? i = if i = id then some w else db.withdrawals.find? i)
    (hd : w.driverId = x.driverId)
    (hp : ∀ p, w.payoutId = some p → ∀ i y, db.withdrawals.find? i = some y →
      y.payoutId = some p → i = id)
    (hwal : ∀ d, (db.wallets.find? d).isSome → (db'.wallets.find? d).isSome) : Payable db' where
  wallet i y hy := by
    rw [hw] at hy
    split_ifs at hy
    · obtain rfl := Option.some.inj hy
      exact hd ▸ hwal _ (h.wallet id x hx)
    · exact hwal _ (h.wallet i y hy)
  payout i i' y y' p hy hy' hpy hpy' := by
    rw [hw] at hy hy'
    split_ifs at hy hy' with hi hi' hi'
    · rw [hi, hi']
    · obtain rfl := Option.some.inj hy
      rw [hi, hp p hpy i' y' hy' hpy']
    · obtain rfl := Option.some.inj hy'
      rw [hi', hp p hpy' i y hy hpy]
    · exact h.payout i i' y y' p hy hy' hpy hpy'

/-- A reservation adds a withdrawal without a payout. -/
theorem reserve (h : Payable db) (old : Decimal) (now : DateTime)
    (hid : db.withdrawals.find? w.id = none) (hp : w.payoutId = none)
    (hwal : (db.wallets.find? w.driverId).isSome) : Payable (db.reserve w old now) := by
  have hrow : ∀ i, (db.reserve w old now).withdrawals.find? i =
      if i = w.id then some w else db.withdrawals.find? i := fun i => find?_insertWithdrawal hid i
  have hwallets : ∀ d, (db.wallets.find? d).isSome →
      ((db.reserve w old now).wallets.find? d).isSome := fun d hd =>
    @wallet_flushWallet ((db.insertWithdrawal w).consumeQuote w.quoteId now) w.driverId d old
      (old - w.amount) now hd
  constructor
  · intro i y hy
    rw [hrow] at hy
    split_ifs at hy
    · obtain rfl := Option.some.inj hy
      exact hwallets _ hwal
    · exact hwallets _ (h.wallet i y hy)
  · intro i i' y y' p hy hy' hpy hpy'
    rw [hrow] at hy hy'
    split_ifs at hy hy'
    · obtain rfl := Option.some.inj hy
      rw [hp] at hpy
      cases hpy
    · obtain rfl := Option.some.inj hy
      rw [hp] at hpy
      cases hpy
    · obtain rfl := Option.some.inj hy'
      rw [hp] at hpy'
      cases hpy'
    · exact h.payout i i' y y' p hy hy' hpy hpy'

/-- A mark sets a payout that no other withdrawal has. -/
theorem markWithdrawal (h : Payable db) {p : ProviderState} (now : DateTime)
    (hw : db.withdrawals.find? id = some w) (hfree : payoutTaken w p db = false) :
    Payable (db.markWithdrawal id p now) := by
  refine h.rewrite hw (find?_markWithdrawal hw p now) rfl (fun q hq i y hy hpy => ?_) fun _ hd => hd
  have hid : w.id = id := id_of_find? hw
  by_contra hne
  cases hp : p.payoutId with
  | none =>
    have hwq : w.payoutId = some q := by
      simpa [DriverWithdrawal.marked, hp] using hq
    exact hne (h.payout i id y w q hy hw hpy hwq)
  | some r =>
    obtain rfl : r = q := by simpa [DriverWithdrawal.marked, hp] using hq
    have htaken : payoutTaken w p db = true := by
      refine List.any_eq_true.mpr ⟨y, Table.mem_of_find? hy, ?_⟩
      have hyid : y.id = i := id_of_find? hy
      simp [hyid, hid, hne, hpy, hp]
    rw [htaken] at hfree
    cases hfree

/-- Every request keeps it. -/
theorem keptThroughout : KeptThroughout Payable := by
  refine .of_writes
    { wallet := fun d currency ask base db hb hc => ?_
      quotes := fun _ _ h => h.grow rfl fun _ hd => hd
      consume := keeps_consumeWithdrawalVerification fun _ _ h => h.grow rfl fun _ hd => hd
      reserve := fun w now ask base db hb hc => ?_
      mark := fun id p now ask base db hb hc => ?_ }
    (fun _ _ h => h.grow rfl fun _ hd => hd) (fun _ _ h => h.grow rfl fun _ hd => hd)
    (fun _ _ h => h.grow rfl fun _ hd => hd) fun e now _ ask base db hb hc => ?_
  · rw [exec_getOrCreateWallet]
    exact ⟨hb, fun _ _ => hc.openWallet d currency⟩
  · rcases exec_reserveWithdrawalFromQuote ask base db w now with
      ⟨e, cur, he⟩ | ⟨x, r, hx, he | he⟩ | ⟨q, -, -, -, htaken, -, he⟩ <;> rw [he]
    · exact ⟨hb, by simp⟩
    · exact ⟨hb, fun _ _ => hc⟩
    · have hfind := (find?_of_withdrawalOfQuote hx).1
      exact ⟨hb, fun _ _ => hc.rewrite hfind (find?_fillDestination hfind _) rfl
        (fun p hp i y hy hyp => hc.payout i x.id y x p hy hfind hyp hp) fun _ hd => hd⟩
    · refine ⟨hb, fun _ _ => (hc.openWallet w.driverId q.currency).reserve _ now
        (find?_of_not_withdrawalTaken htaken) rfl ?_⟩
      simp [reservedRow]
  · rcases exec_markWithdrawalProviderState ask base db id p now with
      ⟨e, cur, he, -⟩ | ⟨w, hw, ⟨-, he⟩ | ⟨-, hfree, ⟨-, he⟩ | ⟨-, he⟩ | ⟨-, -, he⟩ | ⟨wal, -, -, he⟩⟩⟩ <;>
      rw [he]
    · exact ⟨hb, by simp⟩
    · exact ⟨hb, fun _ _ => hc⟩
    · exact ⟨hb, fun _ _ => hc.markWithdrawal now hw hfree⟩
    · exact ⟨hb, fun _ _ => (hc.markWithdrawal now hw hfree).insertEntry _⟩
    · exact ⟨hb, fun _ _ => (hc.markWithdrawal now hw hfree).insertEntry _⟩
    · exact ⟨hb, fun _ _ => ((hc.markWithdrawal now hw hfree).insertEntry _).flushWallet _ _ _ _⟩
  · rw [exec_recordLedgerEntryOnce]
    split_ifs
    · exact ⟨hb, fun _ _ => hc.openWallet _ _⟩
    · exact ⟨hb, fun _ _ => (hc.openWallet _ _).post _ _⟩

/-- It holds throughout every history that starts without withdrawals. -/
theorem runCalls (cs : List Call) {db : PaymentDb} (h : db.withdrawals = .empty) :
    Payable (runCalls cs db) := by
  have h0 : Payable db :=
    ⟨fun id w hw => by simp [h] at hw, fun id id' w w' p hw => by simp [h] at hw⟩
  refine @runCalls_inv Payable (fun _ _ => True) (fun c db _ hdb => ?_) cs db
    (everyStep_of_forall (fun _ _ _ => trivial) db) h0
  exact keptThroughout.after (fun _ => keeps_recordWebhookEvent fun _ h => h.grow rfl fun _ hd => hd)
    c hdb

end Payable

/-- A mark works on a withdrawal whose payout is not that of another one. -/
theorem exec_mark_ok {db : PaymentDb} {w : DriverWithdrawal} (h : Payable db)
    (hw : db.withdrawals.find? w.id = some w) (p : ProviderState)
    (hfree : payoutTaken w p db = false) (now : DateTime) (ask : Query → Answer) (base : PaymentDb) :
    ∃ r db', (markWithdrawalProviderState w.id p now).exec ask base db = (.ok r, base, db') := by
  rcases exec_markWithdrawalProviderState ask base db w.id p now with
    ⟨e, cur, -, hwhy⟩ | ⟨x, -, ⟨-, he⟩ | ⟨-, -, ⟨-, he⟩ | ⟨-, he⟩ | ⟨-, -, he⟩ | ⟨wal, -, -, he⟩⟩⟩
  · rcases hwhy w hw with htaken | hnone
    · rw [hfree] at htaken
      cases htaken
    · have hsome := h.wallet w.id w hw
      rw [hnone] at hsome
      cases hsome
  all_goals exact ⟨_, _, he⟩

/-! ## Payloads -/

/-- A callback and a body of DiddiPay say the same about a payout. -/
structure SamePayout (data payout : Json) (payoutId : UUID) : Prop where
  fields : ∀ f ∈ ["amount", "currency", "business_reference", "status", "failure_code",
    "failure_message"], data.get f = payout.get f
  id : UUID.ofString (payout.get "id").toStr = some payoutId

section Reports

variable {db : PaymentDb} {w : DriverWithdrawal} {data payout : Json} {payoutId : UUID}
  {ask : Query → Answer} {base : PaymentDb}

/-- The callback finds the withdrawal by its payout, or by its reference if no withdrawal has the
payout. -/
theorem exec_findWithdrawalOfCallback
    (h : ((findWithdrawalOfCallback data payoutId).run ask db).1 = .ok (some w)) :
    (findWithdrawalOfCallback data payoutId).exec ask db db = (.ok (some w), db, db) ∧
      (db.withdrawalOfPayout payoutId = some w ∨ db.withdrawalOfPayout payoutId = none) := by
  unfold findWithdrawalOfCallback findWithdrawalByPayoutId at h ⊢
  unfold run at h
  rw [exec_bind_of_ok _ _ _ (exec_select _ _ _ _)] at h ⊢
  cases hx : db.withdrawalOfPayout payoutId with
  | some x =>
    rw [hx] at h
    obtain rfl := Option.some.inj (Except.ok.inj h)
    exact ⟨rfl, Or.inl rfl⟩
  | none =>
    rw [hx] at h
    refine ⟨?_, Or.inr rfl⟩
    dsimp only at h ⊢
    by_cases hb : (data.get "business_reference").truthy = true
    · rw [if_pos hb] at h ⊢
      unfold findWithdrawalByBusinessReference at h ⊢
      rw [exec_bind_of_ok _ _ _ (exec_select _ _ _ _)] at h ⊢
      generalize List.filter (fun w : DriverWithdrawal =>
        decide (w.businessReference = (data.get "business_reference").toStr))
          db.withdrawals.rows = l at h ⊢
      rcases l with _ | ⟨a, _ | ⟨b, l⟩⟩
      · cases h
      · obtain rfl := Option.some.inj (Except.ok.inj h)
        rfl
      · cases h
    · rw [if_neg hb] at h
      cases h

/-- Then nobody else has the payout. -/
theorem payoutTaken_of_callback (hpay : Payable db) (hw : db.withdrawals.find? w.id = some w)
    (h : ((findWithdrawalOfCallback data payoutId).run ask db).1 = .ok (some w)) {p : ProviderState}
    (hp : p.payoutId = some payoutId) : payoutTaken w p db = false := by
  by_contra htaken
  obtain ⟨x, hx, hx'⟩ := List.any_eq_true.mp (eq_true_of_ne_false htaken)
  obtain ⟨hne, hxp, -⟩ : x.id ≠ w.id ∧ x.payoutId = p.payoutId ∧ p.payoutId.isSome := by
    simpa using hx'
  rw [hp] at hxp
  rcases (exec_findWithdrawalOfCallback h).2 with hfind | hnone
  · have hwp : w.payoutId = some payoutId := by simpa using List.find?_some hfind
    exact hne (hpay.payout x.id w.id x w payoutId (Table.find?_key_of_mem hx) hw hxp hwp)
  · have hall := List.find?_eq_none.mp hnone x hx
    simp [hxp] at hall

/-- The callback marks the withdrawal if the payload names it. -/
theorem run_applyPayoutWebhook {db' : PaymentDb} {r : DriverWithdrawal} {target : WithdrawalStatus}
    {now : DateTime}
    (h : ((findWithdrawalOfCallback data payoutId).run ask db).1 = .ok (some w))
    (hs : SameReference w data) (ht : reportedStatus data = some target)
    (hmark : (markWithdrawalProviderState w.id (reportedState data payoutId target) now).exec ask db db =
      (.ok r, db, db')) :
    (applyPayoutWebhook data payoutId now).run ask db = (.ok (.payout payoutId), db') := by
  have hexec : (applyPayoutWebhook data payoutId now).exec ask db db =
      (.ok (.payout payoutId), db, db') := by
    unfold SameReference at hs
    unfold applyPayoutWebhook apiErrorIf
    rw [exec_bind_of_ok _ _ _ (exec_findWithdrawalOfCallback h).1]
    dsimp only
    rw [exec_raiseIf_bind, if_neg (not_not.mpr hs)]
    unfold reportedStatus at ht
    rw [ht, exec_bind_of_ok _ _ _ (exec_getOrRaise_some _ _ _ _ _)]
    exact exec_bind_of_ok _ _ _ hmark
  exact @run_of_ok sig _ ask _ db db db' _ hexec

theorem run_applyPayoutWebhook_refused {now : DateTime}
    (h : ((findWithdrawalOfCallback data payoutId).run ask db).1 = .ok (some w))
    (hs : ¬ (SameReference w data ∧ (reportedStatus data).isSome)) :
    ∃ e, (applyPayoutWebhook data payoutId now).run ask db = (.error e, db) := by
  have hexec : ∃ e, (applyPayoutWebhook data payoutId now).exec ask db db = (.error e, db, db) := by
    unfold applyPayoutWebhook apiErrorIf
    rw [exec_bind_of_ok _ _ _ (exec_findWithdrawalOfCallback h).1]
    dsimp only
    rw [exec_raiseIf_bind]
    by_cases href : data.get "business_reference" = .str w.businessReference
    · rw [if_neg (not_not.mpr href)]
      have hnone : reportedStatus data = none := by
        simpa [SameReference, href] using hs
      unfold reportedStatus at hnone
      rw [hnone]
      exact ⟨_, rfl⟩
    · rw [if_pos href]
      exact ⟨_, rfl⟩
  obtain ⟨e, he⟩ := hexec
  exact ⟨e, @run_of_error sig _ ask _ db db db _ he⟩

/-- A request marks the withdrawal if the answer is about it and its money. -/
theorem run_applyWithdrawalProviderPayload {db' : PaymentDb} {r : DriverWithdrawal}
    {target : WithdrawalStatus} {now : DateTime} (hm : SameMoney w payout)
    (hs : SameReference w payout) (ht : reportedStatus payout = some target)
    (hid : UUID.ofString (payout.get "id").toStr = some payoutId)
    (hmark : (markWithdrawalProviderState w.id (reportedState payout payoutId target) now).exec ask db
      db = (.ok r, db, db')) :
    (applyWithdrawalProviderPayload w payout now).run ask db = (.ok r, db') := by
  have hexec : (applyWithdrawalProviderPayload w payout now).exec ask db db = (.ok r, db, db') := by
    unfold SameReference at hs
    unfold applyWithdrawalProviderPayload apiErrorIf intOrMinusOne uuidOf
    rw [hm.1, exec_bind_of_ok _ _ _ (exec_getOrRaise_some _ _ _ _ _), exec_raiseIf_bind,
      if_neg (not_not.mpr rfl), exec_raiseIf_bind, if_neg (not_not.mpr hm.2), exec_raiseIf_bind,
      if_neg (not_not.mpr hs)]
    unfold reportedStatus at ht
    dsimp only
    rw [ht, exec_bind_of_ok _ _ _ (exec_getOrRaise_some _ _ _ _ _), hid,
      exec_bind_of_ok _ _ _ (exec_getOrRaise_some _ _ _ _ _)]
    exact hmark
  exact @run_of_ok sig _ ask _ db db db' _ hexec

theorem run_applyWithdrawalProviderPayload_refused {now : DateTime}
    (h : ¬ (SameMoney w payout ∧ SameReference w payout ∧ (reportedStatus payout).isSome)) :
    ∃ e, (applyWithdrawalProviderPayload w payout now).run ask db = (.error e, db) := by
  have hexec : ∃ e, (applyWithdrawalProviderPayload w payout now).exec ask db db =
      (.error e, db, db) := by
    unfold applyWithdrawalProviderPayload apiErrorIf intOrMinusOne
    cases ha : ((payout.get "amount").or (.int (-1))).toInt? with
    | none => exact ⟨_, rfl⟩
    | some a =>
      rw [exec_bind_of_ok _ _ _ (exec_getOrRaise_some _ _ _ _ _), exec_raiseIf_bind]
      split_ifs with hamount
      · exact ⟨_, rfl⟩
      rw [exec_raiseIf_bind]
      split_ifs with hcurrency
      · exact ⟨_, rfl⟩
      rw [exec_raiseIf_bind]
      split_ifs with href
      · exact ⟨_, rfl⟩
      have hnone : reportedStatus payout = none := by
        have hm : SameMoney w payout := ⟨by rw [ha, not_not.mp hamount], not_not.mp hcurrency⟩
        simpa [hm, SameReference, not_not.mp href] using h
      unfold reportedStatus at hnone
      dsimp only
      rw [hnone]
      exact ⟨_, rfl⟩
  obtain ⟨e, he⟩ := hexec
  exact ⟨e, @run_of_error sig _ ask _ db db db _ he⟩

/-- The sweep counts the withdrawal as updated or unchanged. -/
def Counted (report : ReconciliationReport) (res : Except Err ReconciliationReport) : Prop :=
  ∃ r, res = .ok r ∧ (r.updated = report.updated + 1 ∨ r.unchanged = report.unchanged + 1)

/-- The sweep marks the withdrawal if the answer is about it and its money. -/
theorem run_reconcileStaleWithdrawal {db' : PaymentDb} {r : DriverWithdrawal}
    {target : WithdrawalStatus} {now : DateTime} {report : ReconciliationReport}
    (hask : ask (payoutQuery w) = .ok payout) (hm : SameMoney w payout)
    (hs : SameReference w payout) (ht : reportedStatus payout = some target)
    (hid : UUID.ofString (payout.get "id").toStr = some payoutId)
    (hmark : (markWithdrawalProviderState w.id (reportedState payout payoutId target) now).exec ask db
      db = (.ok r, db, db')) :
    Counted report ((reconcileStaleWithdrawal w now report).run ask db).1 ∧
      ((reconcileStaleWithdrawal w now report).run ask db).2 = db' := by
  have hexec : ∃ r', (reconcileStaleWithdrawal w now report).exec ask db db = (.ok r', db, db') ∧
      (r'.updated = report.updated + 1 ∨ r'.unchanged = report.unchanged + 1) := by
    unfold SameReference at hs
    unfold reconcileStaleWithdrawal intOrMinusOne uuidOf
    rw [exec_bind_of_ok _ _ _ (exec_ask _ _ _ _), hask]
    have hnull : payout ≠ .null := by
      rintro rfl
      cases hs
    split
    · rename_i e he
      cases he
    · rename_i e he
      cases he
    · rename_i he
      exact absurd (Except.ok.inj he) hnull
    · rename_i body _ he
      obtain rfl := Except.ok.inj he
      have hmatch : ¬ (Decimal.toInt w.netAmount ≠ Decimal.toInt w.netAmount ∨
          payout.get "currency" ≠ .str w.currency ∨
          payout.get "business_reference" ≠ .str w.businessReference) := by
        simp [hm.2, hs]
      rw [hm.1, exec_bind_of_ok _ _ _ (exec_getOrRaise_some _ _ _ _ _), if_neg hmatch]
      unfold reportedStatus at ht
      dsimp only
      rw [ht, hid, exec_bind_of_ok _ _ _ (exec_getOrRaise_some _ _ _ _ _)]
      unfold reportedState at hmark
      rw [exec_bind_of_ok _ _ _ hmark]
      by_cases hsame : r.status = w.status
      · rw [if_pos hsame]
        exact ⟨_, rfl, Or.inr rfl⟩
      · rw [if_neg hsame]
        exact ⟨_, rfl, Or.inl rfl⟩
  obtain ⟨r', he, hr'⟩ := hexec
  rw [@run_of_ok sig _ ask _ db db db' _ he]
  exact ⟨⟨r', rfl, hr'⟩, rfl⟩

theorem run_reconcileStaleWithdrawal_refused {now : DateTime} {report : ReconciliationReport}
    (hask : ask (payoutQuery w) = .ok payout)
    (h : ¬ (SameMoney w payout ∧ SameReference w payout ∧ (reportedStatus payout).isSome)) :
    ¬ Counted report ((reconcileStaleWithdrawal w now report).run ask db).1 ∧
      ((reconcileStaleWithdrawal w now report).run ask db).2 = db := by
  have hexec : (∃ e, (reconcileStaleWithdrawal w now report).exec ask db db = (.error e, db, db)) ∨
      ∃ r, (reconcileStaleWithdrawal w now report).exec ask db db = (.ok r, db, db) ∧
        r.updated = report.updated ∧ r.unchanged = report.unchanged := by
    unfold reconcileStaleWithdrawal intOrMinusOne
    rw [exec_bind_of_ok _ _ _ (exec_ask _ _ _ _), hask]
    split
    · rename_i e he
      cases he
    · rename_i e he
      cases he
    · exact Or.inr ⟨_, rfl, rfl, rfl⟩
    · rename_i body _ he
      obtain rfl := Except.ok.inj he
      cases ha : ((payout.get "amount").or (.int (-1))).toInt? with
      | none => exact Or.inl ⟨_, rfl⟩
      | some a =>
        rw [exec_bind_of_ok _ _ _ (exec_getOrRaise_some _ _ _ _ _)]
        split_ifs with hmis
        · exact Or.inr ⟨_, rfl, rfl, rfl⟩
        have hall : a = Decimal.toInt w.netAmount ∧ payout.get "currency" = .str w.currency ∧
            payout.get "business_reference" = .str w.businessReference := by
          simpa [not_or] using hmis
        have hnone : reportedStatus payout = none := by
          have hm : SameMoney w payout := ⟨by rw [ha, hall.1], hall.2.1⟩
          simpa [hm, SameReference, hall.2.2] using h
        unfold reportedStatus at hnone
        dsimp only
        rw [hnone]
        exact Or.inr ⟨_, rfl, rfl, rfl⟩
  rcases hexec with ⟨e, he⟩ | ⟨r, he, hup, hun⟩
  · rw [@run_of_error sig _ ask _ db db db _ he]
    exact ⟨fun ⟨_, hr, _⟩ => (nomatch hr), rfl⟩
  · rw [@run_of_ok sig _ ask _ db db db _ he]
    refine ⟨fun ⟨r', hr', hcount⟩ => ?_, rfl⟩
    obtain rfl := Except.ok.inj hr'
    omega

end Reports

/-- The three ways to report a payout follow one rule: they change the withdrawal only if the payload is
about it and its money, they accept the same payloads, and they leave the same database behind. -/
structure OneRule (db : PaymentDb) (w : DriverWithdrawal) (data payout : Json) (payoutId : UUID)
    (ask : Query → Answer) (now : DateTime) (report : ReconciliationReport) : Prop where
  callback : ((applyPayoutWebhook data payoutId now).run ask db).2.withdrawals.find? w.id ≠
    db.withdrawals.find? w.id → SameMoney w payout ∧ SameReference w payout
  request : ((applyWithdrawalProviderPayload w payout now).run ask db).2.withdrawals.find? w.id ≠
    db.withdrawals.find? w.id → SameMoney w payout ∧ SameReference w payout
  sweep : ((reconcileStaleWithdrawal w now report).run ask db).2.withdrawals.find? w.id ≠
    db.withdrawals.find? w.id → SameMoney w payout ∧ SameReference w payout
  accepts : ((∃ r, ((applyPayoutWebhook data payoutId now).run ask db).1 = .ok r) ↔
      ∃ r, ((applyWithdrawalProviderPayload w payout now).run ask db).1 = .ok r) ∧
    ((∃ r, ((applyWithdrawalProviderPayload w payout now).run ask db).1 = .ok r) ↔
      Counted report ((reconcileStaleWithdrawal w now report).run ask db).1)
  agrees : (∃ r, ((applyPayoutWebhook data payoutId now).run ask db).1 = .ok r) →
    ((applyWithdrawalProviderPayload w payout now).run ask db).2 =
        ((applyPayoutWebhook data payoutId now).run ask db).2 ∧
      ((reconcileStaleWithdrawal w now report).run ask db).2 =
        ((applyPayoutWebhook data payoutId now).run ask db).2

/-- The request of a driver for 2000. -/
def withdrawalRequest30 : WithdrawalRequest where
  driverUserId := 2
  quoteId := 9
  beneficiaryReference := "b"
  beneficiaryDestination := .str "d"
  verificationId := 20
  codeHash := "h"
  profilePhone := "p"
  withdrawalId := 30
  now := 5
  later := 6

/-- DiddiPay does not answer. -/
def unavailable : Query → Answer :=
  fun _ => .error (.api { statusCode := 503, code := "PROVIDER_UNAVAILABLE", message := "" })

/-- DiddiPay answers `body`. -/
def answering (body : Json) : Query → Answer := fun _ => .ok body

/-- The withdrawal is reserved, and nobody knows what has become of its payout. -/
def reservedHistory : List Call := [.request (.withdraw {} withdrawalRequest30) rfl unavailable]

/-- Its row. -/
def withdrawal30 : DriverWithdrawal :=
  reservedRow (requestedWithdrawal withdrawalRequest30 1)
    { id := 9, driverId := 1, amount := 2000, fees := 0, netAmount := 2000, expiresAt := 100
      createdAt := 0 } 5

/-- DiddiPay says that its payout has succeeded over `amount`. -/
def succeededPayout (amount : Int) : Json :=
  .ofMembers [("id", .str "77"), ("status", .str "succeeded"), ("amount", .int amount),
    ("currency", .str "XOF"), ("business_reference", .str "diddigo:driver_withdrawal:30")]

end DiddiGo.Payments
