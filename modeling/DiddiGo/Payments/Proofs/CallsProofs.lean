import DiddiGo.Payments.Proofs.ConservationProofs
import DiddiGo.Payments.Proofs.RoutineProofs

/-!
# Invariants of histories

What every request keeps holds in every state of a history. Requests about withdrawals keep whatever does
not depend on the tables they write; the other requests keep what their parts keep.
-/

namespace DiddiGo.Payments

open Data (Json Keyed Table)
open Transactions Prog

variable {I : PaymentDb → Prop} {α : Type}

/-! ## Histories -/

theorem Call.after_request (op : Op) (h : op.isRequest) (ask : Query → Answer) (db : PaymentDb) :
    (Call.request op h ask).after db = (op.action.run ask db).2 := rfl

theorem Call.after_webhook (call : WebhookCall) (h : (Op.webhook call).isRequest)
    (ask : Query → Answer) (db : PaymentDb) :
    (Call.request (.webhook call) h ask).after db =
      match ask .callback with
      | .ok body => ((applyDiddipayWebhook { call with body := some body }).run ask db).2
      | .error _ => db := by
  have hrun : (Call.request (.webhook call) h ask).after db = ((receiveWebhook call).run ask db).2 :=
    @run_ignore sig _ ask (receiveWebhook call) db
  rw [hrun]
  unfold receiveWebhook askOrRaise run
  rw [exec_bind, exec_bind, exec_ask]
  cases ask .callback with
  | ok body => rfl
  | error e => rfl

@[simp] theorem runCalls_nil (db : PaymentDb) : runCalls [] db = db := rfl

@[simp] theorem runCalls_cons (c : Call) (cs : List Call) (db : PaymentDb) :
    runCalls (c :: cs) db = runCalls cs (c.after db) := rfl

theorem runCalls_append (cs cs' : List Call) (db : PaymentDb) :
    runCalls (cs ++ cs') db = runCalls cs' (runCalls cs db) := List.foldl_append

/-- An invariant of every step holds after every history whose steps satisfy `P`. -/
theorem runCalls_inv {P : Call → PaymentDb → Prop}
    (hstep : ∀ c db, P c db → I db → I (c.after db)) {cs : List Call} {db : PaymentDb}
    (hcs : EveryStep P cs db) (hdb : I db) : I (runCalls cs db) := by
  induction cs generalizing db with
  | nil => exact hdb
  | cons c cs ih => exact ih hcs.2 (hstep c db hcs.1 hdb)

theorem everyStep_of_forall {P : Call → PaymentDb → Prop} {cs : List Call}
    (h : ∀ c ∈ cs, ∀ db, P c db) (db : PaymentDb) : EveryStep P cs db := by
  induction cs generalizing db with
  | nil => exact trivial
  | cons c cs ih => exact ⟨h c (by simp) db, ih (fun c' hc' => h c' (by simp [hc'])) _⟩

theorem ignore_keeps {p : Action α} (h : p.Keeps I) : (Prog.ignore p).Keeps I :=
  h.bind fun _ => .ret ()

/-! ## Requests about withdrawals -/

/-- `I` survives what requests do to wallets, quotes, verifications and withdrawals. -/
structure Kept (I : PaymentDb → Prop) : Prop where
  wallet : ∀ d c, (getOrCreateWallet d c).Keeps I
  quotes : ∀ (db : PaymentDb) t, I db → I { db with quotes := t }
  consume : ∀ verificationId driverId destination codeHash maxAttempts now,
    (consumeWithdrawalVerification verificationId driverId destination codeHash maxAttempts now).Keeps I
  reserve : ∀ w now, (reserveWithdrawalFromQuote w now).Keeps I
  mark : ∀ id p now, (markWithdrawalProviderState id p now).Keeps I

theorem routine_keeps : Routine fun p => Keeps I p where
  ret a := @Keeps.ret sig _ I a
  raise e := @Keeps.raise sig _ I e
  bind hp hf := hp.bind hf
  select f := @Keeps.select sig _ I f
  ask q _ := @Keeps.ask sig I q

theorem keeps_lookupAsApiError {p : Action α} (hp : p.Keeps I) (status : String → Nat)
    (message : String) : (lookupAsApiError p status message).Keeps I :=
  Keeps.tryCatch hp fun e => by cases e <;> exact ⟨_, rfl⟩

/-- What does not depend on verifications survives their consumption. -/
theorem keeps_consumeWithdrawalVerification
    (h : ∀ (db : PaymentDb) t, I db → I { db with verifications := t })
    (verificationId driverId : UUID) (destination : Json) (codeHash : String) (maxAttempts : Nat)
    (now : DateTime) :
    (consumeWithdrawalVerification verificationId driverId destination codeHash maxAttempts
      now).Keeps I := by
  refine (Keeps.selectForUpdate _ _).bind fun o => ?_
  cases o with
  | none => exact .raise _
  | some v =>
    refine (Keeps.raiseIf _ _).bind fun _ => (Keeps.raiseIf _ _).bind fun _ =>
      (Keeps.raiseIf _ _).bind fun _ => (Keeps.raiseIf _ _).bind fun _ => ?_
    split_ifs
    · exact (Keeps.update fun db => h db _).bind fun _ => (Keeps.raiseIf _ _).bind fun _ => .raise _
    · exact (Keeps.update fun db => h db _).bind fun _ => .ret _

namespace Kept

variable (h : Kept I)

include h

theorem applyWithdrawalProviderPayload (w : DriverWithdrawal) (payout : Json) (now : DateTime) :
    (applyWithdrawalProviderPayload w payout now).Keeps I :=
  (routine_keeps.getOrRaise _ _).bind fun _ => (Keeps.raiseIf _ _).bind fun _ =>
    (Keeps.raiseIf _ _).bind fun _ => (Keeps.raiseIf _ _).bind fun _ =>
    (routine_keeps.getOrRaise _ _).bind fun _ => (routine_keeps.getOrRaise _ _).bind fun _ =>
    h.mark _ _ _

theorem sendPayout (w : DriverWithdrawal) (later : DateTime) : (sendPayout w later).Keeps I := by
  refine (Keeps.ask _).bind fun a => ?_
  rcases a with e | payout
  · cases e with
    | api e =>
      dsimp only
      split_ifs
      · exact (h.mark _ _ _).bind fun _ => Keeps.commitNow.bind fun _ => .raise _
      · exact .raise _
    | _ => exact .raise _
  · exact (h.applyWithdrawalProviderPayload _ _ _).bind fun _ => Keeps.commitNow.bind fun _ => .ret _

theorem quoteWithdrawal (cfg : Settings) (driverUserId quoteId : UUID) (amount : Decimal)
    (now : DateTime) : (quoteWithdrawal cfg driverUserId quoteId amount now).Keeps I :=
  (routine_keeps.driverIdForUser _).bind fun _ => (Keeps.raiseIf _ _).bind fun _ =>
    (Keeps.raiseIf _ _).bind fun _ => (h.wallet _ _).bind fun _ => (Keeps.raiseIf _ _).bind fun _ =>
    (Keeps.writeOrRaise fun db hdb _ => h.quotes db _ hdb).bind fun _ =>
    Keeps.commitNow.bind fun _ => .ret _

theorem requestWithdrawal (cfg : Settings) (r : WithdrawalRequest) :
    (requestWithdrawal cfg r).Keeps I := by
  refine (routine_keeps.driverIdForUser _).bind fun driverId => (Keeps.raiseIf _ _).bind fun _ =>
    (Keeps.raiseIf _ _).bind fun _ => (Keeps.select _).bind fun o => ?_
  cases o with
  | some w => exact (Keeps.raiseIf _ _).bind fun _ => .ret _
  | none =>
    exact (keeps_lookupAsApiError (h.consume _ _ _ _ _ _) _ _).bind fun _ =>
      (keeps_lookupAsApiError (h.reserve _ _) _ _).bind fun w => Keeps.commitNow.bind fun _ =>
      h.sendPayout w _

theorem reconcileWithdrawal (id : UUID) (now : DateTime) :
    (reconcileWithdrawal id now).Keeps I := by
  refine (Keeps.select _).bind fun o => ?_
  cases o with
  | none => exact .raise _
  | some w =>
    refine (routine_keeps.askOrRaise (payoutQuery_ne w)).bind fun payout => ?_
    split_ifs
    · exact .ret _
    · exact (h.applyWithdrawalProviderPayload _ _ _).bind fun _ =>
        Keeps.commitNow.bind fun _ => .ret _

theorem aboutWithdrawals {op : Op} (hop : op.aboutWithdrawals) : op.action.Keeps I := by
  cases op with
  | sweepWithdrawals b now =>
    exact ignore_keeps (routine_keeps.reconcileStaleWithdrawals h.mark b now {})
  | withdraw cfg r => exact ignore_keeps (h.requestWithdrawal cfg r)
  | reconcileWithdrawal id now => exact ignore_keeps (h.reconcileWithdrawal id now)
  | quote cfg driver id amount now => exact ignore_keeps (h.quoteWithdrawal cfg driver id amount now)
  | _ => cases hop

end Kept

/-! ## What does not depend on withdrawals -/

/-- A relation that contains every change of wallets, withdrawals and their entries. -/
structure WithdrawalChanges (rel : PaymentDb → PaymentDb → Prop) : Prop where
  trans : ∀ {db db' db''}, rel db db' → rel db' db'' → rel db db''
  openWallet : ∀ db d currency, rel db (db.openWallet d currency)
  flushWallet : ∀ (db : PaymentDb) d old new now, rel db (db.flushWallet d old new now)
  insertEntry : ∀ (db : PaymentDb) {e : DriverLedgerEntry}, e.entryType.isWithdrawal = true →
    rel db (db.insertEntry e)
  insertWithdrawal : ∀ (db : PaymentDb) w, rel db (db.insertWithdrawal w)
  consumeQuote : ∀ (db : PaymentDb) id now, rel db (db.consumeQuote id now)
  markWithdrawal : ∀ (db : PaymentDb) id p now, rel db (db.markWithdrawal id p now)
  fillDestination : ∀ (db : PaymentDb) id destination, rel db (db.fillDestination id destination)

/-- `db'` differs from `db` at most in wallets, quotes, verifications, withdrawals and their entries. -/
structure SameBusiness (db db' : PaymentDb) : Prop where
  transactions : db'.transactions = db.transactions
  topups : db'.topups = db.topups
  webhookEvents : db'.webhookEvents = db.webhookEvents
  rides : db'.rides = db.rides
  ledger : ∀ k : LedgerKey, k.entryType.isWithdrawal = false →
    db'.ledger.find? k = db.ledger.find? k

namespace SameBusiness

variable {db db' db'' : PaymentDb}

theorem refl (db : PaymentDb) : SameBusiness db db := ⟨rfl, rfl, rfl, rfl, fun _ _ => rfl⟩

theorem trans (h : SameBusiness db db') (h' : SameBusiness db' db'') : SameBusiness db db'' where
  transactions := h'.transactions.trans h.transactions
  topups := h'.topups.trans h.topups
  webhookEvents := h'.webhookEvents.trans h.webhookEvents
  rides := h'.rides.trans h.rides
  ledger k hk := (h'.ledger k hk).trans (h.ledger k hk)

theorem openWallet (db : PaymentDb) (d : UUID) (currency : String) :
    SameBusiness db (db.openWallet d currency) := ⟨rfl, rfl, rfl, rfl, fun _ _ => rfl⟩

theorem flushWallet (db : PaymentDb) (d : UUID) (old new : Decimal) (now : DateTime) :
    SameBusiness db (db.flushWallet d old new now) := ⟨rfl, rfl, rfl, rfl, fun _ _ => rfl⟩

theorem markWithdrawal (db : PaymentDb) (id : UUID) (p : ProviderState) (now : DateTime) :
    SameBusiness db (db.markWithdrawal id p now) := ⟨rfl, rfl, rfl, rfl, fun _ _ => rfl⟩

theorem insertEntry (db : PaymentDb) {e : DriverLedgerEntry} (he : e.entryType.isWithdrawal = true) :
    SameBusiness db (db.insertEntry e) := by
  refine ⟨rfl, rfl, rfl, rfl, fun k hk => ?_⟩
  refine Table.find?_insert_of_ne _ fun h => ?_
  have ht : e.entryType = k.entryType := congrArg LedgerKey.entryType h
  rw [ht, hk] at he
  cases he

theorem fillDestination (db : PaymentDb) (id : UUID) (destination : Option Json) :
    SameBusiness db (db.fillDestination id destination) := ⟨rfl, rfl, rfl, rfl, fun _ _ => rfl⟩

theorem withdrawalChanges : WithdrawalChanges SameBusiness where
  trans := trans
  openWallet := openWallet
  flushWallet := flushWallet
  insertEntry := insertEntry
  insertWithdrawal _ _ := ⟨rfl, rfl, rfl, rfl, fun _ _ => rfl⟩
  consumeQuote _ _ _ := ⟨rfl, rfl, rfl, rfl, fun _ _ => rfl⟩
  markWithdrawal := markWithdrawal
  fillDestination := fillDestination

end SameBusiness

section Changes

variable {rel : PaymentDb → PaymentDb → Prop} (hrel : WithdrawalChanges rel)
  (h : ∀ db db', rel db db' → I db → I db')

include hrel h

theorem keeps_getOrCreateWallet_of_changes (d : UUID) (c : String) : (getOrCreateWallet d c).Keeps I := by
  intro ask base db hb hc
  rw [exec_getOrCreateWallet]
  exact ⟨hb, fun _ _ => h _ _ (hrel.openWallet db d c) hc⟩

theorem keeps_reserve_of_changes (w : DriverWithdrawal) (now : DateTime) :
    (reserveWithdrawalFromQuote w now).Keeps I := by
  intro ask base db hb hc
  rcases exec_reserveWithdrawalFromQuote ask base db w now with
    ⟨e, cur, he⟩ | ⟨x, r, -, he | he⟩ | ⟨q, -, -, -, -, -, he⟩ <;> rw [he]
  · exact ⟨hb, by simp⟩
  · exact ⟨hb, fun _ _ => hc⟩
  · exact ⟨hb, fun _ _ => h _ _ (hrel.fillDestination db _ _) hc⟩
  · refine ⟨hb, fun _ _ => h _ _ ?_ hc⟩
    exact hrel.trans (hrel.openWallet db _ _) (hrel.trans (hrel.insertWithdrawal _ _)
      (hrel.trans (hrel.consumeQuote _ _ _) (hrel.trans (hrel.flushWallet _ _ _ _ _)
        (hrel.insertEntry _ rfl))))

theorem keeps_mark_of_changes (id : UUID) (p : ProviderState) (now : DateTime) :
    (markWithdrawalProviderState id p now).Keeps I := by
  intro ask base db hb hc
  have hmark := hrel.markWithdrawal db id p now
  rcases exec_markWithdrawalProviderState ask base db id p now with
    ⟨e, cur, he, -⟩ | ⟨w, -, ⟨-, he⟩ | ⟨-, -, ⟨-, he⟩ | ⟨-, he⟩ | ⟨-, -, he⟩ | ⟨wal, -, -, he⟩⟩⟩ <;>
    rw [he]
  · exact ⟨hb, by simp⟩
  · exact ⟨hb, fun _ _ => hc⟩
  · exact ⟨hb, fun _ _ => h _ _ hmark hc⟩
  · exact ⟨hb, fun _ _ => h _ _ (hrel.trans hmark (hrel.insertEntry _ rfl)) hc⟩
  · exact ⟨hb, fun _ _ => h _ _ (hrel.trans hmark (hrel.insertEntry _ rfl)) hc⟩
  · exact ⟨hb, fun _ _ => h _ _ (hrel.trans (hrel.trans hmark (hrel.insertEntry _ rfl))
      (hrel.flushWallet _ _ _ _ _)) hc⟩

end Changes

theorem Kept.of_sameBusiness (h : ∀ db db', SameBusiness db db' → I db → I db') : Kept I where
  wallet := keeps_getOrCreateWallet_of_changes SameBusiness.withdrawalChanges h
  quotes db _ := h db _ ⟨rfl, rfl, rfl, rfl, fun _ _ => rfl⟩
  consume := keeps_consumeWithdrawalVerification fun db _ => h db _ ⟨rfl, rfl, rfl, rfl, fun _ _ => rfl⟩
  reserve := keeps_reserve_of_changes SameBusiness.withdrawalChanges h
  mark := keeps_mark_of_changes SameBusiness.withdrawalChanges h

/-! ## Requests about rides and top-ups -/

/-- `I` survives what requests do for rides. -/
structure KeptByRides (I : PaymentDb → Prop) : Prop extends Kept I where
  rides : ∀ (db : PaymentDb) t, I db → I { db with rides := t }
  transactions : ∀ (db : PaymentDb) t, I db → I { db with transactions := t }
  settle : ∀ ride status now e, settlementEntry ride status now = some e →
    (recordLedgerEntryOnce e now).Keeps I

namespace KeptByRides

variable (h : KeptByRides I)

include h

theorem writes : WritesTransactions fun p => Keeps I p :=
  ⟨fun _ _ => Keeps.update fun db => h.transactions db _,
    fun _ _ _ _ => Keeps.writeOrRaise fun db hdb _ => h.transactions db _ hdb⟩

theorem confirmCash (rideId : UUID) (amount : Decimal) (collectedBy transactionId : UUID)
    (now : DateTime) : (confirmCash rideId amount collectedBy transactionId now).Keeps I :=
  routine_keeps.confirmCash h.writes h.settle _ _ _ _ _

theorem preparePayment (r : PreparationRequest) : (preparePayment r).Keeps I :=
  routine_keeps.preparePayment h.writes r

theorem applyTransactionStatus (t : Transaction) (status : PaymentStatus) (providerStatus : String)
    (paidAt : Option DateTime) (nextAction : Option (Option Json)) (now : DateTime) :
    (applyTransactionStatus t status providerStatus paidAt nextAction now).Keeps I :=
  routine_keeps.applyTransactionStatus h.writes h.settle _ _ _ _ _ _

theorem op {op : Op} (hop : op.isRequest) (ht : op.touchesTopups = false) : op.action.Keeps I := by
  cases op with
  | record | reserve | mark | payoutWebhook => cases hop
  | topup | webhook | sweep | reconcileTopup => cases ht
  | sweepWithdrawals | withdraw | reconcileWithdrawal | quote =>
    exact h.aboutWithdrawals rfl
  | confirmCash ride amount by' id now => exact ignore_keeps (h.confirmCash ride amount by' id now)
  | prepare r => exact ignore_keeps (h.preparePayment r)
  | reconcileTransaction ride now =>
    exact ignore_keeps (routine_keeps.reconcileTransaction h.applyTransactionStatus ride now)

end KeptByRides

/-- `I` survives what requests do for top-ups. -/
structure KeptByTopups (I : PaymentDb → Prop) : Prop extends Kept I where
  topups : ∀ (db : PaymentDb) t, I db → I { db with topups := t }
  credit : ∀ t now, (recordLedgerEntryOnce (topupEntry t now) now).Keeps I

namespace KeptByTopups

variable (h : KeptByTopups I)

include h

theorem writes : WritesTopups fun p => Keeps I p :=
  ⟨fun _ _ => Keeps.update fun db => h.topups db _,
    fun _ _ _ _ => Keeps.writeOrRaise fun db hdb _ => h.topups db _ hdb⟩

theorem createTopup (r : TopupRequest) : (createTopup r).Keeps I :=
  routine_keeps.createTopup h.writes h.credit r

theorem applyTopupStatus (t : DriverTopup) (status : TopupStatus) (providerStatus : String)
    (paidAt : Option DateTime) (nextAction : Option (Option Json)) (now : DateTime) :
    (applyTopupStatus t status providerStatus paidAt nextAction now).Keeps I :=
  routine_keeps.applyTopupStatus h.writes h.credit _ _ _ _ _ _

theorem op {op : Op} (hop : op.isRequest) (ht : op.touchesTransactions = false) :
    op.action.Keeps I := by
  cases op with
  | record | reserve | mark | payoutWebhook => cases hop
  | confirmCash | prepare | webhook | sweep | reconcileTransaction => cases ht
  | sweepWithdrawals | withdraw | reconcileWithdrawal | quote =>
    exact h.aboutWithdrawals rfl
  | topup r => exact ignore_keeps (h.createTopup r)
  | reconcileTopup id now =>
    exact ignore_keeps (routine_keeps.reconcileTopup h.applyTopupStatus id now)

end KeptByTopups

/-! ## All requests -/

/-- `I` survives every request that is not a callback. -/
structure KeptThroughout (I : PaymentDb → Prop) : Prop extends Kept I where
  rides : ∀ (db : PaymentDb) t, I db → I { db with rides := t }
  confirmCash : ∀ rideId amount collectedBy transactionId now,
    (Payments.confirmCash rideId amount collectedBy transactionId now).Keeps I
  preparePayment : ∀ r, (Payments.preparePayment r).Keeps I
  createTopup : ∀ r, (Payments.createTopup r).Keeps I
  applyTransactionStatus : ∀ t status providerStatus paidAt nextAction now,
    (Payments.applyTransactionStatus t status providerStatus paidAt nextAction now).Keeps I
  applyTopupStatus : ∀ t status providerStatus paidAt nextAction now,
    (Payments.applyTopupStatus t status providerStatus paidAt nextAction now).Keeps I

namespace KeptThroughout

variable (h : KeptThroughout I)

include h

/-- So it survives callbacks if it survives the record of their events. -/
theorem applyDiddipayWebhook (call : WebhookCall)
    (hev : ∀ e : WebhookEvent, (∀ payload, call.body = some payload → e.id = eventIdOf payload) →
      (recordWebhookEvent e).Keeps I) : (Payments.applyDiddipayWebhook call).Keeps I :=
  routine_keeps.applyDiddipayWebhook h.applyTransactionStatus h.applyTopupStatus h.mark call hev

theorem dispatchWebhook (data : Json) (intentId : Option UUID) (now : DateTime) :
    (Payments.dispatchWebhook data intentId now).Keeps I :=
  routine_keeps.dispatchWebhook h.applyTransactionStatus h.applyTopupStatus h.mark data intentId now

theorem op {op : Op} (hop : op.isRequest)
    (hev : ∀ call, op = .webhook call → (receiveWebhook call).Keeps I) : op.action.Keeps I := by
  cases op with
  | record | reserve | mark | payoutWebhook => cases hop
  | sweepWithdrawals | withdraw | reconcileWithdrawal | quote =>
    exact h.aboutWithdrawals rfl
  | topup r => exact ignore_keeps (h.createTopup r)
  | confirmCash ride amount by' id now => exact ignore_keeps (h.confirmCash ride amount by' id now)
  | prepare r => exact ignore_keeps (h.preparePayment r)
  | webhook call => exact ignore_keeps (hev call rfl)
  | sweep b now =>
    exact ignore_keeps (routine_keeps.reconcilePending h.applyTransactionStatus h.applyTopupStatus
      h.mark b now)
  | reconcileTransaction ride now =>
    exact ignore_keeps (routine_keeps.reconcileTransaction h.applyTransactionStatus ride now)
  | reconcileTopup id now =>
    exact ignore_keeps (routine_keeps.reconcileTopup h.applyTopupStatus id now)

/-- The same for a step of a history. -/
theorem after (hev : ∀ e : WebhookEvent, (recordWebhookEvent e).Keeps I) (c : Call) {db : PaymentDb}
    (hdb : I db) : I (c.after db) := by
  cases c with
  | rides t => exact h.rides db t hdb
  | request op hop ask =>
    refine (h.op hop fun call _ => ?_).run ask hdb
    exact routine_keeps.receiveWebhook h.applyTransactionStatus h.applyTopupStatus h.mark call hev

end KeptThroughout

theorem KeptThroughout.of_rides_topups (hr : KeptByRides I) (ht : KeptByTopups I) :
    KeptThroughout I :=
  { hr.toKept with
    rides := hr.rides
    confirmCash := hr.confirmCash
    preparePayment := hr.preparePayment
    createTopup := ht.createTopup
    applyTransactionStatus := hr.applyTransactionStatus
    applyTopupStatus := ht.applyTopupStatus }

/-- What does not depend on money, transactions and top-ups survives all their requests. -/
theorem KeptThroughout.of_writes (h : Kept I)
    (hrides : ∀ (db : PaymentDb) t, I db → I { db with rides := t })
    (htransactions : ∀ (db : PaymentDb) t, I db → I { db with transactions := t })
    (htopups : ∀ (db : PaymentDb) t, I db → I { db with topups := t })
    (hrec : ∀ e now, e.entryType.isWithdrawal = false → (recordLedgerEntryOnce e now).Keeps I) :
    KeptThroughout I :=
  .of_rides_topups
    { h with
      rides := hrides
      transactions := htransactions
      settle := fun _ _ now e he => hrec e now (entryType_settlementEntry he) }
    { h with
      topups := htopups
      credit := fun _ now => hrec _ now rfl }

end DiddiGo.Payments
