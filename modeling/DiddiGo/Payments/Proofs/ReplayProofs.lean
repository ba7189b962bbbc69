import DiddiGo.Payments.Proofs.FinalityProofs
import DiddiGo.Payments.Finality

/-!
# When reconciliation replays the webhook

Both paths end in the same change of the row and the same entry. They differ in the amounts they refuse
and in the shortcut that reconciliation takes when the row already says what the intent says.
-/

namespace DiddiGo.Payments

open Data (Json Keyed Table)
open Transactions Prog

variable {ask : Query → Answer} {db db' : PaymentDb} {call : WebhookCall} {payload intent : Json}

/-! ## Books -/

namespace SameBooks

theorem refl (db : PaymentDb) : SameBooks db db := ⟨rfl, fun _ => rfl⟩

theorem symm (h : SameBooks db db') : SameBooks db' db := ⟨h.ledger.symm, fun d => (h.balance d).symm⟩

theorem trans {db'' : PaymentDb} (h : SameBooks db db') (h' : SameBooks db' db'') :
    SameBooks db db'' := ⟨h'.ledger.trans h.ledger, fun d => (h'.balance d).trans (h.balance d)⟩

theorem of_eq (hl : db'.ledger = db.ledger) (hw : db'.wallets = db.wallets) : SameBooks db db' :=
  ⟨hl, fun d => by rw [PaymentDb.balance, PaymentDb.balance, hw]⟩

/-- An entry whose key is taken changes nothing. -/
theorem record {e : DriverLedgerEntry} (h : (db.ledger.find? e.ledgerKey).isSome) (now : DateTime) :
    SameBooks db (db.record e now) := by
  unfold PaymentDb.record
  rw [if_pos h]
  exact ⟨rfl, fun d => by simp⟩

end SameBooks

/-- What is recorded depends on the ledger and the wallets only. -/
theorem record_congr {db₁ db₂ : PaymentDb} (hl : db₂.ledger = db₁.ledger)
    (hw : db₂.wallets = db₁.wallets) (e : DriverLedgerEntry) (now : DateTime) :
    (db₂.record e now).ledger = (db₁.record e now).ledger ∧
      (db₂.record e now).wallets = (db₁.record e now).wallets := by
  unfold PaymentDb.record PaymentDb.post PaymentDb.openWallet PaymentDb.insertEntry
    PaymentDb.flushWallet PaymentDb.walletOrNew
  simp only [hl, hw]
  split_ifs <;> exact ⟨rfl, rfl⟩

theorem recordSome_congr {db₁ db₂ : PaymentDb} (hl : db₂.ledger = db₁.ledger)
    (hw : db₂.wallets = db₁.wallets) (e : Option DriverLedgerEntry) (now : DateTime) :
    (db₂.recordSome e now).ledger = (db₁.recordSome e now).ledger ∧
      (db₂.recordSome e now).wallets = (db₁.recordSome e now).wallets := by
  cases e with
  | none => exact ⟨hl, hw⟩
  | some e => exact record_congr hl hw e now

/-- The instant shows in the entry, not in whether there is one. -/
theorem settlementEntry_eq (ride : Rides.Ride) (status : PaymentStatus) (now : DateTime) :
    settlementEntry ride status now =
      (settlementEntry ride status 0).map fun e => { e with createdAt := now } := by
  unfold settlementEntry
  cases ride.driverId with
  | none => rfl
  | some driverId =>
    cases ride.platformCommission with
    | none => rfl
    | some commission =>
      cases ride.driverPayoutEstimate with
      | none => rfl
      | some payout =>
        dsimp only
        split_ifs <;> rfl

section Settle

variable {rideId : UUID} {status : PaymentStatus} {now : DateTime}

/-- A ride that is settled is not settled again. -/
theorem sameBooks_settle (h : RideSettled db rideId status) (now : DateTime) :
    SameBooks db (db.settle rideId status now) := by
  unfold PaymentDb.settle
  cases hride : db.rides.find? rideId with
  | none => exact .refl db
  | some ride =>
    rw [Option.bind_some, settlementEntry_eq]
    cases he : settlementEntry ride status 0 with
    | none => exact .refl db
    | some e =>
      refine SameBooks.record (e := { e with createdAt := now }) ?_ now
      exact h ride e hride he

/-- A ride is settled after it has been settled. -/
theorem rideSettled_settle (db : PaymentDb) (rideId : UUID) (status : PaymentStatus) (now : DateTime) :
    RideSettled (db.settle rideId status now) rideId status := by
  intro ride e hride he
  have hrides : (db.settle rideId status now).rides = db.rides := rides_recordSome _ _ _
  rw [hrides] at hride
  unfold PaymentDb.settle
  rw [hride, Option.bind_some, settlementEntry_eq, he]
  change ((db.record { e with createdAt := now } now).ledger.find? e.ledgerKey).isSome
  rw [find?_record]
  have hkey : ({ e with createdAt := now } : DriverLedgerEntry).ledgerKey = e.ledgerKey := rfl
  rw [if_pos hkey]
  cases db.ledger.find? e.ledgerKey <;> rfl

theorem rideSettled_congr (hl : db'.ledger = db.ledger) (hr : db'.rides = db.rides) :
    RideSettled db' rideId status ↔ RideSettled db rideId status := by
  unfold RideSettled
  rw [hl, hr]

/-- A ride that is not settled gets an entry. -/
theorem rideSettled_of_ledger (h : (db.settle rideId status now).ledger = db.ledger) :
    RideSettled db rideId status :=
  (rideSettled_congr h (rides_recordSome _ _ _)).mp (rideSettled_settle db rideId status now)

variable (providerStatus : String) (paidAt : Option DateTime) (nextAction : Option (Option Json))
  (id : UUID)

/-- A status moves money only by settling the ride. -/
theorem sameBooks_applyStatus (hl : db'.ledger = db.ledger) (hw : db'.wallets = db.wallets)
    (hr : db'.rides = db.rides) : SameBooks (db.settle rideId status now)
      (db'.applyStatus status providerStatus paidAt nextAction now id rideId) := by
  unfold PaymentDb.applyStatus PaymentDb.settle
  have hrides : (db'.updateTransaction id fun t =>
      t.marked status providerStatus paidAt nextAction).rides = db.rides := hr
  rw [hrides]
  obtain ⟨hledger, hwallets⟩ := @recordSome_congr db (db'.updateTransaction id fun t =>
    t.marked status providerStatus paidAt nextAction) hl hw
    ((db.rides.find? rideId).bind fun ride => settlementEntry ride status now) now
  exact .of_eq hledger hwallets

end Settle

/-! ## Acceptance -/

theorem not_truthy_mismatch {j : Json} (h : j.truthy = false) : j = .null ∨ j.toInt? ≠ some (-1) := by
  cases j with
  | null => exact Or.inl rfl
  | bool b =>
    right
    cases b
    · decide
    · cases h
  | int n =>
    right
    have hn : n = 0 := by simpa [Json.truthy] using h
    rw [hn]
    decide
  | float q text =>
    right
    have hq : q = 0 := by simpa [Json.truthy] using h
    rw [hq]
    simp [Json.toInt?]
  | str s =>
    right
    have hs : s = "" := by simpa [Json.truthy] using h
    rw [hs]
    decide
  | arrNil => exact Or.inr (by decide)
  | arrCons => cases h
  | objNil => exact Or.inr (by decide)
  | objCons => cases h

/-- What a callback may say of a row, reconciliation accepts exactly if the amount is not empty. -/
theorem intentMismatchReason_iff {data : Json} {amount : Decimal} {currency : String}
    {reference : Option String} (hsame : SameIntent data intent)
    (h : CallbackMatches data amount currency reference) :
    intentMismatchReason intent amount currency reference = none ↔
      (data.get "amount").truthy = true := by
  obtain ⟨hamount, hcurrency, href⟩ := h
  unfold intentMismatchReason
  rw [hsame.amount, hsame.currency, hsame.reference, hcurrency, href]
  constructor
  · intro hnone
    by_contra hfalsy
    have hfalsy' : (data.get "amount").truthy = false := by simpa using hfalsy
    have hminus : some (-1) = some (Decimal.toInt amount) := by
      rw [Json.or, hfalsy'] at hamount
      exact hamount
    by_cases hnull : data.get "amount" = .null
    · rw [if_pos (Or.inl hnull)] at hnone
      cases hnone
    · have hne := (not_truthy_mismatch hfalsy').resolve_left hnull
      rw [if_neg (by simp [hnull])] at hnone
      cases hint : (data.get "amount").toInt? with
      | none =>
        rw [hint] at hnone
        cases hnone
      | some n =>
        rw [hint] at hnone
        dsimp only at hnone
        rw [if_pos] at hnone
        · cases hnone
        · left
          rintro rfl
          exact hne (hint.trans hminus.symm)
  · intro htruthy
    have hint : (data.get "amount").toInt? = some (Decimal.toInt amount) := by
      rw [Json.or, htruthy] at hamount
      exact hamount
    have hne : ¬ (data.get "amount" = .null ∨ Json.str currency = .null) := by
      rintro (hnull | hnull)
      · rw [hnull] at htruthy
        cases htruthy
      · cases hnull
    rw [if_neg hne, hint]
    dsimp only
    rw [if_neg (by simp [Json.toStr])]
    cases reference with
    | none => rfl
    | some ref => simp

theorem ensures_applyPayoutWebhook_result (data : Json) (payoutId : UUID) (now : DateTime) :
    Ensures ask (fun _ => True) (applyPayoutWebhook data payoutId now)
      fun r _ => r = .payout payoutId := by
  refine (Ensures.trivial _).bind fun o => ?_
  cases o with
  | none => exact .raise
  | some w =>
    exact (Ensures.trivial _).bind fun _ => (Ensures.trivial _).bind fun _ =>
      (Ensures.trivial _).bind fun _ => .ret fun _ _ => rfl

theorem ensures_dispatchWebhook (data : Json) (intentId : Option UUID) (now : DateTime) :
    Ensures ask (· = db) (dispatchWebhook data intentId now) fun r db' =>
      (∃ id, r = .payout id) ∨ (data.get "payout_id").truthy = false ∧
        ∃ id, intentId = some id ∧ CallbackEffect db data id now r db' := by
  refine (ensures_optionalUuid _).bind fun payoutId => .assuming fun hpayout => ?_
  cases payoutId with
  | some id =>
    exact (ensures_applyPayoutWebhook_result data id now).mono (fun _ _ => trivial)
      fun r _ hr => Or.inl ⟨id, hr⟩
  | none =>
    cases intentId with
    | none => exact .raise
    | some id =>
      exact (ensures_applyIntentWebhook data id now).mono (fun _ h => h)
        fun r db' h => Or.inr ⟨hpayout rfl, id, rfl, h⟩

/-- What a callback about a payment intent has done once it is accepted. -/
structure Accepted (call : WebhookCall) (db : PaymentDb) (data : Json) (event : WebhookEvent)
    (intentId : UUID) : Prop where
  envelope : call.envelope = .ok (data, event)
  new : ¬ Received event.id db
  noPayout : (data.get "payout_id").truthy = false
  intent : event.paymentIntentId = some intentId

theorem accepted_of_ok {r : WebhookResult} (h : ((applyDiddipayWebhook call).run ask db).1 = .ok r)
    (hdup : r ≠ .duplicate) (hpayout : ∀ id, r ≠ .payout id) :
    ∃ data event intentId, Accepted call db data event intentId ∧
      CallbackEffect (db.recordEvent event) data intentId call.now r (call.leaves ask db) := by
  unfold WebhookCall.leaves
  cases henv : call.envelope with
  | error e =>
    rw [run_refused ask henv] at h
    cases h
  | ok p =>
    obtain ⟨data, event⟩ := p
    by_cases hrec : Received event.id db
    · rw [run_duplicate ask henv hrec] at h
      exact absurd (Except.ok.inj h).symm hdup
    · have hnone : db.webhookEvents.find? event.id = none := by simpa [Received] using hrec
      have hexec := exec_new ask henv hnone
      rcases he : (applyDiddipayWebhook call).exec ask db db with ⟨e | r', base', cur'⟩
      · rw [run_of_error _ he] at h
        cases h
      · rw [run_of_ok _ he] at h ⊢
        obtain rfl := Except.ok.inj h
        rw [he] at hexec
        have hdispatch := @ensures_dispatchWebhook ask (db.recordEvent event) data
          event.paymentIntentId call.now db (db.recordEvent event) rfl r'
        rw [← hexec] at hdispatch
        rcases hdispatch rfl with ⟨id, hid⟩ | ⟨hfalsy, id, hid, heffect⟩
        · exact absurd hid (hpayout id)
        · exact ⟨data, event, id, ⟨henv, hrec, hfalsy, hid⟩, heffect⟩

theorem data_of_envelope {data : Json} {event : WebhookEvent}
    (h : call.envelope = .ok (data, event)) (hbody : call.body = some payload) :
    data = payload.get "data" := by
  unfold WebhookCall.envelope at h
  rw [hbody] at h
  dsimp only at h
  split_ifs at h
  · cases hid : UUID.ofString ((payload.get "data").get "payment_intent_id").toStr with
    | none =>
      rw [hid] at h
      cases h
    | some id =>
      rw [hid] at h
      exact (Prod.mk.inj (Except.ok.inj h)).1.symm
  · exact (Prod.mk.inj (Except.ok.inj h)).1.symm

/-! ## Transactions -/

section Transactions

variable {intentId : UUID} {t : Transaction} {status : PaymentStatus} {data : Json}
  {event : WebhookEvent}

theorem accepts_of_returns {p : Action ReconciliationReport} {report : ReconciliationReport}
    (h : Returns ask db p report db') (hm : report.mismatched = 0) (hn : report.missing = 0)
    (he : report.errors = 0) : Accepts (p.run ask db).1 := by
  rw [h.run]
  exact ⟨report, rfl, hm, hn, he⟩

/-- The status, next action and settlement that an applied status leaves behind. -/
theorem rideSettled_applyStatus (providerStatus : String) (paidAt : Option DateTime)
    (nextAction : Option (Option Json)) (now : DateTime) (id rideId : UUID) :
    RideSettled (db.applyStatus status providerStatus paidAt nextAction now id rideId) rideId status :=
  rideSettled_settle _ _ _ _

theorem transactionsWith_update (h : db.transactionsWith intentId = [t])
    (f : Transaction → Transaction) (hf : ∀ t, Keyed.key (f t) = Keyed.key t)
    (hintent : ∀ t, (f t).paymentIntentId = t.paymentIntentId) :
    (db.updateTransaction t.id f hf).transactionsWith intentId = [f t] := by
  have hrows : (db.updateTransaction t.id f hf).transactionsWith intentId =
      (db.transactionsWith intentId).map fun r => if Keyed.key r = t.id then f r else r := by
    unfold PaymentDb.transactionsWith PaymentDb.updateTransaction Table.update
    dsimp only
    rw [List.filter_map]
    congr 1
    refine List.filter_congr fun r _ => ?_
    dsimp only [Function.comp]
    split_ifs
    · rw [hintent]
    · rfl
  rw [hrows, h]
  simp [Keyed.key]

theorem transactionsWith_applyStatus (h : db.transactionsWith intentId = [t])
    (providerStatus : String) (paidAt : Option DateTime) (nextAction : Option (Option Json))
    (now : DateTime) (rideId : UUID) :
    (db.applyStatus status providerStatus paidAt nextAction now t.id rideId).transactionsWith intentId =
      [t.marked status providerStatus paidAt nextAction] := by
  have htable : (db.applyStatus status providerStatus paidAt nextAction now t.id
      rideId).transactions = (db.updateTransaction t.id fun t =>
        t.marked status providerStatus paidAt nextAction).transactions := transactions_recordSome _ _ _
  have hupdate := transactionsWith_update h
    (fun t => t.marked status providerStatus paidAt nextAction) (fun _ => rfl) fun _ => rfl
  unfold PaymentDb.transactionsWith at hupdate ⊢
  rw [htable]
  exact hupdate

/-- Once the ride is settled, reconciliation moves no money. -/
theorem sameBooks_reconcile (hans : Answers ask t.paymentIntentId intent)
    (hmatch : intentMismatchReason intent t.amount t.currency t.businessReference = none)
    (hstatus : intentStatus intent = some status) (ht : db.transactions.find? t.id = some t)
    (hsettled : RideSettled db t.rideId status) (now : DateTime) :
    SameBooks db ((reconcileStaleTransaction t now {}).run ask db).2 := by
  by_cases hsame : status = t.status ∧ nextActionFromIntent intent = t.providerNextAction
  · rw [(returns_reconcileUnchanged hans hmatch hstatus hsame now {}).run]
    exact .refl db
  · rw [(returns_reconcileUpdated hans hmatch hstatus hsame ht now {}).run]
    exact (sameBooks_settle hsettled now).trans (sameBooks_applyStatus _ _ _ _ rfl rfl rfl)

/-- What the callback leaves behind. -/
theorem leaves_of_ride (hacc : Accepted call db data event intentId)
    (hrows : db.transactionsWith intentId = [t]) (hstatus : intentStatus data = some status)
    (hmatch : CallbackMatches data t.amount t.currency t.businessReference) :
    call.leaves ask db = (db.recordEvent event).applyStatus status (providerStatusOf data)
      (paidAtOf status call.now) none call.now t.id t.rideId := by
  have heffect : CallbackEffect (db.recordEvent event) data intentId call.now _ _ :=
    .ride hrows hstatus hmatch
  unfold WebhookCall.leaves
  rw [(returns_applyDiddipayWebhook hacc.envelope hacc.new hacc.noPayout hacc.intent heffect).run]

theorem sameBooks_leaves (hacc : Accepted call db data event intentId)
    (hrows : db.transactionsWith intentId = [t]) (hstatus : intentStatus data = some status)
    (hmatch : CallbackMatches data t.amount t.currency t.businessReference) :
    SameBooks (db.settle t.rideId status call.now) (call.leaves ask db) := by
  rw [leaves_of_ride hacc hrows hstatus hmatch]
  exact sameBooks_applyStatus _ _ _ _ rfl rfl rfl

theorem Accepted.later (h : Accepted call db data event intentId) (now : DateTime)
    (hev : db'.webhookEvents = db.webhookEvents) :
    Accepted { call with now := now } db' data event intentId where
  envelope := h.envelope
  new := by
    unfold Received
    rw [hev]
    exact h.new
  noPayout := h.noPayout
  intent := h.intent

/-- Reconciliation replays the callback about a transaction exactly if the amount is not empty, and the
ride is settled in case the row already says what the intent says. -/
theorem replaysTransaction_iff (hacc : Accepted call db data event intentId)
    (hrows : db.transactionsWith intentId = [t]) (hstatus : intentStatus data = some status)
    (hmatch : CallbackMatches data t.amount t.currency t.businessReference)
    (hsame : SameIntent data intent) (hask : ask (.getPaymentIntent intentId) = .ok intent) :
    ReplaysTransaction ask call db t ↔ (data.get "amount").truthy = true ∧
      (t.Agrees intent → RideSettled db t.rideId t.status) := by
  obtain ⟨ht, hintent⟩ := find?_of_transactionsWith hrows
  have hans : Answers ask t.paymentIntentId intent := ⟨intentId, hintent, hask⟩
  have hstatus' : intentStatus intent = some status := by
    unfold intentStatus providerStatusOf
    rw [hsame.status]
    exact hstatus
  have hmoney := intentMismatchReason_iff hsame hmatch
  have hleaves : SameBooks (db.settle t.rideId status call.now) (call.leaves ask db) :=
    sameBooks_leaves hacc hrows hstatus hmatch
  constructor
  · intro h
    have hmatch' : intentMismatchReason intent t.amount t.currency t.businessReference = none := by
      by_contra hne
      obtain ⟨report, hreport, hzero, -, -⟩ := h.accepts
      rw [(returns_reconcileMismatched hans (ne_null_of_status hstatus') hne call.now {}).run] at hreport
      obtain rfl := Except.ok.inj hreport
      cases hzero
    refine ⟨hmoney.mp hmatch', fun ⟨hagree, hnext⟩ => ?_⟩
    have hst : status = t.status := Option.some.inj (hstatus'.symm.trans hagree)
    have hbooks := h.books
    rw [(returns_reconcileUnchanged hans hmatch' hstatus' ⟨hst, hnext⟩ call.now {}).run] at hbooks
    rw [← hst]
    exact rideSettled_of_ledger (hbooks.ledger.trans hleaves.ledger).symm
  · rintro ⟨htruthy, hsettled⟩
    have hmatch' := hmoney.mpr htruthy
    have hleft : call.leaves ask db = _ := leaves_of_ride hacc hrows hstatus hmatch
    have hrowLeft : (call.leaves ask db).transactions.find? t.id =
        some (t.marked status (providerStatusOf data) (paidAtOf status call.now) none) := by
      rw [hleft]
      have hrow : (db.recordEvent event).transactions.find? t.id = some t := ht
      exact find?_applyStatus hrow _ _ _ _ _ _
    have hwebhookFirst : ∀ t', (call.leaves ask db).transactions.find? t.id = some t' → ∀ later,
        SameBooks (call.leaves ask db)
          ((reconcileStaleTransaction t' later {}).run ask (call.leaves ask db)).2 := by
      intro t' ht' later
      obtain rfl := Option.some.inj (hrowLeft.symm.trans ht')
      refine sameBooks_reconcile (t := t.marked _ _ _ _) hans hmatch' hstatus' hrowLeft ?_ later
      rw [hleft]
      exact rideSettled_applyStatus _ _ _ _ _ _
    by_cases hagree : status = t.status ∧ nextActionFromIntent intent = t.providerNextAction
    · have hsettled' : RideSettled db t.rideId status := by
        rw [hagree.1]
        exact hsettled ⟨hstatus'.trans (congrArg some hagree.1), hagree.2⟩
      have hrun : (reconcileStaleTransaction t call.now {}).run ask db = _ :=
        (returns_reconcileUnchanged hans hmatch' hstatus' hagree call.now {}).run
      have hrunLater : ∀ later, SameBooks db (({ call with now := later } : WebhookCall).leaves ask db) :=
        fun later => (sameBooks_settle hsettled' later).trans
          (sameBooks_leaves (hacc.later later rfl) hrows hstatus hmatch)
      refine ⟨?_, ?_, ?_, hwebhookFirst, ?_⟩
      · rw [hrun]
        exact ⟨_, rfl, rfl, rfl, rfl⟩
      · rw [hrun, hrowLeft, ht]
        exact congrArg some hagree.1.symm
      · rw [hrun]
        exact (hrunLater call.now).symm
      · rw [hrun]
        exact hrunLater
    · have hrun := (returns_reconcileUpdated hans hmatch' hstatus' hagree ht call.now {}).run
      refine ⟨?_, ?_, ?_, hwebhookFirst, ?_⟩
      · rw [hrun]
        exact ⟨_, rfl, rfl, rfl, rfl⟩
      · rw [hrun, hrowLeft]
        dsimp only
        rw [find?_applyStatus ht]
        rfl
      · rw [hrun]
        exact hleaves.symm.trans (sameBooks_applyStatus _ _ _ _ rfl rfl rfl)
      · intro later
        rw [hrun]
        have hsettled' : RideSettled (db.applyStatus status (providerStatusOf intent)
            (paidAtOf status call.now) (some (nextActionFromIntent intent)) call.now t.id t.rideId)
            t.rideId status := rideSettled_applyStatus _ _ _ _ _ _
        have hacc' := hacc.later later (webhookEvents_applyStatus db status (providerStatusOf intent)
          (paidAtOf status call.now) (some (nextActionFromIntent intent)) call.now t.id t.rideId)
        exact (sameBooks_settle hsettled' later).trans (sameBooks_leaves (t := t.marked _ _ _ _) hacc'
          (transactionsWith_applyStatus hrows _ _ _ _ _) hstatus hmatch)

end Transactions

/-! ## Top-ups -/

section Topups

variable {intentId : UUID} {t : DriverTopup} {status : PaymentStatus} {data : Json}
  {event : WebhookEvent}

/-- A top-up that has been credited is not credited again. -/
theorem sameBooks_credited (h : TopupSettled db t t.status) (now : DateTime) :
    SameBooks db (db.credit t now) := by
  unfold PaymentDb.credit
  split_ifs with hs
  · exact .record (h hs) now
  · exact .refl db

section Mark

variable (hl : db'.ledger = db.ledger) (hw : db'.wallets = db.wallets) (ts : TopupStatus)
  (providerStatus : String) (paidAt : Option DateTime) (nextAction : Option (Option Json))
  (now : DateTime)

include hl hw

/-- A credit depends on the books and on the status of the top-up. -/
theorem sameBooks_mark (t : DriverTopup) : SameBooks (db.credit { t with status := ts } now)
    (db'.credit (t.marked ts providerStatus paidAt nextAction) now) := by
  unfold PaymentDb.credit
  have hstatus : (t.marked ts providerStatus paidAt nextAction).status = ts := rfl
  rw [hstatus]
  by_cases hs : ts = .succeeded
  · obtain ⟨hledger, hwallets⟩ := record_congr hl hw (topupEntry t now) now
    rw [if_pos hs, if_pos hs]
    exact .of_eq hledger hwallets
  · rw [if_neg hs, if_neg hs]
    exact .of_eq hl hw

theorem sameBooks_marked (h : TopupSettled db t ts) :
    SameBooks db (db'.credit (t.marked ts providerStatus paidAt nextAction) now) := by
  have hcredited : SameBooks db (db.credit { t with status := ts } now) := sameBooks_credited h now
  exact hcredited.trans (sameBooks_mark hl hw ts providerStatus paidAt nextAction now t)

end Mark

theorem topupSettled_credit (db : PaymentDb) (t : DriverTopup) (now : DateTime) :
    TopupSettled (db.credit t now) t t.status := by
  intro hs
  rw [find?_credit, if_pos ⟨hs, rfl⟩]
  cases db.ledger.find? t.creditKey <;> rfl

theorem topupSettled_of_ledger {now : DateTime} (h : (db.credit t now).ledger = db.ledger) :
    TopupSettled db t t.status := by
  intro hs
  have hcredit := topupSettled_credit db t now hs
  rwa [h] at hcredit

theorem topupsWith_mark (h : db.topupsWith intentId = [t]) (ts : TopupStatus)
    (providerStatus : String) (paidAt : Option DateTime) (nextAction : Option (Option Json))
    (x : DriverTopup) (now : DateTime) :
    ((db.markTopup t.id ts providerStatus paidAt nextAction).credit x now).topupsWith intentId =
      [t.marked ts providerStatus paidAt nextAction] := by
  have hrows : (db.markTopup t.id ts providerStatus paidAt nextAction).topupsWith intentId =
      (db.topupsWith intentId).map fun r =>
        if Keyed.key r = t.id then r.marked ts providerStatus paidAt nextAction else r := by
    unfold PaymentDb.topupsWith PaymentDb.markTopup Table.update
    dsimp only
    rw [List.filter_map]
    congr 1
    refine List.filter_congr fun r _ => ?_
    dsimp only [Function.comp]
    split_ifs <;> rfl
  have htable : ((db.markTopup t.id ts providerStatus paidAt nextAction).credit x now).topupsWith
      intentId = (db.markTopup t.id ts providerStatus paidAt nextAction).topupsWith intentId := by
    unfold PaymentDb.topupsWith
    rw [topups_credit]
  rw [htable, hrows, h]
  simp [Keyed.key]

/-- Once the top-up is credited, reconciliation moves no money. -/
theorem sameBooks_reconcileTopup (hans : Answers ask t.paymentIntentId intent)
    (hmatch : intentMismatchReason intent t.amount t.currency t.businessReference = none)
    (hstatus : intentStatus intent = some status) (ht : db.topups.find? t.id = some t)
    (hsettled : TopupSettled db t (topupStatusFromPaymentStatus status)) (now : DateTime) :
    SameBooks db ((reconcileStaleTopup t now {}).run ask db).2 := by
  by_cases hsame : topupStatusFromPaymentStatus status = t.status ∧
      nextActionFromIntent intent = t.providerNextAction
  · rw [(returns_reconcileTopupUnchanged hans hmatch hstatus hsame now {}).run]
    exact .refl db
  · rw [(returns_reconcileTopupUpdated hans hmatch hstatus hsame ht now {}).run]
    exact sameBooks_marked (by rfl) (by rfl) _ _ _ _ _ hsettled

/-- What the callback leaves behind. -/
theorem leaves_of_topup (hacc : Accepted call db data event intentId)
    (hnone : db.transactionsWith intentId = []) (hrows : db.topupsWith intentId = [t])
    (hstatus : intentStatus data = some status)
    (hmatch : CallbackMatches data t.amount t.currency t.businessReference) :
    call.leaves ask db = ((db.recordEvent event).markTopup t.id (topupStatusFromPaymentStatus status)
      (providerStatusOf data) (paidAtOf status call.now) none).credit
        (t.marked (topupStatusFromPaymentStatus status) (providerStatusOf data)
          (paidAtOf status call.now) none) call.now := by
  have heffect : CallbackEffect (db.recordEvent event) data intentId call.now _ _ :=
    .topup hnone hrows hstatus hmatch
  unfold WebhookCall.leaves
  rw [(returns_applyDiddipayWebhook hacc.envelope hacc.new hacc.noPayout hacc.intent heffect).run]

/-- A credited top-up is not credited again by the callback. -/
theorem sameBooks_leavesTopup (hacc : Accepted call db data event intentId)
    (hnone : db.transactionsWith intentId = []) (hrows : db.topupsWith intentId = [t])
    (hstatus : intentStatus data = some status)
    (hmatch : CallbackMatches data t.amount t.currency t.businessReference)
    (hsettled : TopupSettled db t (topupStatusFromPaymentStatus status)) :
    SameBooks db (call.leaves ask db) := by
  rw [leaves_of_topup hacc hnone hrows hstatus hmatch]
  exact sameBooks_marked (by rfl) (by rfl) _ _ _ _ _ hsettled

/-- Reconciliation replays the callback about a top-up exactly if the amount is not empty, and the top-up
is credited in case the row already says what the intent says. -/
theorem replaysTopup_iff (hacc : Accepted call db data event intentId)
    (hnone : db.transactionsWith intentId = []) (hrows : db.topupsWith intentId = [t])
    (hstatus : intentStatus data = some status)
    (hmatch : CallbackMatches data t.amount t.currency t.businessReference)
    (hsame : SameIntent data intent) (hask : ask (.getPaymentIntent intentId) = .ok intent) :
    ReplaysTopup ask call db t ↔ (data.get "amount").truthy = true ∧
      (t.Agrees intent → TopupSettled db t t.status) := by
  obtain ⟨ht, hintent⟩ := find?_of_topupsWith hrows
  have hans : Answers ask t.paymentIntentId intent := ⟨intentId, hintent, hask⟩
  have hstatus' : intentStatus intent = some status := by
    unfold intentStatus providerStatusOf
    rw [hsame.status]
    exact hstatus
  have hmoney := intentMismatchReason_iff hsame hmatch
  have hleft : call.leaves ask db = _ := leaves_of_topup hacc hnone hrows hstatus hmatch
  constructor
  · intro h
    have hmatch' : intentMismatchReason intent t.amount t.currency t.businessReference = none := by
      by_contra hne
      obtain ⟨report, hreport, hzero, -, -⟩ := h.accepts
      rw [(returns_reconcileTopupMismatched hans (ne_null_of_status hstatus') hne call.now {}).run]
        at hreport
      obtain rfl := Except.ok.inj hreport
      cases hzero
    refine ⟨hmoney.mp hmatch', fun ⟨hagree, hnext⟩ => ?_⟩
    have hst : topupStatusFromPaymentStatus status = t.status := by
      rw [hstatus'] at hagree
      exact Option.some.inj hagree
    have hbooks := h.books
    rw [(returns_reconcileTopupUnchanged hans hmatch' hstatus' ⟨hst, hnext⟩ call.now {}).run, hleft]
      at hbooks
    have hcredit : SameBooks db
        (db.credit { t with status := topupStatusFromPaymentStatus status } call.now) :=
      hbooks.symm.trans (sameBooks_mark (by rfl) (by rfl) _ _ _ _ _ t).symm
    have hsettled : TopupSettled db { t with status := topupStatusFromPaymentStatus status }
        (topupStatusFromPaymentStatus status) := topupSettled_of_ledger hcredit.ledger
    rw [← hst]
    exact hsettled
  · rintro ⟨htruthy, hsettled⟩
    have hmatch' := hmoney.mpr htruthy
    have hrowLeft : (call.leaves ask db).topups.find? t.id = some (t.marked
        (topupStatusFromPaymentStatus status) (providerStatusOf data) (paidAtOf status call.now)
        none) := by
      have hrow : (db.recordEvent event).topups.find? t.id = some t := ht
      rw [hleft, topups_credit, find?_markTopup, if_pos rfl, hrow]
      rfl
    have hwebhookFirst : ∀ t', (call.leaves ask db).topups.find? t.id = some t' → ∀ later,
        SameBooks (call.leaves ask db)
          ((reconcileStaleTopup t' later {}).run ask (call.leaves ask db)).2 := by
      intro t' ht' later
      obtain rfl := Option.some.inj (hrowLeft.symm.trans ht')
      refine sameBooks_reconcileTopup (t := t.marked _ _ _ _) hans hmatch' hstatus' hrowLeft ?_ later
      rw [hleft]
      exact topupSettled_credit _ (t.marked _ _ _ _) _
    by_cases hagree : topupStatusFromPaymentStatus status = t.status ∧
        nextActionFromIntent intent = t.providerNextAction
    · have hsettled' : TopupSettled db t (topupStatusFromPaymentStatus status) := by
        rw [hagree.1]
        refine hsettled ⟨?_, hagree.2⟩
        rw [hstatus']
        exact congrArg some hagree.1
      have hrun : (reconcileStaleTopup t call.now {}).run ask db = _ :=
        (returns_reconcileTopupUnchanged hans hmatch' hstatus' hagree call.now {}).run
      have hrunLater : ∀ later, SameBooks db (({ call with now := later } : WebhookCall).leaves ask db) :=
        fun later => sameBooks_leavesTopup (hacc.later later rfl) hnone hrows hstatus hmatch hsettled'
      refine ⟨?_, ?_, ?_, hwebhookFirst, ?_⟩
      · rw [hrun]
        exact ⟨_, rfl, rfl, rfl, rfl⟩
      · rw [hrun, hrowLeft, ht]
        exact congrArg some hagree.1.symm
      · rw [hrun]
        exact (hrunLater call.now).symm
      · rw [hrun]
        exact hrunLater
    · have hrun := (returns_reconcileTopupUpdated hans hmatch' hstatus' hagree ht call.now {}).run
      refine ⟨?_, ?_, ?_, hwebhookFirst, ?_⟩
      · rw [hrun]
        exact ⟨_, rfl, rfl, rfl, rfl⟩
      · rw [hrun, hrowLeft]
        dsimp only
        rw [topups_credit, find?_markTopup, if_pos rfl, ht]
        rfl
      · rw [hrun, hleft]
        exact (sameBooks_mark (by rfl) (by rfl) _ _ _ _ _ t).symm.trans (sameBooks_mark (by rfl) (by rfl) _ _ _ _ _ t)
      · intro later
        rw [hrun]
        have hacc' := hacc.later later (webhookEvents_credit (db.markTopup t.id
          (topupStatusFromPaymentStatus status) (providerStatusOf intent)
          (if topupStatusFromPaymentStatus status = .succeeded then some call.now else none)
          (some (nextActionFromIntent intent))) (t.marked (topupStatusFromPaymentStatus status)
            (providerStatusOf intent)
            (if topupStatusFromPaymentStatus status = .succeeded then some call.now else none)
            (some (nextActionFromIntent intent))) call.now)
        refine sameBooks_leavesTopup (t := t.marked _ _ _ _) hacc' ?_ (topupsWith_mark hrows _ _ _ _ _ _)
          hstatus hmatch (topupSettled_credit _ (t.marked _ _ _ _) _)
        unfold PaymentDb.transactionsWith
        rw [transactions_credit]
        exact hnone

end Topups

/-- The payment intent of the ride, as DiddiPay shows it and as its callback reports it. -/
def succeededIntent : Json :=
  .ofMembers [("id", .str "5"), ("payment_intent_id", .str "5"), ("status", .str "succeeded"),
    ("amount", .int 1000), ("currency", .str "XOF"), ("business_reference", .str "diddigo:ride:1")]

/-- DiddiPay shows that intent. -/
def showingIntent : Query → Answer := fun _ => .ok succeededIntent

/-- The callback about it. -/
def succeededCallback : WebhookCall where
  secretConfigured := true
  signatureValid := true
  body := some (.ofMembers [("id", .str "e1"), ("data", succeededIntent)])
  eventIdHeader := some "e1"
  now := 2

end DiddiGo.Payments
