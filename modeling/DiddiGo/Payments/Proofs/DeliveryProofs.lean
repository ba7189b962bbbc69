import DiddiGo.Payments.Proofs.CallsProofs

/-!
# Deliveries of callbacks

A callback is one transaction: it records its event and takes effect, or it leaves no trace. A recorded
event stays recorded, and its callback does nothing when it is delivered again.
-/

namespace DiddiGo.Payments

open Data (Json Keyed Table)
open Transactions Prog

/-! ## One transaction -/

theorem routine_atomic : Routine fun p => Atomic p where
  ret _ := trivial
  raise _ := trivial
  bind hp hf := hp.bind hf
  select _ := fun _ => trivial
  ask _ _ := fun _ => trivial

theorem transactions_atomic : WritesTransactions fun p => Atomic p :=
  ⟨fun _ _ _ => trivial, fun rs taken _ e => @Atomic.writeOrRaise sig rs taken _ e⟩

theorem topups_atomic : WritesTopups fun p => Atomic p :=
  ⟨fun _ _ _ => trivial, fun rs taken _ e => @Atomic.writeOrRaise sig rs taken _ e⟩

theorem atomic_insertOnce (r : Row) (taken : PaymentDb → Bool) (ins : PaymentDb → PaymentDb) :
    Atomic (Prog.insertOnce (S := sig) r taken ins) := fun _ => trivial

theorem atomic_getOrCreateWallet (d : UUID) (currency : String) :
    Atomic (getOrCreateWallet d currency) := by
  refine Atomic.bind (fun _ => trivial) fun o => ?_
  cases o with
  | some w => exact trivial
  | none =>
    exact (atomic_insertOnce _ _ _).bind fun _ => Atomic.bind (fun _ => trivial) fun _ =>
      routine_atomic.getOrRaise _ _

theorem atomic_recordLedgerEntryOnce (e : DriverLedgerEntry) (now : DateTime) :
    Atomic (recordLedgerEntryOnce e now) := by
  refine (atomic_getOrCreateWallet _ _).bind fun _ => (atomic_insertOnce _ _ _).bind fun inserted => ?_
  by_cases hi : (!inserted) = true
  · rw [if_pos hi]
    exact trivial
  rw [if_neg hi]
  refine Atomic.bind (fun _ => trivial) fun o => (routine_atomic.getOrRaise _ _).bind fun w => ?_
  split_ifs
  · exact Atomic.bind (fun _ => trivial) fun _ => trivial
  · exact trivial

theorem atomic_markWithdrawalProviderState (id : UUID) (p : ProviderState) (now : DateTime) :
    Atomic (markWithdrawalProviderState id p now) := by
  refine Atomic.bind (fun _ => trivial) fun o => ?_
  cases o with
  | none => exact trivial
  | some w =>
    dsimp only
    by_cases hfinal : w.status = .succeeded ∨ w.status = .released
    · rw [if_pos hfinal]
      exact trivial
    rw [if_neg hfinal]
    refine (Atomic.writeOrRaise _ _ _ _).bind fun _ => ?_
    by_cases hs : storedStatus p.status = .succeeded
    · rw [if_pos hs]
      exact (atomic_insertOnce _ _ _).bind fun _ => trivial
    rw [if_neg hs]
    by_cases hr : storedStatus p.status = .released
    · rw [if_pos hr]
      refine (atomic_insertOnce _ _ _).bind fun inserted => ?_
      by_cases hi : inserted = true
      · rw [if_pos hi]
        exact Atomic.bind (fun _ => trivial) fun _ => (routine_atomic.getOrRaise _ _).bind fun _ =>
          Atomic.bind (fun _ => trivial) fun _ => trivial
      · rw [if_neg hi]
        exact trivial
    · rw [if_neg hr]
      exact trivial

theorem atomic_applyTransactionStatus (t : Transaction) (status : PaymentStatus)
    (providerStatus : String) (paidAt : Option DateTime) (nextAction : Option (Option Json))
    (now : DateTime) :
    Atomic (applyTransactionStatus t status providerStatus paidAt nextAction now) :=
  routine_atomic.applyTransactionStatus transactions_atomic
    (fun _ _ _ e _ => atomic_recordLedgerEntryOnce e _) _ _ _ _ _ _

theorem atomic_applyTopupStatus (t : DriverTopup) (status : TopupStatus) (providerStatus : String)
    (paidAt : Option DateTime) (nextAction : Option (Option Json)) (now : DateTime) :
    Atomic (applyTopupStatus t status providerStatus paidAt nextAction now) :=
  routine_atomic.applyTopupStatus topups_atomic (fun _ _ => atomic_recordLedgerEntryOnce _ _)
    _ _ _ _ _ _

theorem atomic_applyDiddipayWebhook (call : WebhookCall) : Atomic (applyDiddipayWebhook call) :=
  routine_atomic.applyDiddipayWebhook atomic_applyTransactionStatus atomic_applyTopupStatus
    atomic_markWithdrawalProviderState call fun _ _ => atomic_insertOnce _ _ _

/-! ## The record of events -/

/-- A callback is refused at sight, or records its event and takes effect if the event is new. -/
theorem applyDiddipayWebhook_eq (call : WebhookCall) :
    applyDiddipayWebhook call =
      match call.envelope with
      | .error e => .raise e
      | .ok (data, event) => recordWebhookEvent event >>= fun stored =>
          if !stored then .ret .duplicate
          else dispatchWebhook data event.paymentIntentId call.now := by
  unfold applyDiddipayWebhook WebhookCall.envelope callbackInvalidIf apiErrorIf raiseIf eventIdOf
  by_cases hsecret : (!call.secretConfigured) = true
  · rw [if_pos hsecret, if_pos hsecret]
    rfl
  rw [if_neg hsecret, if_neg hsecret]
  by_cases hsig : (!call.signatureValid) = true
  · rw [if_pos hsig, if_pos hsig]
    rfl
  rw [if_neg hsig, if_neg hsig]
  cases call.body with
  | none => rfl
  | some payload =>
    dsimp only
    by_cases hobj : (!payload.isObject) = true
    · rw [if_pos hobj, if_pos hobj]
      rfl
    rw [if_neg hobj, if_neg hobj]
    generalize ((payload.get "id").or (.str "")).toStr = eventId
    by_cases hid : eventId = "" ∨ call.eventIdHeader ≠ some eventId
    · rw [if_pos hid, if_pos hid]
      rfl
    rw [if_neg hid, if_neg hid]
    by_cases hdata : (!(payload.get "data").isObject) = true
    · rw [if_pos hdata, if_pos hdata]
      rfl
    rw [if_neg hdata, if_neg hdata]
    unfold optionalUuid
    by_cases hintent : ((payload.get "data").get "payment_intent_id").truthy = true
    · rw [if_pos hintent, if_pos hintent]
      unfold uuidOf
      cases UUID.ofString ((payload.get "data").get "payment_intent_id").toStr with
      | none => rfl
      | some id => rfl
    · rw [if_neg hintent, if_neg hintent]
      rfl

theorem eventId_of_envelope {call : WebhookCall} {data : Json} {event : WebhookEvent}
    (h : call.envelope = .ok (data, event)) : call.eventId = some event.id := by
  unfold WebhookCall.envelope at h
  unfold WebhookCall.eventId
  cases hb : call.body with
  | none =>
    rw [hb] at h
    split_ifs at h
  | some payload =>
    rw [hb] at h
    dsimp only at h
    split_ifs at h
    · cases hid : UUID.ofString ((payload.get "data").get "payment_intent_id").toStr with
      | none =>
        rw [hid] at h
        cases h
      | some id =>
        rw [hid] at h
        obtain ⟨-, rfl⟩ := Prod.mk.inj (Except.ok.inj h)
        rfl
    · obtain ⟨-, rfl⟩ := Prod.mk.inj (Except.ok.inj h)
      rfl

/-! ## Events -/

theorem webhookEvents_post (db : PaymentDb) (e : DriverLedgerEntry) (now : DateTime) :
    (db.post e now).webhookEvents = db.webhookEvents := by
  unfold PaymentDb.post
  split_ifs <;> rfl

/-- Only callbacks write events. -/
theorem kept_webhookEvents (J : Table WebhookEvent → Prop) :
    KeptThroughout fun db => J db.webhookEvents := by
  refine .of_writes (.of_sameBusiness fun db db' hs h => ?_) (fun _ _ h => h) (fun _ _ h => h)
    (fun _ _ h => h) fun e now _ ask base db hb hc => ?_
  · rw [hs.webhookEvents]
    exact h
  · rw [exec_recordLedgerEntryOnce]
    split_ifs
    · exact ⟨hb, fun _ _ => hc⟩
    · refine ⟨hb, fun _ _ => ?_⟩
      rw [webhookEvents_post]
      exact hc

theorem keeps_recordWebhookEvent {J : PaymentDb → Prop} {event : WebhookEvent}
    (h : ∀ db : PaymentDb, J db → J { db with webhookEvents := db.webhookEvents.insert event }) :
    (recordWebhookEvent event).Keeps J := Keeps.insertOnce fun db hdb _ => h db hdb

/-- A recorded event stays recorded. -/
theorem received_runCalls {eventId : String} (cs : List Call) {db : PaymentDb}
    (h : Received eventId db) : Received eventId (runCalls cs db) := by
  have hkept := kept_webhookEvents fun t => (t.find? eventId).isSome
  refine @runCalls_inv (Received eventId) (fun _ _ => True) (fun c db _ hdb => hkept.after (fun event => ?_) c hdb) cs db
    (everyStep_of_forall (fun _ _ _ => trivial) db) h
  refine keeps_recordWebhookEvent fun db hdb => ?_
  obtain ⟨e, he⟩ := Option.isSome_iff_exists.mp hdb
  exact Option.isSome_iff_exists.mpr ⟨e, Table.find?_insert_of_some event he⟩

/-- An event that nobody delivers stays unrecorded. -/
theorem not_received_runCalls {eventId : String} {cs : List Call}
    (hcs : ∀ c ∈ cs, ¬ c.delivers eventId) {db : PaymentDb}
    (h : db.webhookEvents.find? eventId = none) :
    (runCalls cs db).webhookEvents.find? eventId = none := by
  have hkept := kept_webhookEvents fun t => t.find? eventId = none
  refine @runCalls_inv (fun db => db.webhookEvents.find? eventId = none)
    (fun c _ => ¬ c.delivers eventId) (fun c db hc hdb => ?_) cs db
    (everyStep_of_forall (fun c hc _ => hcs c hc) db) h
  cases c with
  | rides t => exact hdb
  | request op hop ask =>
    cases op with
    | webhook call =>
      rw [Call.after_webhook]
      cases hb : ask .callback with
      | error e => exact hdb
      | ok body =>
        refine (hkept.applyDiddipayWebhook _ fun event hid => ?_).run ask hdb
        refine keeps_recordWebhookEvent fun db hdb => ?_
        have hne : event.id ≠ eventId := fun h => hc ⟨body, hb, (hid body rfl).symm.trans h⟩
        exact (Table.find?_insert_of_ne _ hne).trans hdb
    | _ => exact (hkept.op hop fun _ h => nomatch h).run ask hdb

/-! ## Deliveries -/

section Deliveries

variable {call : WebhookCall} {data : Json} {event : WebhookEvent} (ask : Query → Answer)
  {db : PaymentDb}

theorem run_refused {e : Err} (h : call.envelope = .error e) :
    (applyDiddipayWebhook call).run ask db = (.error e, db) := by
  rw [applyDiddipayWebhook_eq, h]
  rfl

/-- A callback whose event is recorded does nothing. -/
theorem run_duplicate (h : call.envelope = .ok (data, event)) (hr : Received event.id db) :
    (applyDiddipayWebhook call).run ask db = (.ok .duplicate, db) := by
  have hrecord : (recordWebhookEvent event).exec ask db db = (.ok false, db, db) := by
    unfold recordWebhookEvent
    unfold Received at hr
    rw [exec_insertOnce, hr]
    rfl
  have hexec : (applyDiddipayWebhook call).exec ask db db = (.ok .duplicate, db, db) := by
    rw [applyDiddipayWebhook_eq, h]
    exact exec_bind_of_ok _ _ _ hrecord
  exact @run_of_ok sig _ ask _ db db db _ hexec

theorem received_recordEvent (db : PaymentDb) (event : WebhookEvent) :
    Received event.id (db.recordEvent event) := by
  have h : (db.recordEvent event).webhookEvents.find? event.id =
      (db.webhookEvents.find? event.id).or (if event.id = event.id then some event else none) :=
    Table.find?_insert _ _ _
  unfold Received
  rw [h, if_pos rfl]
  cases db.webhookEvents.find? event.id <;> rfl

/-- A callback whose event is new takes effect after its event is recorded. -/
theorem exec_new (h : call.envelope = .ok (data, event))
    (hr : db.webhookEvents.find? event.id = none) :
    (applyDiddipayWebhook call).exec ask db db =
      (dispatchWebhook data event.paymentIntentId call.now).exec ask db (db.recordEvent event) := by
  have hrecord : (recordWebhookEvent event).exec ask db db = (.ok true, db, db.recordEvent event) := by
    unfold recordWebhookEvent
    rw [exec_insertOnce, hr]
    rfl
  rw [applyDiddipayWebhook_eq, h]
  exact exec_bind_of_ok _ _ _ hrecord

/-- What takes effect is not reported as a duplicate. -/
theorem dispatchWebhook_ne_duplicate (data : Json) (intentId : Option UUID) (now : DateTime) :
    Ensures ask (fun _ => True) (dispatchWebhook data intentId now) fun r _ => r ≠ .duplicate := by
  refine (Ensures.trivial _).bind fun payoutId => ?_
  cases payoutId with
  | some id =>
    refine (Ensures.trivial _).bind fun o => ?_
    cases o with
    | none => exact .raise
    | some w =>
      exact (Ensures.trivial _).bind fun _ => (Ensures.trivial _).bind fun _ =>
        (Ensures.trivial _).bind fun _ => .ret fun _ _ => by simp
  | none =>
    cases intentId with
    | none => exact .raise
    | some id =>
      refine (Ensures.trivial _).bind fun status => (Ensures.trivial _).bind fun o => ?_
      cases o with
      | some t =>
        exact (Ensures.trivial _).bind fun _ => (Ensures.trivial _).bind fun _ =>
          (Ensures.trivial _).bind fun _ => (Ensures.trivial _).bind fun _ => .ret fun _ _ => by simp
      | none =>
        refine (Ensures.trivial _).bind fun o => ?_
        cases o with
        | none => exact .raise
        | some t =>
          exact (Ensures.trivial _).bind fun _ => (Ensures.trivial _).bind fun _ =>
            (Ensures.trivial _).bind fun _ => (Ensures.trivial _).bind fun _ =>
            .ret fun _ _ => by simp

theorem run_ne_duplicate (h : call.envelope = .ok (data, event))
    (hr : db.webhookEvents.find? event.id = none) :
    ((applyDiddipayWebhook call).run ask db).1 ≠ .ok .duplicate := by
  intro hdup
  rcases he : (applyDiddipayWebhook call).exec ask db db with ⟨_ | r, base', cur'⟩
  · rw [run_of_error _ he] at hdup
    cases hdup
  · rw [run_of_ok _ he] at hdup
    rw [exec_new ask h hr] at he
    have hne := dispatchWebhook_ne_duplicate ask data event.paymentIntentId call.now db
      (db.recordEvent event) trivial r
    rw [he] at hne
    exact hne rfl (Except.ok.inj hdup)

/-- A callback that succeeds leaves its event recorded. -/
theorem received_of_ok {r : WebhookResult} (h : call.envelope = .ok (data, event))
    (hok : ((applyDiddipayWebhook call).run ask db).1 = .ok r) :
    Received event.id ((applyDiddipayWebhook call).run ask db).2 := by
  by_cases hr : Received event.id db
  · rw [run_duplicate ask h hr]
    exact hr
  · have hkept := kept_webhookEvents fun t => (t.find? event.id).isSome
    rcases he : (applyDiddipayWebhook call).exec ask db db with ⟨_ | r, base', cur'⟩
    · rw [run_of_error _ he] at hok
      cases hok
    · rw [run_of_ok _ he]
      rw [exec_new ask h (by simpa [Received] using hr)] at he
      have hcur := Ensures.of_keeps ask (hkept.dispatchWebhook data event.paymentIntentId call.now)
        db (db.recordEvent event) (received_recordEvent db event) r
      rw [he] at hcur
      exact hcur rfl

end Deliveries

/-- A callback that raises leaves every table as it was, and its next delivery is not taken for a
duplicate as long as nobody else delivers the event; one that succeeds makes every later delivery of the
event a duplicate that changes nothing, whatever happens in between. -/
theorem applyDiddipayWebhook_once (call : WebhookCall) (ask : Query → Answer) (db : PaymentDb) :
    (∀ e, ((applyDiddipayWebhook call).run ask db).1 = .error e →
      ((applyDiddipayWebhook call).run ask db).2 = db ∧
      ∀ cs : List Call, (∀ c ∈ cs, ∀ id, call.eventId = some id → ¬ c.delivers id) →
        ∀ (now : DateTime) (ask' : Query → Answer),
          ((applyDiddipayWebhook { call with now := now }).run ask' (runCalls cs db)).1 ≠
            .ok .duplicate) ∧
    ∀ r, ((applyDiddipayWebhook call).run ask db).1 = .ok r →
      ∀ (cs : List Call) (ask' : Query → Answer) (db' : PaymentDb),
        db' = runCalls cs ((applyDiddipayWebhook call).run ask db).2 →
        (∀ now : DateTime, (applyDiddipayWebhook { call with now := now }).run ask' db' =
          (.ok .duplicate, db')) ∧
        ∀ call' : WebhookCall, call'.eventId = call.eventId →
          ((applyDiddipayWebhook call').run ask' db').2 = db' ∧
          ∀ r', ((applyDiddipayWebhook call').run ask' db').1 = .ok r' → r' = .duplicate := by
  -- what the callback says before its event is recorded does not depend on the clock
  have hagain : ∀ now : DateTime, ({ call with now := now } : WebhookCall).envelope = call.envelope :=
    fun _ => rfl
  refine ⟨fun e he => ⟨(atomic_applyDiddipayWebhook call).run_error he, fun cs hcs now ask' => ?_⟩,
    fun r hr cs ask' db' hdb' => ?_⟩
  · cases henv : call.envelope with
    | error e' =>
      rw [run_refused ask' ((hagain now).trans henv)]
      simp
    | ok p =>
      obtain ⟨data, event⟩ := p
      have hid := eventId_of_envelope henv
      have hnone : db.webhookEvents.find? event.id = none := by
        by_contra hsome
        rw [run_duplicate ask henv (Option.isSome_iff_ne_none.mpr hsome)] at he
        cases he
      exact run_ne_duplicate ask' ((hagain now).trans henv)
        (not_received_runCalls (fun c hc => hcs c hc event.id hid) hnone)
  · cases henv : call.envelope with
    | error e =>
      rw [run_refused ask henv] at hr
      cases hr
    | ok p =>
      obtain ⟨data, event⟩ := p
      have hrec : Received event.id db' := hdb' ▸ received_runCalls cs (received_of_ok ask henv hr)
      refine ⟨fun now => run_duplicate ask' ((hagain now).trans henv) hrec,
        fun call' hsame => ?_⟩
      cases henv' : call'.envelope with
      | error e =>
        rw [run_refused ask' henv']
        exact ⟨rfl, fun _ h => nomatch h⟩
      | ok p' =>
        obtain ⟨data', event'⟩ := p'
        have hids : event'.id = event.id := by
          have h := (eventId_of_envelope henv').symm.trans
            (hsame.trans (eventId_of_envelope henv))
          exact Option.some.inj h
        rw [run_duplicate ask' henv' (hids ▸ hrec)]
        exact ⟨rfl, fun _ h => (Except.ok.inj h).symm⟩

/-- DiddiPay says that the payment intent 5 of 1000 XOF has succeeded. -/
def paidCallback : WebhookCall where
  secretConfigured := true
  signatureValid := true
  body := some (.ofMembers [("id", .str "e1"), ("type", .str "payment.succeeded"),
    ("data", .ofMembers [("payment_intent_id", .str "5"), ("status", .str "succeeded"),
      ("amount", .int 1000), ("currency", .str "XOF"), ("business_reference", .str "r")])])
  eventIdHeader := some "e1"
  now := 1

/-- Nobody answers. -/
def noAnswer : Query → Answer := fun _ => .ok .null

/-- A database with the top-up of that intent. -/
def toppingUp : PaymentDb :=
  { topups := Table.empty.insert
      { id := 3, driverId := 1, amount := 1000, paymentIntentId := some 5
        businessReference := some "r", createdAt := 0 } }

/-- Without the top-up the callback fails and may come again; with it, it comes once. -/
theorem applyDiddipayWebhook_once_paidCallback :
    ((applyDiddipayWebhook paidCallback).run noAnswer {}).2 = {} ∧
      ((applyDiddipayWebhook { paidCallback with now := 2 }).run noAnswer {}).1 ≠ .ok .duplicate ∧
      (applyDiddipayWebhook { paidCallback with now := 2 }).run noAnswer
          ((applyDiddipayWebhook paidCallback).run noAnswer toppingUp).2 =
        (.ok .duplicate, ((applyDiddipayWebhook paidCallback).run noAnswer toppingUp).2) := by
  have hfails := (applyDiddipayWebhook_once paidCallback noAnswer {}).1 _ rfl
  have hworks := (applyDiddipayWebhook_once paidCallback noAnswer toppingUp).2 (.driverTopup 5) rfl
  exact ⟨hfails.1, hfails.2 [] (by simp) 2 noAnswer, (hworks [] noAnswer _ rfl).1 2⟩

end DiddiGo.Payments
