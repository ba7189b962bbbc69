import DiddiGo.Payments.Proofs.DeliveryProofs

/-!
# What requests do to transactions and top-ups

For each program, which changes of the database it makes.
-/

namespace DiddiGo.Payments

open Data (Json Keyed Table)
open Transactions Prog

variable (ask : Query → Answer) (base db : PaymentDb)

/-! ## Ledger -/

section Record

variable (e : DriverLedgerEntry) (now : DateTime)

theorem exec_record : (recordLedgerEntryOnce e now).exec ask base db =
    (.ok (if (db.ledger.find? e.ledgerKey).isSome then none else some e), base, db.record e now) := by
  rw [exec_recordLedgerEntryOnce]
  unfold PaymentDb.record
  split_ifs <;> rfl

theorem ledger_post : (db.post e now).ledger = db.ledger.insert e := by
  unfold PaymentDb.post
  split_ifs <;> rfl

theorem find?_record (k : LedgerKey) : (db.record e now).ledger.find? k =
    (db.ledger.find? k).or (if e.ledgerKey = k then some e else none) := by
  unfold PaymentDb.record
  by_cases h : (db.ledger.find? e.ledgerKey).isSome
  · rw [if_pos h, ledger_openWallet]
    by_cases hk : e.ledgerKey = k
    · rw [← hk, Option.or_of_isSome h]
    · rw [if_neg hk, Option.or_none]
  · rw [if_neg h, ledger_post, ledger_openWallet]
    exact Table.find?_insert _ _ _

@[simp] theorem transactions_record : (db.record e now).transactions = db.transactions := by
  unfold PaymentDb.record PaymentDb.post
  split_ifs <;> rfl

@[simp] theorem topups_record : (db.record e now).topups = db.topups := by
  unfold PaymentDb.record PaymentDb.post
  split_ifs <;> rfl

@[simp] theorem rides_record : (db.record e now).rides = db.rides := by
  unfold PaymentDb.record PaymentDb.post
  split_ifs <;> rfl

@[simp] theorem webhookEvents_record : (db.record e now).webhookEvents = db.webhookEvents := by
  unfold PaymentDb.record PaymentDb.post
  split_ifs <;> rfl

end Record

section RecordSome

variable (e : Option DriverLedgerEntry) (now : DateTime)

@[simp] theorem transactions_recordSome : (db.recordSome e now).transactions = db.transactions := by
  cases e with
  | none => rfl
  | some e => exact transactions_record db e now

@[simp] theorem topups_recordSome : (db.recordSome e now).topups = db.topups := by
  cases e with
  | none => rfl
  | some e => exact topups_record db e now

@[simp] theorem rides_recordSome : (db.recordSome e now).rides = db.rides := by
  cases e with
  | none => rfl
  | some e => exact rides_record db e now

@[simp] theorem webhookEvents_recordSome :
    (db.recordSome e now).webhookEvents = db.webhookEvents := by
  cases e with
  | none => rfl
  | some e => exact webhookEvents_record db e now

end RecordSome

theorem exec_recordRideSettlement (ride : Rides.Ride) (status : PaymentStatus) (now : DateTime) :
    (recordRideSettlement ride status now).exec ask base db =
      (.ok (), base, db.recordSome (settlementEntry ride status now) now) := by
  unfold recordRideSettlement
  cases h : settlementEntry ride status now with
  | none => rfl
  | some e => exact exec_bind_of_ok _ _ _ (exec_record ask base db e now)

@[simp] theorem topups_credit (t : DriverTopup) (now : DateTime) :
    (db.credit t now).topups = db.topups := by
  unfold PaymentDb.credit
  split_ifs
  · exact topups_record _ _ _
  · rfl

@[simp] theorem webhookEvents_credit (t : DriverTopup) (now : DateTime) :
    (db.credit t now).webhookEvents = db.webhookEvents := by
  unfold PaymentDb.credit
  split_ifs
  · exact webhookEvents_record _ _ _
  · rfl

@[simp] theorem transactions_credit (t : DriverTopup) (now : DateTime) :
    (db.credit t now).transactions = db.transactions := by
  unfold PaymentDb.credit
  split_ifs
  · exact transactions_record _ _ _
  · rfl

theorem exec_creditTopup (t : DriverTopup) (now : DateTime) :
    (creditTopup t now).exec ask base db = (.ok (), base, db.credit t now) := by
  unfold creditTopup PaymentDb.credit
  split_ifs
  · exact exec_bind_of_ok _ _ _ (exec_record ask base db _ now)
  · rfl

/-! ## Provider statuses -/

section Statuses

variable (status : PaymentStatus) (providerStatus : String) (paidAt : Option DateTime)
  (nextAction : Option (Option Json)) (now : DateTime)

@[simp] theorem topups_applyStatus (id rideId : UUID) :
    (db.applyStatus status providerStatus paidAt nextAction now id rideId).topups = db.topups :=
  topups_recordSome _ _ _

@[simp] theorem webhookEvents_applyStatus (id rideId : UUID) :
    (db.applyStatus status providerStatus paidAt nextAction now id rideId).webhookEvents =
      db.webhookEvents := webhookEvents_recordSome _ _ _

theorem exec_changeTransaction (id : UUID) (f : Transaction → Transaction)
    (hf : ∀ t, Keyed.key (f t) = Keyed.key t) :
    (changeTransaction id f hf).exec ask base db =
      match db.transactions.find? id with
      | some t => (.ok (f t), base, db.updateTransaction id f hf)
      | none => (.error (.lookup ("No transaction with id=" ++ UUID.str id)), base, db) := by
  unfold changeTransaction
  rw [exec_bind_of_ok _ _ _ (exec_select _ _ _ _)]
  cases db.transactions.find? id with
  | none => rfl
  | some t => rfl

theorem exec_applyTransactionStatus (t : Transaction) :
    (applyTransactionStatus t status providerStatus paidAt nextAction now).exec ask base db =
      match db.transactions.find? t.id with
      | some x => (.ok (x.marked status providerStatus paidAt nextAction), base,
          db.applyStatus status providerStatus paidAt nextAction now t.id x.rideId)
      | none => (.error (.lookup ("No transaction with id=" ++ UUID.str t.id)), base, db) := by
  unfold applyTransactionStatus markExternalStatus
  rw [exec_bind, exec_changeTransaction]
  cases db.transactions.find? t.id with
  | none => rfl
  | some x =>
    dsimp only
    unfold findRideById
    rw [exec_bind_of_ok _ _ _ (exec_select _ _ _ _)]
    unfold PaymentDb.applyStatus PaymentDb.settle
    dsimp only [PaymentDb.updateTransaction]
    cases db.rides.find? x.rideId with
    | none => rfl
    | some ride => exact exec_bind_of_ok _ _ _ (exec_recordRideSettlement _ _ _ _ _ _)

end Statuses

theorem exec_applyTopupStatus (t : DriverTopup) (status : TopupStatus) (providerStatus : String)
    (paidAt : Option DateTime) (nextAction : Option (Option Json)) (now : DateTime) :
    (applyTopupStatus t status providerStatus paidAt nextAction now).exec ask base db =
      match db.topups.find? t.id with
      | some x => (.ok (x.marked status providerStatus paidAt nextAction), base,
          (db.markTopup t.id status providerStatus paidAt nextAction).credit
            (x.marked status providerStatus paidAt nextAction) now)
      | none => (.error (.lookup ("No topup with id=" ++ UUID.str t.id)), base, db) := by
  unfold applyTopupStatus markTopupStatus
  rw [exec_bind, exec_bind_of_ok _ _ _ (exec_select _ _ _ _)]
  cases db.topups.find? t.id with
  | none => rfl
  | some x =>
    dsimp only
    unfold PaymentDb.credit
    rw [exec_bind_of_ok _ _ _ (exec_update _ _ _ _ _)]
    dsimp only [pure_eq, exec_ret]
    split_ifs
    · exact exec_bind_of_ok _ _ _ (exec_record ask base _ _ now)
    · rfl

/-! ## Use cases -/

section UseCases

variable {ask db}

/-- What only reads leaves the database as it is. -/
theorem ensures_read {α : Type} {p : Action α} (h : p.Keeps (· = db)) :
    Ensures ask (· = db) p fun _ db' => db' = db := Ensures.of_keeps ask h

theorem ensures_getOrRaise {α : Type} (x : Option α) (e : Err) :
    Ensures ask (· = db) (getOrRaise x e) fun a db' => x = some a ∧ db' = db := by
  cases x with
  | none => exact .raise
  | some a => exact .ret fun _ h => ⟨rfl, h⟩

theorem ensures_askOrRaise (q : Query) :
    Ensures ask (· = db) (askOrRaise q) fun body db' => ask q = .ok body ∧ db' = db := by
  refine Ensures.bind (Q := fun a db' => a = ask q ∧ db' = db) (Ensures.call fun _ h => ⟨rfl, h⟩)
    fun a => .assuming fun ha => ?_
  cases a with
  | error e => exact .raise
  | ok body => exact .ret fun _ h => ⟨ha.symm, h⟩

theorem ensures_raiseIf {c : Prop} [Decidable c] {e : Err} :
    Ensures (S := sig) ask (· = db) (Prog.raiseIf c e) fun _ db' => ¬ c ∧ db' = db :=
  Ensures.raiseIf fun _ h hc => ⟨hc, h⟩

theorem ensures_optionalUuid (j : Json) :
    Ensures ask (· = db) (optionalUuid j) fun o db' => (o = none → j.truthy = false) ∧ db' = db := by
  unfold optionalUuid
  by_cases hj : j.truthy
  · rw [if_pos hj]
    exact (ensures_read (routine_keeps.getOrRaise _ _)).bind fun _ =>
      .ret fun _ h => ⟨fun h => (nomatch h), h⟩
  · rw [if_neg hj]
    exact .ret fun _ h => ⟨fun _ => by simpa using hj, h⟩

theorem ensures_scalarOneOrNone {α : Type} (l : List α) :
    Ensures ask (· = db) (scalarOneOrNone l) fun o db' =>
      (∀ a, o = some a → l = [a]) ∧ (o = none → l = []) ∧ db' = db := by
  rcases l with _ | ⟨a, _ | ⟨b, l⟩⟩
  · exact .ret fun _ h => ⟨fun _ h => (nomatch h), fun _ => rfl, h⟩
  · refine .ret fun _ h => ⟨fun x hx => ?_, fun h => (nomatch h), h⟩
    rw [Option.some.inj hx]
  · exact .raise

/-- A query that finds one row or none. -/
theorem ensures_find {α : Type} (f : PaymentDb → List α) :
    Ensures ask (· = db) (Prog.select f >>= scalarOneOrNone) fun o db' =>
      (∀ a, o = some a → f db = [a]) ∧ (o = none → f db = []) ∧ db' = db := by
  refine Ensures.bind (Q := fun l db' => l = f db ∧ db' = db) (Ensures.select ?_)
    fun l => .assuming fun hl => ?_
  · rintro _ rfl
    exact ⟨rfl, rfl⟩
  · subst hl
    exact ensures_scalarOneOrNone _

theorem ensures_saveTopup (t : DriverTopup) :
    Ensures ask (· = db) (saveTopup t) fun _ db' =>
      db.topups.find? t.id = none ∧ db' = db.insertTopup t := by
  refine Ensures.writeOrRaise ?_
  rintro _ rfl hfree
  refine ⟨List.find?_eq_none.mpr fun x hx => ?_, rfl⟩
  have hne := List.any_eq_false.mp hfree x hx
  simp only [decide_eq_true_eq, not_or] at hne ⊢
  exact hne.1

theorem ensures_creditTopup (t : DriverTopup) (now : DateTime) :
    Ensures ask (· = db) (creditTopup t now) fun _ db' => db' = db.credit t now := by
  rintro base _ rfl _ _
  rw [exec_creditTopup]

/-- A new top-up is saved with the status of its intent, and credited if it has already succeeded. -/
theorem ensures_createTopup (r : TopupRequest) :
    Ensures ask (· = db) (createTopup r) fun t db' => (∃ intent, t.CreatedFrom ask intent) ∧
      t.id = r.topupId ∧ db.topups.find? t.id = none ∧ db' = (db.insertTopup t).credit t r.now := by
  refine (ensures_read (routine_keeps.driverIdForUser _)).bind fun driverId =>
    ((ensures_read (routine_keeps.apiErrorIf _ _ _ _ _))).bind fun _ =>
    (ensures_read (routine_keeps.getOrRaise _ _)).bind fun method =>
    (ensures_read (routine_keeps.apiErrorIf _ _ _ _ _)).bind fun _ =>
    (ensures_read (routine_keeps.apiErrorIf _ _ _ _ _)).bind fun _ =>
    (ensures_read (routine_keeps.createReturnContext _ _ _ _ _)).bind fun token =>
    (ensures_askOrRaise _).bind fun intent => .assuming fun hintent =>
    (ensures_getOrRaise _ _).bind fun status => .assuming fun hstatus =>
    (ensures_getOrRaise _ _).bind fun intentId => .assuming fun hid =>
    (ensures_read (routine_keeps.bindReturnContext _ _)).bind fun _ =>
    (ensures_read (routine_keeps.decimalOr _ _)).bind fun amount =>
    (ensures_saveTopup _).bind fun _ => ?_
  refine .assuming fun hfree => ?_
  exact (ensures_creditTopup _ _).bind fun _ => .ret fun _ h =>
    ⟨⟨intent, ⟨_, hintent⟩, ⟨intentId, hid, rfl⟩, status, hstatus, rfl⟩, rfl, hfree, h⟩

theorem ensures_saveTransaction (t : Transaction) :
    Ensures ask (· = db) (saveTransaction t) fun _ db' =>
      t.Fresh db ∧ db' = db.insertTransaction t := by
  refine Ensures.writeOrRaise ?_
  rintro _ rfl hfree
  refine ⟨⟨List.find?_eq_none.mpr fun x hx => ?_, fun x hx i hi hxi => ?_⟩, rfl⟩
  · have hne := List.any_eq_false.mp hfree x hx
    simp only [decide_eq_true_eq, not_or] at hne ⊢
    exact hne.1
  · have hne := List.any_eq_false.mp hfree x hx
    simp [hxi, hi] at hne

theorem ensures_changeTransaction (id : UUID) (f : Transaction → Transaction)
    (hf : ∀ t, Keyed.key (f t) = Keyed.key t) :
    Ensures ask (· = db) (changeTransaction id f hf) fun t' db' =>
      ∃ t, db.transactions.find? id = some t ∧ t' = f t ∧ db' = db.updateTransaction id f hf := by
  refine .of_exec fun base a ha => ?_
  rw [exec_changeTransaction] at ha ⊢
  cases ht : db.transactions.find? id with
  | none =>
    rw [ht] at ha
    cases ha
  | some t =>
    rw [ht] at ha
    exact ⟨t, rfl, (Except.ok.inj ha).symm, rfl⟩

theorem ensures_recordRideSettlement (ride : Rides.Ride) (status : PaymentStatus) (now : DateTime) :
    Ensures ask (· = db) (recordRideSettlement ride status now) fun _ db' =>
      db' = db.recordSome (settlementEntry ride status now) now := by
  rintro base _ rfl _ _
  rw [exec_recordRideSettlement]

theorem ensures_cashTransaction (ride : Rides.Ride) (existing : Option Transaction) (amount : Decimal)
    (id : UUID) (now : DateTime) :
    Ensures ask (· = db) (cashTransaction ride existing amount id now)
      (CashTarget db ride.id existing) := by
  cases existing with
  | some t => exact .ret fun _ h => Or.inl ⟨rfl, h⟩
  | none =>
    exact (ensures_saveTransaction _).bind fun _ => .assuming fun hfresh => .ret fun _ h =>
      Or.inr ⟨rfl, hfresh, rfl, rfl, rfl, rfl, h⟩

/-- A transaction is collected in cash and its ride is settled. -/
theorem ensures_collect (ride : Rides.Ride) (id collectedBy : UUID) (amount : Decimal)
    (now : DateTime) :
    Ensures ask (· = db)
      (do
        let payment ← updateCollected id collectedBy amount now
        recordRideSettlement ride payment.status now
        return payment)
      fun _ db' => db' = (db.updateTransaction id (.collect collectedBy amount now)).recordSome
        (settlementEntry ride .collected now) now := by
  have hrow : Ensures ask (· = db) (updateCollected id collectedBy amount now) fun t' db' =>
      ∃ t, db.transactions.find? id = some t ∧ t' = t.collect collectedBy amount now ∧
        db' = db.updateTransaction id (.collect collectedBy amount now) :=
    ensures_changeTransaction id _ _
  refine hrow.bind fun t' base db₁ ⟨x, _, ht', hdb₁⟩ => ?_
  have hstatus : t'.status = .collected := by
    rw [ht']
    rfl
  have hend : Ensures ask (· = db₁) (recordRideSettlement ride .collected now >>= fun _ => .ret t')
      fun _ db' => db' = db₁.recordSome (settlementEntry ride .collected now) now :=
    (ensures_recordRideSettlement ride .collected now).bind fun _ => .ret fun _ h => h
  rw [hstatus]
  rw [hdb₁] at hend ⊢
  exact hend base _ rfl

theorem ensures_checkAmountCollected (ride : Rides.Ride) (amount : Decimal) :
    Ensures ask (· = db) (checkAmountCollected ride.finalFare amount) fun _ db' =>
      AmountFits ride amount ∧ db' = db := by
  unfold AmountFits
  cases ride.finalFare with
  | none => exact .ret fun _ h => ⟨fun _ h => (nomatch h), h⟩
  | some expected =>
    refine ensures_raiseIf.mono (fun _ h => h) fun _ db' h => ⟨fun x hx => ?_, h.2⟩
    rw [← Option.some.inj hx]
    exact h.1

theorem ensures_confirmCash (rideId : UUID) (amount : Decimal) (collectedBy transactionId : UUID)
    (now : DateTime) :
    Ensures ask (· = db) (confirmCash rideId amount collectedBy transactionId now) fun _ =>
      Confirmed db rideId collectedBy amount now := by
  refine Ensures.bind (Q := fun o db' => o = db.rides.find? rideId ∧ db' = db)
    (Ensures.select fun _ h => by simp [h]) fun o => ?_
  cases o with
  | none => exact .raise
  | some ride =>
    refine .assuming fun hride => ensures_raiseIf.bind fun _ => .assuming fun hdone =>
      (ensures_checkAmountCollected ride amount).bind fun _ => .assuming fun hfits =>
      (ensures_find (·.transactionsOf rideId)).bind fun existing => .assuming fun hsome => .assuming fun hnone =>
      (ensures_cashTransaction ride existing amount transactionId now).bind fun t base db₁ htarget => ?_
    have hid : ride.id = rideId := Table.key_of_find? hride.symm
    rw [hid] at htarget
    exact ((ensures_collect ride t.id collectedBy amount now).mono (fun _ h => h) fun _ db' h =>
      ⟨ride, hride.symm, not_not.mp hdone, hfits, existing, hsome, hnone, t, db₁, htarget, h⟩) base db₁ rfl

/-! ## Callbacks and reconciliation -/

theorem find?_of_transactionsWith {intentId : UUID} {t : Transaction}
    (h : db.transactionsWith intentId = [t]) :
    db.transactions.find? t.id = some t ∧ t.paymentIntentId = some intentId := by
  have hmem : t ∈ db.transactionsWith intentId := by simp [h]
  obtain ⟨ht, hi⟩ := List.mem_filter.mp hmem
  exact ⟨Table.find?_key_of_mem ht, by simpa using hi⟩

theorem find?_of_topupsWith {intentId : UUID} {t : DriverTopup}
    (h : db.topupsWith intentId = [t]) :
    db.topups.find? t.id = some t ∧ t.paymentIntentId = some intentId := by
  have hmem : t ∈ db.topupsWith intentId := by simp [h]
  obtain ⟨ht, hi⟩ := List.mem_filter.mp hmem
  exact ⟨Table.find?_key_of_mem ht, by simpa using hi⟩

theorem ensures_applyTransactionStatus {t x : Transaction} (hx : db.transactions.find? t.id = some x)
    (status : PaymentStatus) (providerStatus : String) (paidAt : Option DateTime)
    (nextAction : Option (Option Json)) (now : DateTime) :
    Ensures ask (· = db) (applyTransactionStatus t status providerStatus paidAt nextAction now)
      fun _ db' => db' = db.applyStatus status providerStatus paidAt nextAction now t.id x.rideId := by
  refine .of_exec fun base a ha => ?_
  rw [exec_applyTransactionStatus, hx]

theorem ensures_applyTopupStatus {t x : DriverTopup} (hx : db.topups.find? t.id = some x)
    (status : TopupStatus) (providerStatus : String) (paidAt : Option DateTime)
    (nextAction : Option (Option Json)) (now : DateTime) :
    Ensures ask (· = db) (applyTopupStatus t status providerStatus paidAt nextAction now)
      fun _ db' => db' = (db.markTopup t.id status providerStatus paidAt nextAction).credit
        (x.marked status providerStatus paidAt nextAction) now := by
  refine .of_exec fun base a ha => ?_
  rw [exec_applyTopupStatus, hx]

theorem ensures_applyIntentWebhook (data : Json) (intentId : UUID) (now : DateTime) :
    Ensures ask (· = db) (applyIntentWebhook data intentId now)
      (CallbackEffect db data intentId now) := by
  refine (ensures_getOrRaise _ _).bind fun status => .assuming fun hstatus =>
    (ensures_find (·.transactionsWith intentId)).bind fun o => .assuming fun hsome => .assuming fun hnone => ?_
  cases o with
  | some t =>
    have hrows := hsome t rfl
    refine (ensures_getOrRaise _ _).bind fun amount => .assuming fun hamount =>
      ensures_raiseIf.bind fun _ => .assuming fun hmoney =>
      ensures_raiseIf.bind fun _ => .assuming fun href =>
      (ensures_applyTransactionStatus (find?_of_transactionsWith hrows).1 _ _ _ _ _).bind fun _ =>
      .ret fun db' h => ?_
    obtain ⟨ha, hc⟩ := not_or.mp hmoney
    rw [h]
    exact .ride hrows hstatus ⟨hamount.trans (congrArg some (not_not.mp ha)), not_not.mp hc,
      not_not.mp href⟩
  | none =>
    refine (ensures_find (·.topupsWith intentId)).bind fun o => .assuming fun hsome =>
      .assuming fun _ => ?_
    cases o with
    | none => exact .raise
    | some t =>
      have hrows := hsome t rfl
      refine (ensures_getOrRaise _ _).bind fun amount => .assuming fun hamount =>
        ensures_raiseIf.bind fun _ => .assuming fun hmoney =>
        ensures_raiseIf.bind fun _ => .assuming fun href =>
        (ensures_applyTopupStatus (find?_of_topupsWith hrows).1 _ _ _ _ _).bind fun _ =>
        .ret fun db' h => ?_
      obtain ⟨ha, hc⟩ := not_or.mp hmoney
      rw [h]
      exact .topup (hnone rfl) hrows hstatus ⟨hamount.trans (congrArg some (not_not.mp ha)),
        not_not.mp hc, not_not.mp href⟩

theorem returns_getOrRaise {α : Type} {x : Option α} {a : α} (h : x = some a) (e : Err) :
    Returns ask db (getOrRaise x e) a db := by
  rw [h]
  exact .ret a

theorem returns_findOne {α : Type} (f : PaymentDb → List α) {a : α} (h : f db = [a]) :
    Returns ask db (Prog.select f >>= scalarOneOrNone) (some a) db := by
  refine Returns.bind (@Returns.select sig _ ask db f) ?_
  rw [h]
  exact .ret _

theorem returns_findNone {α : Type} (f : PaymentDb → List α) (h : f db = []) :
    Returns ask db (Prog.select f >>= scalarOneOrNone) none db := by
  refine Returns.bind (@Returns.select sig _ ask db f) ?_
  rw [h]
  exact .ret _

theorem returns_applyTransactionStatus {t x : Transaction} (hx : db.transactions.find? t.id = some x)
    (status : PaymentStatus) (providerStatus : String) (paidAt : Option DateTime)
    (nextAction : Option (Option Json)) (now : DateTime) :
    Returns ask db (applyTransactionStatus t status providerStatus paidAt nextAction now)
      (x.marked status providerStatus paidAt nextAction)
      (db.applyStatus status providerStatus paidAt nextAction now t.id x.rideId) := by
  intro base
  rw [exec_applyTransactionStatus, hx]

theorem returns_applyTopupStatus {t x : DriverTopup} (hx : db.topups.find? t.id = some x)
    (status : TopupStatus) (providerStatus : String) (paidAt : Option DateTime)
    (nextAction : Option (Option Json)) (now : DateTime) :
    Returns ask db (applyTopupStatus t status providerStatus paidAt nextAction now)
      (x.marked status providerStatus paidAt nextAction)
      ((db.markTopup t.id status providerStatus paidAt nextAction).credit
        (x.marked status providerStatus paidAt nextAction) now) := by
  intro base
  rw [exec_applyTopupStatus, hx]

/-- A callback about a payment intent that fits its row takes effect. -/
theorem returns_applyIntentWebhook {data : Json} {intentId : UUID} {now : DateTime}
    {r : WebhookResult} {db' : PaymentDb} (h : CallbackEffect db data intentId now r db') :
    Returns ask db (applyIntentWebhook data intentId now) r db' := by
  cases h with
  | ride hrows hstatus hmatch =>
    obtain ⟨hamount, hcurrency, href⟩ := hmatch
    refine (returns_getOrRaise hstatus _).bind <|
      (returns_findOne (·.transactionsWith intentId) hrows).bind <|
      (returns_getOrRaise hamount _).bind <| (Returns.raiseIf ?_).bind <|
      (Returns.raiseIf (not_not.mpr href)).bind <|
      (returns_applyTransactionStatus (find?_of_transactionsWith hrows).1 _ _ _ _ _).bind (.ret _)
    exact not_or.mpr ⟨not_not.mpr rfl, not_not.mpr hcurrency⟩
  | topup hnone hrows hstatus hmatch =>
    obtain ⟨hamount, hcurrency, href⟩ := hmatch
    refine (returns_getOrRaise hstatus _).bind <|
      (returns_findNone (·.transactionsWith intentId) hnone).bind <|
      (returns_findOne (·.topupsWith intentId) hrows).bind <|
      (returns_getOrRaise hamount _).bind <| (Returns.raiseIf ?_).bind <|
      (Returns.raiseIf (not_not.mpr href)).bind <|
      (returns_applyTopupStatus (find?_of_topupsWith hrows).1 _ _ _ _ _).bind (.ret _)
    exact not_or.mpr ⟨not_not.mpr rfl, not_not.mpr hcurrency⟩

theorem ensures_readIntent (intentId : Option UUID) (report : ReconciliationReport) :
    Ensures ask (· = db) (readIntent intentId report) fun res db' =>
      (∀ intent, res.1 = some intent → Answers ask intentId intent ∧ res.2 = report) ∧ db' = db := by
  cases intentId with
  | none => exact .ret fun _ h => ⟨fun _ h => (nomatch h), h⟩
  | some id =>
    refine Ensures.bind (Q := fun a db' => a = ask (.getPaymentIntent id) ∧ db' = db)
      (Ensures.call fun _ h => ⟨rfl, h⟩) fun a => .assuming fun ha => ?_
    split
    · exact .ret fun _ h => ⟨fun _ h => (nomatch h), h⟩
    · exact .ret fun _ h => ⟨fun _ h => (nomatch h), h⟩
    · refine .ret fun _ h => ⟨fun intent hi => ⟨⟨id, rfl, ?_⟩, rfl⟩, h⟩
      obtain rfl := Option.some.inj hi
      exact ha.symm

theorem ensures_reconcileStaleTransaction (t : Transaction) (now : DateTime)
    (report : ReconciliationReport) :
    Ensures ask (· = db) (reconcileStaleTransaction t now report) fun _ =>
      ReconciledTransaction ask db t now := by
  refine (ensures_readIntent _ _).bind fun ⟨intent, report⟩ => .assuming fun hread => ?_
  cases intent with
  | none => exact .ret fun _ h => Or.inl h
  | some intent =>
    dsimp only
    by_cases hm : (intentMismatchReason intent t.amount t.currency t.businessReference).isSome
    · rw [if_pos hm]
      exact .ret fun _ h => Or.inl h
    rw [if_neg hm]
    cases hs : paymentStatusFromDiddipay ((intent.get "status").or (.str "")).toStr with
    | none => exact .ret fun _ h => Or.inl h
    | some status =>
      dsimp only
      by_cases hsame : status = t.status ∧ nextActionFromIntent intent = t.providerNextAction
      · rw [if_pos hsame]
        exact .ret fun _ h => Or.inl h
      rw [if_neg hsame]
      cases hx : db.transactions.find? t.id with
      | none =>
        refine Ensures.bind (Q := fun _ _ => False) (.of_exec fun base a ha => ?_) fun _ =>
          .ret fun _ h => h.elim
        rw [exec_applyTransactionStatus, hx] at ha
        cases ha
      | some x =>
        exact (ensures_applyTransactionStatus hx _ _ _ _ _).bind fun _ => .ret fun db' h =>
          Or.inr ⟨intent, status, x, (hread intent rfl).1, by simpa using hm, hs, hx, h⟩

theorem ensures_reconcileStaleTopup (t : DriverTopup) (now : DateTime)
    (report : ReconciliationReport) :
    Ensures ask (· = db) (reconcileStaleTopup t now report) fun _ =>
      ReconciledTopup ask db t now := by
  refine (ensures_readIntent _ _).bind fun ⟨intent, report⟩ => .assuming fun hread => ?_
  cases intent with
  | none => exact .ret fun _ h => Or.inl h
  | some intent =>
    dsimp only
    by_cases hm : (intentMismatchReason intent t.amount t.currency t.businessReference).isSome
    · rw [if_pos hm]
      exact .ret fun _ h => Or.inl h
    rw [if_neg hm]
    cases hs : paymentStatusFromDiddipay ((intent.get "status").or (.str "")).toStr with
    | none => exact .ret fun _ h => Or.inl h
    | some status =>
      dsimp only
      by_cases hsame : topupStatusFromPaymentStatus status = t.status ∧
          nextActionFromIntent intent = t.providerNextAction
      · rw [if_pos hsame]
        exact .ret fun _ h => Or.inl h
      rw [if_neg hsame]
      cases hx : db.topups.find? t.id with
      | none =>
        refine Ensures.bind (Q := fun _ _ => False) (.of_exec fun base a ha => ?_) fun _ =>
          .ret fun _ h => h.elim
        rw [exec_applyTopupStatus, hx] at ha
        cases ha
      | some x =>
        exact (ensures_applyTopupStatus hx _ _ _ _ _).bind fun _ => .ret fun db' h =>
          Or.inr ⟨intent, status, x, (hread intent rfl).1, by simpa using hm, hs, hx, h⟩

/-! ### What is applied -/

theorem returns_readIntent {intentId : Option UUID} {intent : Json} (h : Answers ask intentId intent)
    (hne : intent ≠ .null) (report : ReconciliationReport) :
    Returns ask db (readIntent intentId report) (some intent, report) db := by
  obtain ⟨id, rfl, hask⟩ := h
  refine Returns.bind (@Returns.call sig ask db (.getPaymentIntent id)) ?_
  rw [hask]
  cases intent with
  | null => exact absurd rfl hne
  | _ => exact .ret _

/-- An intent that can be compared is not `null`. -/
theorem ne_null_of_match {intent : Json} {amount : Decimal} {currency : String}
    {reference : Option String} (h : intentMismatchReason intent amount currency reference = none) :
    intent ≠ .null := by
  rintro rfl
  cases h

section Reconciled

variable {intent : Json} {status : PaymentStatus}

theorem ne_null_of_status (h : intentStatus intent = some status) : intent ≠ .null := by
  rintro rfl
  revert h
  simp [intentStatus, providerStatusOf, Json.get, Json.or, Json.truthy, Json.toStr,
    paymentStatusFromDiddipay, PaymentStatus.ofString, Data.lower, Data.strip]

/-- The reconciliation of a transaction whose intent is not the same money. -/
theorem returns_reconcileMismatched {t : Transaction} (hans : Answers ask t.paymentIntentId intent)
    (hne : intent ≠ .null)
    (hmatch : intentMismatchReason intent t.amount t.currency t.businessReference ≠ none)
    (now : DateTime) (report : ReconciliationReport) :
    Returns ask db (reconcileStaleTransaction t now report)
      { report with checked := report.checked + 1, mismatched := report.mismatched + 1 } db := by
  refine (returns_readIntent hans hne _).bind ?_
  dsimp only
  rw [if_pos (Option.isSome_iff_ne_none.mpr hmatch)]
  exact .ret _

theorem returns_reconcileTopupMismatched {t : DriverTopup}
    (hans : Answers ask t.paymentIntentId intent) (hne : intent ≠ .null)
    (hmatch : intentMismatchReason intent t.amount t.currency t.businessReference ≠ none)
    (now : DateTime) (report : ReconciliationReport) :
    Returns ask db (reconcileStaleTopup t now report)
      { report with checked := report.checked + 1, mismatched := report.mismatched + 1 } db := by
  refine (returns_readIntent hans hne _).bind ?_
  dsimp only
  rw [if_pos (Option.isSome_iff_ne_none.mpr hmatch)]
  exact .ret _

/-- The reconciliation of a transaction that DiddiPay knows with the same status. -/
theorem returns_reconcileUnchanged {t : Transaction} (hans : Answers ask t.paymentIntentId intent)
    (hmatch : intentMismatchReason intent t.amount t.currency t.businessReference = none)
    (hstatus : intentStatus intent = some status)
    (hsame : status = t.status ∧ nextActionFromIntent intent = t.providerNextAction) (now : DateTime)
    (report : ReconciliationReport) :
    Returns ask db (reconcileStaleTransaction t now report)
      { report with checked := report.checked + 1, unchanged := report.unchanged + 1 } db := by
  refine (returns_readIntent hans (ne_null_of_match hmatch) _).bind ?_
  dsimp only
  rw [hmatch, show paymentStatusFromDiddipay ((intent.get "status").or (.str "")).toStr = some status
    from hstatus]
  dsimp only
  rw [if_pos hsame]
  exact .ret _

/-- The reconciliation of a transaction that DiddiPay knows with another status. -/
theorem returns_reconcileUpdated {t x : Transaction} (hans : Answers ask t.paymentIntentId intent)
    (hmatch : intentMismatchReason intent t.amount t.currency t.businessReference = none)
    (hstatus : intentStatus intent = some status)
    (hchanged : ¬ (status = t.status ∧ nextActionFromIntent intent = t.providerNextAction))
    (hx : db.transactions.find? t.id = some x) (now : DateTime) (report : ReconciliationReport) :
    Returns ask db (reconcileStaleTransaction t now report)
      { report with
        checked := report.checked + 1
        updated := report.updated + 1
        updatedReferences := report.updatedReferences ++
          [t.businessReference.getD ("diddigo:ride:" ++ UUID.str t.rideId)] }
      (db.applyStatus status (providerStatusOf intent) (paidAtOf status now)
        (some (nextActionFromIntent intent)) now t.id x.rideId) := by
  refine (returns_readIntent hans (ne_null_of_match hmatch) _).bind ?_
  dsimp only
  rw [hmatch, show paymentStatusFromDiddipay ((intent.get "status").or (.str "")).toStr = some status
    from hstatus]
  dsimp only
  rw [if_neg hchanged]
  exact (returns_applyTransactionStatus hx _ _ _ _ _).bind (.ret _)

theorem returns_reconcileTopupUnchanged {t : DriverTopup}
    (hans : Answers ask t.paymentIntentId intent)
    (hmatch : intentMismatchReason intent t.amount t.currency t.businessReference = none)
    (hstatus : intentStatus intent = some status)
    (hsame : topupStatusFromPaymentStatus status = t.status ∧
      nextActionFromIntent intent = t.providerNextAction) (now : DateTime)
    (report : ReconciliationReport) :
    Returns ask db (reconcileStaleTopup t now report)
      { report with checked := report.checked + 1, unchanged := report.unchanged + 1 } db := by
  refine (returns_readIntent hans (ne_null_of_match hmatch) _).bind ?_
  dsimp only
  rw [hmatch, show paymentStatusFromDiddipay ((intent.get "status").or (.str "")).toStr = some status
    from hstatus]
  dsimp only
  rw [if_pos hsame]
  exact .ret _

theorem returns_reconcileTopupUpdated {t x : DriverTopup}
    (hans : Answers ask t.paymentIntentId intent)
    (hmatch : intentMismatchReason intent t.amount t.currency t.businessReference = none)
    (hstatus : intentStatus intent = some status)
    (hchanged : ¬ (topupStatusFromPaymentStatus status = t.status ∧
      nextActionFromIntent intent = t.providerNextAction))
    (hx : db.topups.find? t.id = some x) (now : DateTime) (report : ReconciliationReport) :
    Returns ask db (reconcileStaleTopup t now report)
      { report with
        checked := report.checked + 1
        updated := report.updated + 1
        updatedReferences := report.updatedReferences ++
          [t.businessReference.getD ("diddigo:driver_topup:" ++ UUID.str t.id)] }
      ((db.markTopup t.id (topupStatusFromPaymentStatus status) (providerStatusOf intent)
        (if topupStatusFromPaymentStatus status = .succeeded then some now else none)
        (some (nextActionFromIntent intent))).credit
          (x.marked (topupStatusFromPaymentStatus status) (providerStatusOf intent)
            (if topupStatusFromPaymentStatus status = .succeeded then some now else none)
            (some (nextActionFromIntent intent))) now) := by
  refine (returns_readIntent hans (ne_null_of_match hmatch) _).bind ?_
  dsimp only
  rw [hmatch, show paymentStatusFromDiddipay ((intent.get "status").or (.str "")).toStr = some status
    from hstatus]
  dsimp only
  rw [if_neg hchanged]
  exact (returns_applyTopupStatus hx _ _ _ _ _).bind (.ret _)

end Reconciled

theorem returns_reconcileTransaction {rideId : UUID} {t : Transaction}
    (hrows : db.transactionsOf rideId = [t]) (hintent : t.paymentIntentId ≠ none) {now : DateTime}
    {report : ReconciliationReport} {db' : PaymentDb}
    (h : Returns ask db (reconcileStaleTransaction t now {}) report db') :
    Returns ask db (reconcileTransaction rideId now) report db' :=
  (returns_findOne (·.transactionsOf rideId) hrows).bind <| (Returns.raiseIf hintent).bind h

theorem returns_reconcileTopup {id : UUID} {t : DriverTopup} (ht : db.topups.find? id = some t)
    (hintent : t.paymentIntentId ≠ none) {now : DateTime} {report : ReconciliationReport}
    {db' : PaymentDb} (h : Returns ask db (reconcileStaleTopup t now {}) report db') :
    Returns ask db (reconcileTopup id now) report db' := by
  refine Returns.bind (@Returns.select sig _ ask db fun db : PaymentDb => db.topups.find? id) ?_
  rw [ht]
  exact (Returns.raiseIf hintent).bind h

theorem ensures_reconcileTransaction (rideId : UUID) (now : DateTime) :
    Ensures ask (· = db) (reconcileTransaction rideId now) fun _ db' =>
      ∃ t, db.transactionsOf rideId = [t] ∧ ReconciledTransaction ask db t now db' := by
  refine (ensures_find (·.transactionsOf rideId)).bind fun o => .assuming fun hsome =>
    .assuming fun _ => ?_
  cases o with
  | none => exact .raise
  | some t =>
    exact (ensures_read (routine_keeps.apiErrorIf _ _ _ _ _)).bind fun _ =>
      (ensures_reconcileStaleTransaction t now {}).mono (fun _ h => h) fun _ _ h =>
        ⟨t, hsome t rfl, h⟩

theorem ensures_reconcileTopup (id : UUID) (now : DateTime) :
    Ensures ask (· = db) (reconcileTopup id now) fun _ db' =>
      ∃ t, db.topups.find? id = some t ∧ ReconciledTopup ask db t now db' := by
  refine Ensures.bind (Q := fun o db' => o = db.topups.find? id ∧ db' = db)
    (Ensures.select fun _ h => by simp [h]) fun o => .assuming fun ho => ?_
  cases o with
  | none => exact .raise
  | some t =>
    exact (ensures_read (routine_keeps.apiErrorIf _ _ _ _ _)).bind fun _ =>
      (ensures_reconcileStaleTopup t now {}).mono (fun _ h => h) fun _ _ h => ⟨t, ho.symm, h⟩

/-! ## Whole requests -/

theorem atomic_confirmCash (rideId : UUID) (amount : Decimal) (collectedBy transactionId : UUID)
    (now : DateTime) : Atomic (confirmCash rideId amount collectedBy transactionId now) :=
  routine_atomic.confirmCash transactions_atomic (fun _ _ _ e _ => atomic_recordLedgerEntryOnce e _)
    _ _ _ _ _

theorem atomic_preparePayment (r : PreparationRequest) : Atomic (preparePayment r) :=
  routine_atomic.preparePayment transactions_atomic r

theorem atomic_createTopup (r : TopupRequest) : Atomic (createTopup r) :=
  routine_atomic.createTopup topups_atomic (fun _ _ => atomic_recordLedgerEntryOnce _ _) r

theorem atomic_reconcilePending (b : SweepBounds) (now : DateTime) :
    Atomic (reconcilePending b now) :=
  routine_atomic.reconcilePending atomic_applyTransactionStatus atomic_applyTopupStatus
    atomic_markWithdrawalProviderState b now

theorem atomic_reconcileTransaction (rideId : UUID) (now : DateTime) :
    Atomic (reconcileTransaction rideId now) :=
  routine_atomic.reconcileTransaction atomic_applyTransactionStatus rideId now

theorem atomic_reconcileTopup (topupId : UUID) (now : DateTime) : Atomic (reconcileTopup topupId now) :=
  routine_atomic.reconcileTopup atomic_applyTopupStatus topupId now

/-- A callback leads from `I` to `J` if its effect on a payment intent does. -/
theorem run_webhook {I J : PaymentDb → Prop} {call : WebhookCall} (hdb : I db)
    (hIJ : ∀ db, I db → J db) (hev : ∀ e, I (db.recordEvent e))
    (hmark : ∀ id p now, (markWithdrawalProviderState id p now).Keeps I)
    (heffect : ∀ event data id r db', call.envelope = .ok (data, event) → ¬ Received event.id db →
      (data.get "payout_id").truthy = false → event.paymentIntentId = some id →
      CallbackEffect (db.recordEvent event) data id call.now r db' → J db') :
    J ((applyDiddipayWebhook call).run ask db).2 := by
  refine ((Ensures.run_cases (Q := fun _ => J) (atomic_applyDiddipayWebhook call)
    (.of_exec fun base r hr => ?_)).elim (fun h => h ▸ hIJ db hdb) fun ⟨_, _, h⟩ => h)
  rw [applyDiddipayWebhook_eq] at hr ⊢
  cases henv : call.envelope with
  | error e =>
    rw [henv] at hr
    cases hr
  | ok p =>
    obtain ⟨data, event⟩ := p
    rw [henv] at hr
    by_cases hrec : Received event.id db
    · have hold : (recordWebhookEvent event).exec ask base db = (.ok false, base, db) := by
        unfold recordWebhookEvent
        unfold Received at hrec
        rw [exec_insertOnce, hrec]
        rfl
      dsimp only
      rw [exec_bind_of_ok _ _ _ hold]
      exact hIJ db hdb
    · have hnone : db.webhookEvents.find? event.id = none := by simpa [Received] using hrec
      have hnew : (recordWebhookEvent event).exec ask base db = (.ok true, base, db.recordEvent event) := by
        unfold recordWebhookEvent
        rw [exec_insertOnce, hnone]
        rfl
      dsimp only at hr ⊢
      rw [exec_bind_of_ok _ _ _ hnew] at hr ⊢
      have hdispatch : Ensures ask (· = db.recordEvent event)
          (dispatchWebhook data event.paymentIntentId call.now) fun _ => J := by
        refine (ensures_optionalUuid _).bind fun payoutId => .assuming fun hpayout => ?_
        cases payoutId with
        | some id =>
          have hkeep : Ensures ask I (applyPayoutWebhook data id call.now) fun _ => I :=
            .of_keeps ask (routine_keeps.applyPayoutWebhook hmark data id call.now)
          intro base db₁ hdb₁ a ha
          rw [hdb₁] at ha ⊢
          exact hIJ _ (hkeep base _ (hev event) a ha)
        | none =>
          cases hid : event.paymentIntentId with
          | none => exact .raise
          | some id =>
            exact (ensures_applyIntentWebhook data id call.now).mono (fun _ h => h)
              fun r db' h => heffect event data id r db' henv hrec (hpayout rfl) hid h
      exact hdispatch base _ rfl r hr

/-- A callback with a new event that fits its row takes effect. -/
theorem returns_applyDiddipayWebhook {call : WebhookCall} {data : Json} {event : WebhookEvent}
    {intentId : UUID} {r : WebhookResult} {db' : PaymentDb} (henv : call.envelope = .ok (data, event))
    (hnew : ¬ Received event.id db) (hpayout : (data.get "payout_id").truthy = false)
    (hintent : event.paymentIntentId = some intentId)
    (h : CallbackEffect (db.recordEvent event) data intentId call.now r db') :
    Returns ask db (applyDiddipayWebhook call) r db' := by
  have hrecord : Returns ask db (recordWebhookEvent event) true (db.recordEvent event) := by
    intro base
    have hnone : db.webhookEvents.find? event.id = none := by simpa [Received] using hnew
    unfold recordWebhookEvent
    rw [exec_insertOnce, hnone]
    rfl
  have hnopayout : Returns ask (db.recordEvent event) (optionalUuid (data.get "payout_id")) none
      (db.recordEvent event) := by
    unfold optionalUuid
    rw [hpayout]
    exact .ret _
  rw [applyDiddipayWebhook_eq, henv]
  refine hrecord.bind (hnopayout.bind ?_)
  rw [hintent]
  exact returns_applyIntentWebhook h

/-- The loop over transactions keeps what each reconciliation keeps. -/
theorem ensures_reconcileStaleTransactions {I : PaymentDb → Prop} {now : DateTime}
    (h : ∀ db t db', I db → ReconciledTransaction ask db t now db' → I db') (b : SweepBounds)
    (report : ReconciliationReport) :
    Ensures ask I (reconcileStaleTransactions b now report) fun _ => I :=
  Ensures.bind (Q := fun _ => I) (Ensures.select fun _ h => h) fun _ =>
    Ensures.foldlM _ fun report t _ base db hdb a ha =>
      h db t _ hdb (ensures_reconcileStaleTransaction t now report base db rfl a ha)

end UseCases

end DiddiGo.Payments
