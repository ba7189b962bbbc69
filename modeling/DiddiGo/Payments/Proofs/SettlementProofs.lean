import DiddiGo.Payments.Proofs.FinalityProofs
import DiddiGo.Payments.Proofs.ReplayProofs
import DiddiGo.Payments.Finality

/-!
# Which histories settle every ride

Every entry about a ride is recorded together with the status that calls for it, except when DiddiPay has
the money of a ride as soon as its payment is prepared, and when cash is confirmed for a ride that was to be
paid by mobile money.
-/

namespace DiddiGo.Payments

open Data (Json Keyed Table)
open Transactions Prog

variable {ask : Query → Answer} {db db' : PaymentDb} {id : UUID} {t : Transaction} {ride : Rides.Ride}

/-! ## Entries about rides -/

/-- Commissions are debits and payouts are credits. -/
structure RideEntryDirection (e : DriverLedgerEntry) : Prop where
  debit : e.entryType = .platformCommission → e.direction = .debit
  credit : e.entryType = .ridePayout → e.direction = .credit

theorem direction_settlementEntry {status : PaymentStatus} {now : DateTime} {e : DriverLedgerEntry}
    (h : settlementEntry ride status now = some e) : RideEntryDirection e := by
  unfold settlementEntry at h
  split at h
  · split_ifs at h
    · obtain rfl := Option.some.inj h
      exact ⟨fun _ => rfl, fun h => by cases h⟩
    · obtain rfl := Option.some.inj h
      exact ⟨fun h => (by cases h), fun _ => rfl⟩
  · cases h

theorem settlementEntry_cash {driverId : UUID} (hs : Settleable ride)
    (hd : ride.driverId = some driverId) (hm : ride.paymentMethod = .cash) (now : DateTime) :
    ∃ e, settlementEntry ride .collected now = some e ∧
      e.ledgerKey = rideKey driverId ride.id .platformCommission := by
  obtain ⟨-, hc, hp⟩ := hs
  obtain ⟨commission, hc⟩ := Option.isSome_iff_exists.mp hc
  obtain ⟨payout, hp⟩ := Option.isSome_iff_exists.mp hp
  unfold settlementEntry
  rw [hd, hc, hp]
  dsimp only
  rw [if_pos ⟨hm, rfl⟩]
  exact ⟨_, rfl, rfl⟩

theorem settlementEntry_digital {driverId : UUID} (hs : Settleable ride)
    (hd : ride.driverId = some driverId) (hm : ride.paymentMethod = .mobileMoney) (now : DateTime) :
    ∃ e, settlementEntry ride .succeeded now = some e ∧
      e.ledgerKey = rideKey driverId ride.id .ridePayout := by
  obtain ⟨-, hc, hp⟩ := hs
  obtain ⟨commission, hc⟩ := Option.isSome_iff_exists.mp hc
  obtain ⟨payout, hp⟩ := Option.isSome_iff_exists.mp hp
  have hcash : ¬ (ride.paymentMethod = .cash ∧ PaymentStatus.succeeded = .collected) := by simp
  unfold settlementEntry
  rw [hd, hc, hp]
  dsimp only
  rw [if_neg hcash, if_pos ⟨hm, rfl⟩]
  exact ⟨_, rfl, rfl⟩

/-- What has been recorded is in the ledger. -/
theorem isSome_recordSome {e : DriverLedgerEntry} (now : DateTime) :
    ((db.recordSome (some e) now).ledger.find? e.ledgerKey).isSome := by
  unfold PaymentDb.recordSome
  rw [find?_record, if_pos rfl]
  cases db.ledger.find? e.ledgerKey <;> rfl

/-- No entry is lost. -/
theorem isSome_recordSome_of_isSome {k : LedgerKey} (e : Option DriverLedgerEntry) (now : DateTime)
    (h : (db.ledger.find? k).isSome) : ((db.recordSome e now).ledger.find? k).isSome := by
  cases e with
  | none => exact h
  | some e =>
    unfold PaymentDb.recordSome
    rw [find?_record, Option.or_of_isSome h]
    exact h

/-! ## Rows -/

namespace RowSettled

/-- Entries about rides are never lost. -/
theorem mono (h : RowSettled db t ride) (hr : db'.rides = db.rides)
    (hl : ∀ k : LedgerKey, k.entryType.isWithdrawal = false → (db.ledger.find? k).isSome →
      (db'.ledger.find? k).isSome) : RowSettled db' t ride where
  found := hr ▸ h.found
  completed := h.completed
  digital := h.digital
  method := h.method
  cash hs d hd hc := hl _ rfl (h.cash hs d hd hc)
  paid hs d hd hp := hl _ rfl (h.paid hs d hd hp)

/-- The ride module keeps what the row relies on. -/
theorem keepsCompleted (h : RowSettled db t ride) {rides : Table Rides.Ride}
    (hkeep : KeepsCompleted db.rides rides) : ∃ ride', RowSettled { db with rides := rides } t ride' := by
  obtain ⟨ride', hfound, hdone, hmethod, hdriver, hcommission, hpayout⟩ :=
    hkeep _ _ h.found h.completed
  have hs : Settleable ride' → Settleable ride := by
    unfold Settleable
    rw [hdriver, hcommission, hpayout]
    exact fun h => h
  refine ⟨ride', hfound, hdone, fun hi => hmethod.trans (h.digital hi), fun hs' => h.method (hs hs'),
    fun hs' d hd => h.cash (hs hs') d (hdriver ▸ hd), fun hs' d hd => h.paid (hs hs') d (hdriver ▸ hd)⟩

/-- A row that is neither paid nor collected, and that has no payment intent, calls for nothing. -/
theorem of_pending (hfound : db.rides.find? t.rideId = some ride) (hdone : ride.status = .completed)
    (hintent : t.paymentIntentId = none) (hstatus : t.status = .pending) : RowSettled db t ride where
  found := hfound
  completed := hdone
  digital hi := by rw [hintent] at hi; cases hi
  method _ hi := by rw [hintent] at hi; cases hi
  cash _ _ _ hc := by rw [hc.2] at hstatus; cases hstatus
  paid _ _ _ hp := by rw [hp] at hstatus; cases hstatus

/-- A row that DiddiPay is asked to collect calls for the payout, if it is paid at once. -/
theorem of_digital (hfound : db.rides.find? t.rideId = some ride) (hdone : ride.status = .completed)
    (hride : ride.paymentMethod = .mobileMoney) (hmethod : t.method ≠ .cash)
    (hpaid : Settleable ride → ∀ d, ride.driverId = some d → t.status = .succeeded →
      (db.ledger.find? (rideKey d t.rideId .ridePayout)).isSome) : RowSettled db t ride where
  found := hfound
  completed := hdone
  digital _ := hride
  method _ _ := hmethod
  cash _ _ _ hc := absurd hc.1 hmethod
  paid := hpaid

/-- A status of DiddiPay settles the ride. -/
theorem applyStatus (h : RowSettled db t ride) (hi : t.paymentIntentId.isSome) (status : PaymentStatus)
    (providerStatus : String) (paidAt : Option DateTime) (nextAction : Option (Option Json))
    (now : DateTime) :
    RowSettled (db.applyStatus status providerStatus paidAt nextAction now t.id t.rideId)
      (t.marked status providerStatus paidAt nextAction) ride where
  found := (rides_recordSome _ _ _).symm ▸ h.found
  completed := h.completed
  digital := h.digital
  method := h.method
  cash hs _ _ hc := absurd hc.1 (h.method hs hi)
  paid hs d hd hp := by
    have hsucceeded : status = .succeeded := hp
    obtain ⟨e, he, hk⟩ := settlementEntry_digital hs hd (h.digital hi) 0
    have hid : ride.id = t.rideId := Table.key_of_find? h.found
    have hride : (db.applyStatus status providerStatus paidAt nextAction now t.id
        t.rideId).rides.find? t.rideId = some ride := (rides_recordSome _ _ _).symm ▸ h.found
    have hsettled := @rideSettled_applyStatus db status providerStatus paidAt nextAction now
      t.id t.rideId
    have hrecorded := hsettled ride e hride (hsucceeded ▸ he)
    rwa [hk, hid] at hrecorded

/-- Cash that is collected for a cash ride settles it. -/
theorem collect (hfound : db.rides.find? t.rideId = some ride) (hdone : ride.status = .completed)
    (hdigital : t.paymentIntentId.isSome → ride.paymentMethod = .mobileMoney)
    (hcash : Settleable ride → ride.paymentMethod = .cash) (collectedBy : UUID) (amount : Decimal)
    (now : DateTime) (hr : db'.rides = db.rides) :
    RowSettled (db'.recordSome (settlementEntry ride .collected now) now)
      (t.collect collectedBy amount now) ride where
  found := (rides_recordSome _ _ _).symm ▸ hr ▸ hfound
  completed := hdone
  digital := hdigital
  method hs hi := by
    have hm := (hcash hs).symm.trans (hdigital hi)
    cases hm
  cash hs d hd _ := by
    obtain ⟨e, he, hk⟩ := settlementEntry_cash hs hd (hcash hs) now
    have hid : ride.id = t.rideId := Table.key_of_find? hfound
    have hrecorded : ((db'.recordSome (some e) now).ledger.find? e.ledgerKey).isSome :=
      isSome_recordSome now
    rw [he]
    rwa [hk, hid] at hrecorded
  paid _ _ _ hp := by cases hp

end RowSettled

/-! ## The books -/

namespace SettlementBooks

theorem direction (h : SettlementBooks db) {k : LedgerKey} {e : DriverLedgerEntry}
    (he : db.ledger.find? k = some e) : RideEntryDirection e := ⟨h.debits k e he, h.credits k e he⟩

/-- The books stay in order when rows are settled and new entries point the right way. -/
theorem of_rows (hrows : ∀ id t, db.transactions.find? id = some t → ∃ ride, RowSettled db t ride)
    (hledger : ∀ k e, db.ledger.find? k = some e → RideEntryDirection e) : SettlementBooks db :=
  ⟨hrows, fun k e he => (hledger k e he).debit, fun k e he => (hledger k e he).credit⟩

theorem of_sameBusiness (h : SettlementBooks db) (hs : SameBusiness db db') : SettlementBooks db' where
  rows id t ht := by
    rw [hs.transactions] at ht
    obtain ⟨ride, hrow⟩ := h.rows id t ht
    exact ⟨ride, hrow.mono hs.rides fun k hk he => by rwa [hs.ledger k hk]⟩
  debits k e he htype := by
    have hk : k.entryType = .platformCommission := by rw [← Table.key_of_find? he]; exact htype
    rw [hs.ledger k (by rw [hk]; rfl)] at he
    exact h.debits k e he htype
  credits k e he htype := by
    have hk : k.entryType = .ridePayout := by rw [← Table.key_of_find? he]; exact htype
    rw [hs.ledger k (by rw [hk]; rfl)] at he
    exact h.credits k e he htype

theorem direction_recordSome (h : SettlementBooks db) {db₁ : PaymentDb} (hl : db₁.ledger = db.ledger)
    {o : Option DriverLedgerEntry} (ho : ∀ e, o = some e → RideEntryDirection e) (now : DateTime)
    {k : LedgerKey} {e : DriverLedgerEntry} (he : (db₁.recordSome o now).ledger.find? k = some e) :
    RideEntryDirection e := by
  cases o with
  | none => exact h.direction (hl ▸ he)
  | some e' =>
    unfold PaymentDb.recordSome at he
    rw [find?_record, hl] at he
    cases hk : db.ledger.find? k with
    | some x =>
      rw [hk, Option.some_or] at he
      obtain rfl := Option.some.inj he
      exact h.direction hk
    | none =>
      rw [hk, Option.none_or] at he
      split_ifs at he
      exact Option.some.inj he ▸ ho e' rfl

/-- An entry is recorded. -/
theorem record (h : SettlementBooks db) {e : DriverLedgerEntry} (he : RideEntryDirection e)
    (now : DateTime) : SettlementBooks (db.record e now) := by
  refine .of_rows (fun id t ht => ?_) fun k e' he' => ?_
  · rw [transactions_record] at ht
    obtain ⟨ride, hrow⟩ := h.rows id t ht
    refine ⟨ride, hrow.mono (rides_record _ _ _) fun k _ hk => ?_⟩
    exact isSome_recordSome_of_isSome (some e) now hk
  · refine h.direction_recordSome (o := some e) rfl (fun x hx => ?_) now he'
    exact Option.some.inj hx ▸ he

/-- A row is written and an entry about its ride is recorded. -/
theorem write (h : SettlementBooks db) (db₁ : PaymentDb) (t' : Transaction)
    (hl : db₁.ledger = db.ledger) (hr : db₁.rides = db.rides)
    (hfind : ∀ i t, db₁.transactions.find? i = some t → t = t' ∨ db.transactions.find? i = some t)
    {o : Option DriverLedgerEntry} (ho : ∀ e, o = some e → RideEntryDirection e) (now : DateTime)
    (hrow : ∃ ride, RowSettled (db₁.recordSome o now) t' ride) :
    SettlementBooks (db₁.recordSome o now) := by
  refine .of_rows (fun i t ht => ?_) fun k e he => h.direction_recordSome hl ho now he
  rw [transactions_recordSome] at ht
  rcases hfind i t ht with rfl | hold
  · exact hrow
  · obtain ⟨ride, hrow⟩ := h.rows i t hold
    refine ⟨ride, hrow.mono ((rides_recordSome _ _ _).trans hr) fun k _ hk => ?_⟩
    exact isSome_recordSome_of_isSome o now (hl.symm ▸ hk)

theorem update (h : SettlementBooks db) (ht : db.transactions.find? id = some t)
    (f : Transaction → Transaction) (hf : ∀ t, Keyed.key (f t) = Keyed.key t)
    {o : Option DriverLedgerEntry} (ho : ∀ e, o = some e → RideEntryDirection e) (now : DateTime)
    (hrow : ∃ ride, RowSettled ((db.updateTransaction id f hf).recordSome o now) (f t) ride) :
    SettlementBooks ((db.updateTransaction id f hf).recordSome o now) := by
  refine h.write (db.updateTransaction id f hf) (f t) rfl rfl (fun i x hx => ?_) ho now hrow
  have hupdate : (db.updateTransaction id f hf).transactions.find? i =
      if i = id then (db.transactions.find? i).map f else db.transactions.find? i :=
    Table.find?_update _ _ f hf _
  rw [hupdate] at hx
  by_cases hi : i = id
  · rw [if_pos hi, hi, ht] at hx
    exact Or.inl (Option.some.inj hx).symm
  · rw [if_neg hi] at hx
    exact Or.inr hx

theorem insert (h : SettlementBooks db) (hrow : ∃ ride, RowSettled db t ride) :
    SettlementBooks (db.insertTransaction t) := by
  obtain ⟨ride, hrow⟩ := hrow
  refine h.write (o := none) (db.insertTransaction t) t rfl rfl (fun i x hx => ?_)
    (fun _ he => (nomatch he)) 0 ⟨ride, hrow.mono rfl fun _ _ hk => hk⟩
  have hmem := Table.mem_of_find? hx
  rcases Table.mem_insert hmem with hold | hnew
  · right
    rw [← Table.key_of_find? hx]
    exact Table.find?_key_of_mem hold
  · exact Or.inl hnew

theorem settle_direction (rideId : UUID) (status : PaymentStatus) (now : DateTime)
    (e : DriverLedgerEntry)
    (he : ((db.rides.find? rideId).bind fun ride => settlementEntry ride status now) = some e) :
    RideEntryDirection e := by
  obtain ⟨ride, -, he⟩ := Option.bind_eq_some_iff.mp he
  exact direction_settlementEntry he

/-- What DiddiPay says about a row that has a payment intent. -/
theorem applyStatus (h : SettlementBooks db) (ht : db.transactions.find? t.id = some t)
    (hi : t.paymentIntentId.isSome) (status : PaymentStatus) (providerStatus : String)
    (paidAt : Option DateTime) (nextAction : Option (Option Json)) (now : DateTime) :
    SettlementBooks (db.applyStatus status providerStatus paidAt nextAction now t.id t.rideId) := by
  obtain ⟨ride, hrow⟩ := h.rows t.id t ht
  exact h.update ht (fun t => t.marked status providerStatus paidAt nextAction) (fun _ => rfl)
    (settle_direction t.rideId status now) now
    ⟨ride, hrow.applyStatus hi status providerStatus paidAt nextAction now⟩

end SettlementBooks

/-! ## Requests -/

theorem keptByTopups_settlement : KeptByTopups SettlementBooks where
  toKept := .of_sameBusiness fun _ _ hs h => h.of_sameBusiness hs
  topups _ _ h := ⟨fun id t ht => (h.rows id t ht).imp fun _ hrow => hrow.mono rfl fun _ _ hk => hk,
    h.debits, h.credits⟩
  credit t now ask base db hb hc := by
    rw [exec_record]
    refine ⟨hb, fun _ _ => hc.record ⟨fun h => ?_, fun h => ?_⟩ now⟩
    · cases h
    · cases h

theorem settlement_confirmed {rideId collectedBy : UUID} {amount : Decimal} {now : DateTime}
    (h : SettlementBooks db) (hc : Confirmed db rideId collectedBy amount now db')
    (hcash : ∀ ride, db.rides.find? rideId = some ride → ride.status = .completed → Settleable ride →
      AmountFits ride amount → ride.paymentMethod = .cash) : SettlementBooks db' := by
  obtain ⟨ride, hride, hdone, hfits, existing, hsome, -, t, db₁, htarget, rfl⟩ := hc
  have hcash' : Settleable ride → ride.paymentMethod = .cash := fun hs => hcash ride hride hdone hs hfits
  have hentry : ∀ e, settlementEntry ride .collected now = some e → RideEntryDirection e :=
    fun e he => direction_settlementEntry he
  rcases htarget with ⟨rfl, rfl⟩ | ⟨-, hfresh, hid, hintent, -, hstatus, rfl⟩
  · obtain ⟨ht, hid⟩ := find?_of_transactionsOf (hsome t rfl)
    rw [← hid] at hride
    obtain ⟨ride', hrow⟩ := h.rows t.id t ht
    obtain rfl := Option.some.inj (hride.symm.trans hrow.found)
    exact h.update ht (.collect collectedBy amount now) (fun _ => rfl) hentry now
      ⟨ride, .collect hride hdone hrow.digital hcash' collectedBy amount now rfl⟩
  · rw [← hid] at hride
    have hbooks := h.insert ⟨ride, .of_pending hride hdone hintent hstatus⟩
    refine hbooks.update (Table.find?_insert_self hfresh.id) (.collect collectedBy amount now)
      (fun _ => rfl) hentry now ⟨ride, .collect hride hdone (fun hi => ?_) hcash' collectedBy amount now rfl⟩
    rw [hintent] at hi
    cases hi

/-- A ride that is paid by a method other than cash is a mobile-money ride. -/
theorem mobileMoney_of_paidBy {rideId : UUID} {method : PaymentMethod}
    (h : PaidBy db rideId method) : ∃ ride, db.rides.find? rideId = some ride ∧
      ride.status = .completed ∧ ride.paymentMethod = .mobileMoney ∧ method ≠ .cash := by
  obtain ⟨ride, hride, hdone, hvalue, hne⟩ := h
  refine ⟨ride, hride, hdone, ?_, hne⟩
  cases hm : ride.paymentMethod with
  | mobileMoney => rfl
  | cash =>
    rw [hm] at hvalue
    cases method with
    | cash => exact absurd rfl hne
    | mobileMoney | wave | diddipay =>
      revert hvalue
      decide

theorem settlement_prepared {rideId : UUID} (h : SettlementBooks db) (hp : Prepared ask db rideId db')
    (hpaid : ∀ ride d, db.rides.find? rideId = some ride → ride.status = .completed →
      Settleable ride → ride.driverId = some d → PaidAtOnce ask db rideId →
      (db.ledger.find? (rideKey d rideId .ridePayout)).isSome) : SettlementBooks db' := by
  cases hp with
  | same => exact h
  | cash hrows hride hdone hfresh hid hmethod hstatus hintent =>
    rw [← hid] at hride
    exact h.insert ⟨_, .of_pending hride hdone hintent hstatus⟩
  | fallback hrows hstatus =>
    obtain ⟨ht, -⟩ := find?_of_transactionsOf hrows
    obtain ⟨ride, hrow⟩ := h.rows _ _ ht
    exact h.update (o := none) ht Transaction.payInCash (fun _ => rfl) (fun _ he => (nomatch he)) 0
      ⟨ride, .of_pending hrow.found hrow.completed rfl rfl⟩
  | digital hrows hfresh hid hmethod hstatus =>
    obtain ⟨ride, hride, hdone, hmobile, hne⟩ := mobileMoney_of_paidBy hmethod
    rw [← hid] at hride hpaid hrows
    refine h.insert ⟨ride, .of_digital hride hdone hmobile hne fun hs d hd hsucceeded => ?_⟩
    rw [hsucceeded] at hstatus
    exact hpaid ride d hride hdone hs hd ⟨hstatus, Or.inl hrows⟩
  | @again t intentId key method status providerStatus nextAction hrows hretry hmethod hstatus =>
    obtain ⟨ht, hid⟩ := find?_of_transactionsOf hrows
    obtain ⟨ride, hride, hdone, hmobile, hne⟩ := mobileMoney_of_paidBy hmethod
    refine h.update (o := none) ht
      (.collectAgain intentId key method status providerStatus nextAction) (fun _ => rfl)
      (fun _ he => (nomatch he)) 0 ⟨ride, .of_digital ?_ hdone hmobile hne fun hs d hd hsucceeded => ?_⟩
    · exact hid.symm ▸ hride
    · have hsucceeded' : status = .succeeded := hsucceeded
      rw [hsucceeded'] at hstatus
      exact hid.symm ▸ hpaid ride d hride hdone hs hd ⟨hstatus, Or.inr ⟨t, hrows, hretry⟩⟩

/-- The rows with the identifiers of `rows` have a payment intent if the rows had. -/
def IntentsKept (rows : List Transaction) (db : PaymentDb) : Prop :=
  ∀ t ∈ rows, t.paymentIntentId.isSome → ∀ x, db.transactions.find? t.id = some x →
    x.paymentIntentId.isSome

theorem IntentsKept.applyStatus {rows : List Transaction} (h : IntentsKept rows db)
    (status : PaymentStatus) (providerStatus : String) (paidAt : Option DateTime)
    (nextAction : Option (Option Json)) (now : DateTime) (id rideId : UUID) :
    IntentsKept rows (db.applyStatus status providerStatus paidAt nextAction now id rideId) := by
  intro t ht hi x hx
  have htable : (db.applyStatus status providerStatus paidAt nextAction now id rideId).transactions =
      (db.updateTransaction id fun t => t.marked status providerStatus paidAt nextAction).transactions :=
    transactions_recordSome _ _ _
  rw [htable, PaymentDb.updateTransaction, Table.find?_update] at hx
  cases hold : db.transactions.find? t.id with
  | none =>
    rw [hold, Option.map_none, ite_self] at hx
    cases hx
  | some y =>
    rw [hold] at hx
    have hy := h t ht hi y hold
    split_ifs at hx
    · rw [← Option.some.inj hx]
      exact hy
    · rwa [← Option.some.inj hx]

theorem answers_isSome {intentId : Option UUID} {intent : Json} (h : Answers ask intentId intent) :
    intentId.isSome := by
  obtain ⟨i, rfl, -⟩ := h
  rfl

/-- The sweep settles what it finds paid. -/
theorem ensures_sweepTransactions_settlement (b : SweepBounds) (now : DateTime)
    (report : ReconciliationReport) :
    Ensures ask SettlementBooks (reconcileStaleTransactions b now report)
      fun _ => SettlementBooks := by
  refine Ensures.bind (Q := fun rows db => IntentsKept rows db ∧ SettlementBooks db)
    (Ensures.select fun db hdb => ⟨fun t ht hi x hx => ?_, hdb⟩) fun rows => ?_
  · obtain ⟨hmem, -⟩ := Table.mem_of_mem_page ht
    obtain rfl := Option.some.inj ((Table.find?_key_of_mem hmem).symm.trans hx)
    exact hi
  · refine Ensures.mono (Ensures.foldlM (I := fun db => IntentsKept rows db ∧ SettlementBooks db) _
      fun report t ht base db hdb a ha => ?_) (fun _ h => h) fun _ _ h => h.2
    rcases ensures_reconcileStaleTransaction t now report base db rfl a ha with
      h | ⟨intent, status, x, hans, -, -, hx, h⟩
    · rw [h]
      exact hdb
    · have hid : x.id = t.id := Table.key_of_find? hx
      rw [h]
      refine ⟨hdb.1.applyStatus _ _ _ _ _ _ _, ?_⟩
      have hxi := hdb.1 t ht (answers_isSome hans) x hx
      rw [← hid] at hx ⊢
      exact hdb.2.applyStatus hx hxi _ _ _ _ _

theorem settlement_webhook (h : SettlementBooks db) (call : WebhookCall) :
    SettlementBooks ((applyDiddipayWebhook call).run ask db).2 := by
  have hevent : ∀ e, SettlementBooks (db.recordEvent e) := fun e =>
    ⟨fun id t ht => (h.rows id t ht).imp fun _ hrow => hrow.mono rfl fun _ _ hk => hk, h.debits,
      h.credits⟩
  refine run_webhook h (fun _ h => h) hevent keptByTopups_settlement.mark ?_
  intro event data intentId r db' _ _ _ _ heffect
  cases heffect with
  | ride hrows hstatus hmatch =>
    obtain ⟨ht, hi⟩ := find?_of_transactionsWith hrows
    exact (hevent event).applyStatus ht (by rw [hi]; rfl) _ _ _ _ _
  | topup hnone hrows =>
    have hmarked : ∀ topups, SettlementBooks { db.recordEvent event with topups := topups } :=
      fun topups => keptByTopups_settlement.topups _ topups (hevent event)
    unfold PaymentDb.credit PaymentDb.markTopup
    split_ifs
    · exact (hmarked _).record ⟨fun h => (by cases h), fun h => (by cases h)⟩ _
    · exact hmarked _

/-- A step that settles what it completes keeps the books in order. -/
theorem settlement_after (h : SettlementBooks db) {c : Call} (hc : Settles c db) :
    SettlementBooks (c.after db) := by
  cases c with
  | rides rides =>
    refine ⟨fun id t ht => ?_, h.debits, h.credits⟩
    obtain ⟨ride, hrow⟩ := h.rows id t ht
    exact hrow.keepsCompleted hc
  | request op hop ask =>
    by_cases ht : op.touchesTransactions = false
    · exact (keptByTopups_settlement.op hop ht).run ask h
    cases op with
    | confirmCash rideId amount collectedBy id now =>
      rw [Call.after_request, Op.action,
        @run_ignore sig _ ask (confirmCash rideId amount collectedBy id now) db]
      rcases Ensures.run_cases (atomic_confirmCash rideId amount collectedBy id now)
        (ensures_confirmCash rideId amount collectedBy id now) with hrun | ⟨_, -, hrun⟩
      · rwa [hrun]
      · exact settlement_confirmed h hrun hc
    | prepare r =>
      rw [Call.after_request, Op.action, @run_ignore sig _ ask (preparePayment r) db]
      rcases Ensures.run_cases (atomic_preparePayment r) (ensures_preparePayment r) with
        hrun | ⟨_, -, hrun⟩
      · rwa [hrun]
      · exact settlement_prepared h hrun hc
    | webhook call =>
      rw [Call.after_webhook]
      cases ask .callback with
      | error e => exact h
      | ok body => exact settlement_webhook h _
    | sweep b now =>
      rw [Call.after_request, Op.action, @run_ignore sig _ ask (reconcilePending b now) db]
      refine Ensures.run (P := SettlementBooks) (I := SettlementBooks)
        (atomic_reconcilePending b now) ?_ h h
      exact (ensures_sweepTransactions_settlement b now {}).bind fun r => .of_keeps ask <|
        Keeps.bind (routine_keeps.reconcileStaleTopups keptByTopups_settlement.applyTopupStatus b
          now r) fun r' => routine_keeps.reconcileStaleWithdrawals keptByTopups_settlement.mark b now r'
    | reconcileTransaction rideId now =>
      rw [Call.after_request, Op.action, @run_ignore sig _ ask (reconcileTransaction rideId now) db]
      rcases Ensures.run_cases (atomic_reconcileTransaction rideId now)
        (ensures_reconcileTransaction rideId now) with hrun | ⟨_, -, t, hrows, hrun⟩
      · rwa [hrun]
      · rcases hrun with hrun | ⟨intent, status, x, hans, -, -, hx, hrun⟩
        · rwa [hrun]
        · obtain ⟨ht, -⟩ := find?_of_transactionsOf hrows
          obtain rfl := Option.some.inj (ht.symm.trans hx)
          rw [hrun]
          exact h.applyStatus ht (answers_isSome hans) _ _ _ _ _
    | _ => exact absurd rfl ht

/-! ## Histories -/

/-- Settled books are complete. -/
theorem SettlementBooks.complete (h : SettlementBooks db) : SettlementComplete db where
  cash id t ride d ht hride _ hs hd hc := by
    obtain ⟨ride', hrow⟩ := h.rows id t ht
    obtain rfl := Option.some.inj (hride.symm.trans hrow.found)
    have hentries : db.rideEntries d t.rideId .platformCommission .debit = db.ledger.rows.filter
        fun e => Keyed.key e = rideKey d t.rideId .platformCommission := by
      refine List.filter_congr fun e he => ?_
      have hdebit := h.debits _ e (Table.find?_key_of_mem he)
      refine decide_eq_decide.mpr ⟨fun hk => hk.1, fun hk => ⟨hk, hdebit ?_⟩⟩
      exact congrArg LedgerKey.entryType hk
    rw [hentries, Table.length_filter_key, if_pos (hrow.cash hs d hd hc)]
  digital id t ride d ht hride _ hs hd hp := by
    obtain ⟨ride', hrow⟩ := h.rows id t ht
    obtain rfl := Option.some.inj (hride.symm.trans hrow.found)
    have hentries : db.rideEntries d t.rideId .ridePayout .credit = db.ledger.rows.filter
        fun e => Keyed.key e = rideKey d t.rideId .ridePayout := by
      refine List.filter_congr fun e he => ?_
      have hcredit := h.credits _ e (Table.find?_key_of_mem he)
      refine decide_eq_decide.mpr ⟨fun hk => hk.1, fun hk => ⟨hk, hcredit ?_⟩⟩
      exact congrArg LedgerKey.entryType hk
    rw [hentries, Table.length_filter_key, if_pos (hrow.paid hs d hd hp)]

theorem settlement_states (cs : List Call) (hcs : EveryStep Settles cs db) (h : SettlementBooks db) :
    ∀ s ∈ statesOf cs db, SettlementBooks s := by
  induction cs generalizing db with
  | nil =>
    intro s hs
    rw [List.mem_singleton.mp hs]
    exact h
  | cons c cs ih =>
    intro s hs
    rcases List.mem_cons.mp hs with rfl | hs
    · exact h
    · exact ih hcs.2 (settlement_after h hcs.1) s hs

/-- In every history that begins without transactions and entries, and whose steps settle what they
complete, every ride whose money was received is settled once in every state. -/
theorem rides_settled (cs : List Call) {db : PaymentDb} (htransactions : db.transactions = .empty)
    (hledger : db.ledger = .empty) (hcs : EveryStep Settles cs db) :
    ∀ s ∈ statesOf cs db, SettlementComplete s := by
  have hbooks : SettlementBooks db := by
    constructor <;> simp [htransactions, hledger]
  exact fun s hs => (settlement_states cs hcs hbooks s hs).complete

/-- A ride paid in cash. -/
def cashRideDb : PaymentDb := { rides := Table.empty.insert { paidRide with paymentMethod := .cash } }

/-- Its cash is confirmed. -/
def cashConfirmation : Call := .request (.confirmCash 1 1000 9 3 5) rfl fun _ => .ok .null

theorem rides_settled_cash : SettlementComplete (runCalls [cashConfirmation] cashRideDb) := by
  refine @rides_settled [cashConfirmation] cashRideDb rfl rfl ⟨?_, trivial⟩ _
    (by simp [statesOf, runCalls])
  intro ride hride _ _ _
  obtain rfl : { paidRide with paymentMethod := .cash } = ride := Option.some.inj hride
  rfl

/-- The payment through DiddiPay fails, and the passenger pays in cash. -/
def cashFallback : List Call :=
  [preparation "processing", rideCallback "e1" "failed",
    .request (.prepare { rideId := 1, method := "cash", payerUserId := 2, customerEmail := none
                         mobileMoneyNetwork := none, returnContexts := false, transactionId := 6
                         now := 4 }) rfl fun _ => .ok .null,
    cashConfirmation]

/-- The commission of a ride that falls back to cash is never debited. -/
theorem cashFallback_unsettled : ¬ ∀ s ∈ statesOf cashFallback paidRideDb, SettlementComplete s := by
  intro h
  have hlast := h (runCalls cashFallback paidRideDb) (by simp [statesOf, cashFallback])
  have hrow : ((runCalls cashFallback paidRideDb).transactions.find? 3).map
      (fun t => (t.rideId, t.method, t.status)) = some (1, .cash, .collected) := by decide +kernel
  have hride : (runCalls cashFallback paidRideDb).rides.find? 1 = some paidRide := by decide +kernel
  obtain ⟨t, ht, hfields⟩ := Option.map_eq_some_iff.mp hrow
  obtain ⟨hid, hcash⟩ := Prod.mk.inj hfields
  have hone := hlast.cash 3 t paidRide 4 ht (by rw [hid]; exact hride) rfl ⟨rfl, rfl, rfl⟩ rfl
    (Prod.mk.inj hcash)
  rw [hid] at hone
  revert hone
  decide +kernel

end DiddiGo.Payments
