import DiddiGo.Payments.Collection
import DiddiGo.Payments.Proofs.RoutineProofs
import DiddiGo.Payments.Proofs.RepositoryProofs
import DiddiGo.Transactions.Proofs.AccumulationProofs

/-!
# Two transactions of one ride

Nothing but the look before the insert keeps a ride from getting a second transaction. So it gets one
exactly if a request is overtaken in between.
-/

namespace DiddiGo.Payments

open Data (Json Keyed Table)
open Transactions Prog RelyGuarantee

variable {rideId : UUID} {b : Prop} {f g : PaymentDb → PaymentDb} {db : PaymentDb} {α : Type}

/-! ## Changes -/

theorem AddsNone.id : AddsNone rideId id := fun _ => rfl

theorem AddsNone.of_transactions (h : ∀ db, (f db).transactions = db.transactions) : AddsNone rideId f := by
  intro db
  unfold PaymentDb.transactionCount PaymentDb.transactionsOf
  rw [h]

theorem AddsNone.comp (hg : AddsNone rideId g) (hf : AddsNone rideId f) : AddsNone rideId (g ∘ f) :=
  fun db => (hg (f db)).trans (hf db)

theorem AddsNone.adds (h : AddsNone rideId f) : Adds rideId b f :=
  ⟨fun db => (h db).ge, fun db => (h db).le.trans (Nat.le_succ _), fun _ => h⟩

theorem Adds.comp (hf : Adds rideId b f) (hg : AddsNone rideId g) : Adds rideId b (g ∘ f) where
  least db := (hf.least db).trans (hg (f db)).ge
  most db := (hg (f db)).le.trans (hf.most db)
  none hb db := (hg (f db)).trans (hf.none hb db)

theorem addsNone_update (id : UUID) (h : Transaction → Transaction)
    (hkey : ∀ t, Keyed.key (h t) = Keyed.key t) (hride : ∀ t, (h t).rideId = t.rideId) :
    AddsNone rideId fun db => { db with transactions := db.transactions.update id h hkey } := by
  intro db
  change ((db.transactions.rows.map _).filter _).length = (db.transactions.rows.filter _).length
  rw [List.filter_map, List.length_map]
  refine congrArg List.length (List.filter_congr fun t _ => ?_)
  simp only [Function.comp_apply]
  split_ifs
  · rw [hride]
  · rfl

/-- A transaction is inserted after changes that add none. -/
theorem adds_insert {t : Transaction} (hf : AddsNone rideId f) (hb : t.rideId = rideId → ¬ b) :
    Adds rideId b ((fun db : PaymentDb => { db with transactions := db.transactions.insert t }) ∘ f) := by
  have hcount : ∀ db : PaymentDb,
      PaymentDb.transactionCount { db with transactions := db.transactions.insert t } rideId =
        db.transactionCount rideId ∨
      (t.rideId = rideId ∧
        PaymentDb.transactionCount { db with transactions := db.transactions.insert t } rideId =
          db.transactionCount rideId + 1) := by
    intro db
    unfold PaymentDb.transactionCount PaymentDb.transactionsOf
    cases hid : db.transactions.find? (Keyed.key t) with
    | some x => exact Or.inl (by rw [Table.insert_of_some hid])
    | none =>
      rw [Table.rows_insert hid, List.filter_append, List.length_append]
      by_cases ht : t.rideId = rideId
      · exact Or.inr ⟨ht, by simp [ht]⟩
      · exact Or.inl (by simp [ht])
  refine ⟨fun db => ?_, fun db => ?_, fun h db => ?_⟩ <;> have hdb := hf db <;>
    have hins := hcount (f db) <;> simp only [Function.comp_apply]
  · omega
  · omega
  · rcases hins with hins | ⟨ht, -⟩
    · omega
    · exact absurd h (hb ht)

/-! ## Programs -/

/-- Programs whose every write is harmless are routine. -/
theorem routine_accumulates {K : PaymentDb → Prop} {I J : (PaymentDb → PaymentDb) → Prop}
    (hJ : ∀ f, J f → I f) :
    Routine fun p => ∀ f, J f → Accumulates K I (fun _ => J) p f where
  ret _ f hf := .ret (hJ f hf) hf
  raise _ _ _ := .raise
  bind hp hk f hf := (hp f hf).bind fun a g _ hg => hk a g hg
  select _ f hf := .select (hJ f hf) fun _ _ => hf
  ask _ _ f hf := .ask (hJ f hf) fun _ => hf

section

variable (rideId b) in
/-- The program starts without a change of the number of transactions and ends with at most one more. -/
def AddsOnce (p : Action α) : Prop := ∀ f, AddsNone rideId f →
  Accumulates (HasTransaction rideId b) (Adds rideId b) (fun _ _ => True) p f

variable (rideId b) in
/-- The program leaves the number of transactions as it is. -/
def Reading (p : Action α) : Prop := ∀ f, AddsNone rideId f →
  Accumulates (HasTransaction rideId b) (Adds rideId b) (fun _ => AddsNone rideId) p f

theorem routine_reading : Routine fun p => Reading rideId b p :=
  routine_accumulates fun _ => AddsNone.adds

theorem reading_getOrRaise (x : Option α) (e : Err) : Reading rideId b (getOrRaise x e) :=
  routine_reading.getOrRaise x e

/-- Whatever comes after the insert. -/
theorem routine_adds : Routine fun p => ∀ f, Adds rideId b f →
    Accumulates (HasTransaction rideId b) (Adds rideId b) (fun _ => Adds rideId b) p f :=
  routine_accumulates fun _ h => h

theorem AddsOnce.raise (e : Err) : AddsOnce rideId b (.raise e : Action α) := fun _ _ => .raise

theorem AddsOnce.ret (a : α) : AddsOnce rideId b (.ret a : Action α) :=
  fun _ hf => .ret hf.adds trivial

theorem AddsOnce.raiseIf_bind {c : Prop} [Decidable c] {e : Err} {k : Unit → Action α}
    (h : AddsOnce rideId b (k ())) : AddsOnce rideId b (Prog.raiseIf c e >>= k) :=
  fun f hf => .raiseIf_bind fun _ => h f hf

/-- A program that only reads, in front of the rest. -/
theorem AddsOnce.of_reading {β : Type} {p : Action β} {k : β → Action α}
    (hp : Reading rideId b p) (hk : ∀ a, AddsOnce rideId b (k a)) : AddsOnce rideId b (p >>= k) :=
  fun f hf => (hp f hf).bind fun a g _ hg => hk a g hg

theorem adds_saveTransaction {t : Transaction} (hb : t.rideId = rideId → ¬ b) (hf : AddsNone rideId f) :
    Accumulates (HasTransaction rideId b) (Adds rideId b) (fun _ => Adds rideId b) (saveTransaction t) f :=
  .of_bind_ret (.writeOrRaise_bind hf.adds (.ret (adds_insert hf hb) (adds_insert hf hb)))

theorem adds_changeTransaction (id : UUID) (h : Transaction → Transaction)
    (hkey : ∀ t, Keyed.key (h t) = Keyed.key t) (hride : ∀ t, (h t).rideId = t.rideId)
    (hf : Adds rideId b f) :
    Accumulates (HasTransaction rideId b) (Adds rideId b) (fun _ => Adds rideId b)
      (changeTransaction id h hkey) f := by
  refine .select_bind hf fun v _ => ?_
  cases v.transactions.find? id with
  | none => exact .raise
  | some t =>
    have hf' := hf.comp (addsNone_update id h hkey hride)
    exact .update_bind hf (.ret hf' hf')

theorem adds_recordLedgerEntryOnce (e : DriverLedgerEntry) (now : DateTime) (hf : Adds rideId b f) :
    Accumulates (HasTransaction rideId b) (Adds rideId b) (fun _ => Adds rideId b)
      (recordLedgerEntryOnce e now) f := by
  have hwrite {g h : PaymentDb → PaymentDb} (hg : Adds rideId b g)
      (hh : ∀ db, (h db).transactions = db.transactions) : Adds rideId b (h ∘ g) :=
    hg.comp (.of_transactions hh)
  have hwallet : ∀ f, Adds rideId b f → Accumulates (HasTransaction rideId b) (Adds rideId b)
      (fun _ => Adds rideId b) (getOrCreateWallet e.driverId e.currency) f := by
    intro f hf
    refine .select_bind hf fun v _ => ?_
    cases v.wallets.find? e.driverId with
    | some w => exact .ret hf hf
    | none =>
      have hread : ∀ g, Adds rideId b g → Accumulates (HasTransaction rideId b) (Adds rideId b)
          (fun _ => Adds rideId b) (do
            let row ← Prog.select fun (db : PaymentDb) => db.wallets.find? e.driverId
            scalarOne row) g :=
        fun g hg => .select_bind hg fun _ _ => routine_adds.getOrRaise _ _ g hg
      exact .insertOnce_bind hf (hread f hf) (hread _ (hwrite hf fun _ => rfl))
  refine (hwallet f hf).bind fun _ g hg _ => .insertOnce_bind hg (.ret hg hg) ?_
  have hg' := hwrite hg (h := fun db => db.insertEntry e) fun _ => rfl
  refine .select_bind hg' fun v _ => (routine_adds.getOrRaise _ _ _ hg').bind fun w g hg _ => ?_
  split_ifs
  · have hg' := hwrite hg (h := fun db => db.flushWallet e.driverId w.balance (w.balance + e.delta) now)
      fun _ => rfl
    exact .updateAs_bind hg (.ret hg' hg')
  · exact .ret hg hg

/-- The look for the transaction of the ride. -/
theorem reads_findByRideId (id : UUID) (hf : AddsNone rideId f) :
    Accumulates (HasTransaction rideId b) (Adds rideId b)
      (fun o g => AddsNone rideId g ∧ (o = none → id = rideId → ¬ b)) (findByRideId id) f := by
  refine .select_bind hf.adds fun v hv => ?_
  generalize hrows : (v.transactions.rows.filter fun t => t.rideId = id) = rows
  rcases rows with _ | ⟨t, _ | ⟨t', ts⟩⟩
  · have hnone : id = rideId → ¬ b := by
      rintro rfl hb
      have hsome := hv hb
      unfold PaymentDb.transactionCount PaymentDb.transactionsOf at hsome
      rw [hrows] at hsome
      exact absurd hsome (Nat.lt_irrefl 0)
    exact ⟨hf.adds, hf, fun _ => hnone⟩
  · exact ⟨hf.adds, hf, fun h => nomatch h⟩
  · exact trivial

theorem adds_cashTransaction (ride : Rides.Ride) {existing : Option Transaction} (amount : Decimal)
    (id : UUID) (now : DateTime) (hf : AddsNone rideId f) (hb : existing = none → ride.id = rideId → ¬ b) :
    Accumulates (HasTransaction rideId b) (Adds rideId b) (fun _ => Adds rideId b)
      (cashTransaction ride existing amount id now) f := by
  cases existing with
  | some payment => exact .ret hf.adds hf.adds
  | none => exact (adds_saveTransaction (hb rfl) hf).bind fun _ g hg _ => .ret hg hg

/-! ## Use cases -/

theorem addsOnce_confirmCash (id : UUID) (amount : Decimal) (collectedBy transactionId : UUID)
    (now : DateTime) : AddsOnce rideId b (confirmCash id amount collectedBy transactionId now) := by
  refine fun f hf => .select_bind hf.adds fun v _ => ?_
  cases hride : v.rides.find? id with
  | none => exact .raise
  | some ride =>
    have hid : ride.id = id := Table.key_of_find? hride
    refine .raiseIf_bind fun _ => (routine_reading.checkAmountCollected _ _ f hf).bind fun _ g _ hg =>
      (reads_findByRideId id hg).bind fun existing g _ hg =>
      (adds_cashTransaction ride _ _ _ hg.1 fun h hr => hg.2 h (hid.symm.trans hr)).bind fun p g hg _ =>
      (adds_changeTransaction _ _ _ (by intro t; rfl) hg).bind fun p g hg _ => ?_
    exact (routine_adds.recordRideSettlement (fun e _ f hf => adds_recordLedgerEntryOnce e now hf) g hg).bind
      fun _ g hg _ => .ret hg trivial

theorem addsOnce_prepareCash (id transactionId : UUID) (now : DateTime) :
    AddsOnce rideId b (prepareCash id transactionId now) := by
  refine fun f hf => (reads_findByRideId id hf).bind fun existing g _ hg => ?_
  cases existing with
  | none =>
    refine .select_bind hg.1.adds fun v _ => ?_
    cases v.rides.find? id with
    | none => exact .raise
    | some ride => exact (adds_saveTransaction (hg.2 rfl) hg.1).bind fun _ g hg _ => .ret hg trivial
  | some payment =>
    dsimp only
    split_ifs
    · exact .ret hg.1.adds trivial
    · exact .raiseIf_bind fun _ => (adds_changeTransaction _ _ _ (by intro t; rfl) hg.1.adds).mono
        fun _ _ _ _ => trivial

theorem addsOnce_replaceExternalIntent (id intentId : UUID) (key : String) (method : PaymentMethod)
    (status : PaymentStatus) (providerStatus : String) (nextAction : Option Json) :
    AddsOnce rideId b (replaceExternalIntent id intentId key method status providerStatus nextAction) := by
  refine fun f hf => .select_bind hf.adds fun v _ => ?_
  cases v.transactions.find? id with
  | none => exact .raise
  | some row =>
    exact .writeOrRaise_bind hf.adds (.ret (hf.adds.comp (addsNone_update _ _ _ (by intro t; rfl))) trivial)

theorem addsOnce_collectThroughDiddipay (r : PreparationRequest) (method : PaymentMethod) (email : String)
    (ride : Rides.Ride) (amount : Decimal) {retrying : Option Transaction}
    (hb : retrying = none → r.rideId = rideId → ¬ b) :
    AddsOnce rideId b (collectThroughDiddipay r method email ride amount retrying) := by
  unfold collectThroughDiddipay
  extract_lets businessReference idempotencyKey
  refine .of_reading (routine_reading.createReturnContext _ _ _ _ _) fun _ => ?_
  refine .of_reading (routine_reading.askOrRaise (by simp)) fun intent => ?_
  refine AddsOnce.of_reading ?_ ?_
  · exact reading_getOrRaise _ _
  intro status
  refine AddsOnce.of_reading ?_ ?_
  · exact reading_getOrRaise _ _
  intro paymentIntentId
  refine .of_reading (routine_reading.bindReturnContext _ _) fun _ => ?_
  cases retrying with
  | some t => exact addsOnce_replaceExternalIntent _ _ _ _ _ _ _
  | none =>
    refine .of_reading (routine_reading.decimalOr _ _) fun _ f hf => ?_
    exact (adds_saveTransaction (hb rfl) hf).bind fun _ g hg _ => .ret hg trivial

theorem addsOnce_prepareDiddipay (r : PreparationRequest) (method : PaymentMethod) (email : String) :
    AddsOnce rideId b (prepareDiddipay r method email) := by
  refine fun f hf => .select_bind hf.adds fun v _ => ?_
  cases v.rides.find? r.rideId with
  | none => exact .raise
  | some ride =>
    refine (routine_reading.getOrRaise _ _ f hf).bind fun amount g _ hg =>
      (reads_findByRideId r.rideId hg).bind fun existing g _ hg => ?_
    cases existing with
    | none => exact addsOnce_collectThroughDiddipay _ _ _ _ _ (fun _ => hg.2 rfl) g hg.1
    | some t =>
      dsimp only
      split_ifs
      · exact .ret hg.1.adds trivial
      · exact .raiseIf_bind fun _ =>
          addsOnce_collectThroughDiddipay r method email ride amount (by simp) g hg.1

theorem addsOnce_preparePayment (r : PreparationRequest) : AddsOnce rideId b (preparePayment r) := by
  refine fun f hf => .select_bind hf.adds fun v _ => ?_
  cases v.rides.find? r.rideId with
  | none => exact .raise
  | some ride =>
    refine .raiseIf_bind fun _ => .raiseIf_bind fun _ => .raiseIf_bind fun _ =>
      (routine_reading.getOrRaise _ _ f hf).bind fun method g _ hg => ?_
    split_ifs
    · exact addsOnce_prepareCash _ _ _ g hg
    · exact .raiseIf_bind fun _ => .raiseIf_bind fun _ =>
        (routine_reading.getOrRaise _ _ g hg).bind fun email g _ hg =>
        addsOnce_prepareDiddipay _ _ _ g hg

theorem reading_ownedOpenDebt (debtId passengerUserId : UUID) :
    Reading rideId b (ownedOpenDebt debtId passengerUserId) := by
  refine fun f hf => .select_bind hf.adds fun v _ => ?_
  cases v.debts.find? debtId with
  | none => exact .raise
  | some debt => exact .raiseIf_bind fun _ => .raiseIf_bind fun _ => .ret hf.adds hf

theorem reading_debtCustomerEmail (r : DebtPaymentRequest) : Reading rideId b (debtCustomerEmail r) := by
  intro f hf
  unfold debtCustomerEmail fallbackCustomerEmail
  cases r.customerEmail.filter (· ≠ "") with
  | some email => exact .ret hf.adds hf
  | none =>
    dsimp only
    split_ifs
    · exact .raise
    · exact .ret hf.adds hf

theorem adds_updateDebtStatus (debt : PassengerDebt) (status : PassengerDebtStatus)
    (settlement : Option (DateTime × UUID)) (now : DateTime) (hf : Adds rideId b f) :
    Accumulates (HasTransaction rideId b) (Adds rideId b) (fun _ => Adds rideId b)
      (updateDebtStatus debt status settlement now) f := by
  have hsame : AddsNone rideId fun db => { db with
      debts := db.debts.update debt.id (debt.restated status settlement now) } :=
    .of_transactions fun _ => rfl
  exact .update_bind hf (.ret (hf.comp hsame) (hf.comp hsame))

theorem addsOnce_preparePassengerDebtPayment (r : DebtPaymentRequest) :
    AddsOnce rideId b (preparePassengerDebtPayment r) := by
  refine .of_reading (reading_ownedOpenDebt _ _) fun debt => .of_reading (reading_debtCustomerEmail r) fun email => ?_
  exact fun f hf => (addsOnce_prepareDiddipay _ _ _ f hf).bind fun payment g hg _ =>
    (adds_updateDebtStatus _ _ _ _ hg).bind fun _ g hg _ => .ret hg trivial

end

/-! ## One move -/

section

variable {Proc World : Type} {σ : RideScenario Proc World} {i : Proc}

theorem addsOnce_action {op : RideOp} (hop : op.collects) : AddsOnce rideId b op.action := by
  intro f hf
  cases op with
  | confirmCash id amount collectedBy transactionId now =>
    exact (addsOnce_confirmCash id amount collectedBy transactionId now f hf).bind fun _ g hg _ =>
      .ret hg trivial
  | prepare r => exact (addsOnce_preparePayment r f hf).bind fun _ g hg _ => .ret hg trivial
  | prepareDebt r => exact (addsOnce_preparePassengerDebtPayment r f hf).bind fun _ g hg _ => .ret hg trivial
  | _ => cases hop

variable {db₀ : PaymentDb} {world : World} {c c' c₀ : Config σ.machine} {m : Move σ.machine}
  {ms : List (Move σ.machine)}

/-- Every process may add one transaction. -/
def MayAdd (rideId : UUID) (c : Config σ.machine) : Prop :=
  ∀ i, c.Accumulates (HasTransaction rideId False) (Adds rideId False) (fun _ _ => True) i

theorem mayAdd_initial (hσ : ∀ i, (σ.op i).collects) (db : PaymentDb) (world : World) :
    MayAdd rideId (σ.initial db world) := fun i => addsOnce_action (hσ i) id .id

/-- A process that starts when the ride has a transaction adds none. -/
theorem late_initial (hσ : ∀ i, (σ.op i).collects) (htask : c.task i = (σ.initial db₀ world).task i) :
    c.Accumulates (HasTransaction rideId True) (Adds rideId True) (fun _ _ => True) i := by
  unfold Config.Accumulates
  rw [htask]
  exact addsOnce_action (hσ i) id .id

variable [DecidableEq Proc]

theorem MayAdd.step (h : MayAdd rideId c) (hstep : c.step m = some c') : MayAdd rideId c' :=
  fun i => (h i).step hstep fun _ _ hb => hb.elim

theorem MayAdd.count (h : MayAdd rideId c) (hstep : c.step m = some c') :
    c.shared.db.transactionCount rideId ≤ c'.shared.db.transactionCount rideId ∧
      c'.shared.db.transactionCount rideId ≤ c.shared.db.transactionCount rideId + 1 := by
  rcases ((h (mover m)).own hstep fun _ _ hb => hb.elim).2 with hdb | ⟨a, g, hg, -, hdb, -, -⟩
  · rw [hdb]
    exact ⟨Nat.le_refl _, Nat.le_succ _⟩
  · rw [hdb]
    exact ⟨hg.least _, hg.most _⟩

theorem MayAdd.run (h : MayAdd rideId c) (hrun : c.run ms = some c') : MayAdd rideId c' := by
  induction ms generalizing c with
  | nil =>
    obtain rfl := Option.some.inj hrun
    exact h
  | cons m ms ih =>
    obtain ⟨c₁, h₁, h₂⟩ := Option.bind_eq_some_iff.mp hrun
    exact ih (h.step h₁) h₂

theorem MayAdd.count_run (h : MayAdd rideId c) (hrun : c.run ms = some c') :
    c.shared.db.transactionCount rideId ≤ c'.shared.db.transactionCount rideId := by
  induction ms generalizing c with
  | nil =>
    obtain rfl := Option.some.inj hrun
    exact Nat.le_refl _
  | cons m ms ih =>
    obtain ⟨c₁, h₁, h₂⟩ := Option.bind_eq_some_iff.mp hrun
    exact (h.count h₁).1.trans (ih (h.step h₁) h₂)

/-! ## What is known of a process -/

theorem hasTransaction_of_adds (h : 0 < db.transactionCount rideId) (hg : Adds rideId True g) :
    HasTransaction rideId True (g db) := by
  intro _
  rw [hg.none trivial]
  exact h

theorem Searching.other (h : Searching σ rideId i c₀ ms c) (hadd : MayAdd rideId c)
    (hrun : c₀.run ms = some c) (hstep : c.step m = some c') (hm : mover m ≠ i) :
    Searching σ rideId i c₀ (ms ++ [m]) c' := by
  have htask := (step_other hstep hm).1
  have hcount := (hadd.count hstep).1
  cases h with
  | idle h => exact .idle (htask.trans h)
  | ended h => exact .ended (htask.trans h)
  | late hsome hadds => exact .late (hsome.trans_le hcount) (hadds.other hstep hm)
  | alone before first between hms hfirst hnone =>
    by_cases hnone' : c'.shared.db.transactionCount rideId = 0
    · exact .alone before first (between ++ [m]) (by rw [hms]; simp) hfirst hnone'
    · refine .overtaken before first between m [] c (by rw [hms]) hfirst hm (by rw [← hms]; exact hrun)
        ⟨c', hstep, ?_⟩
      omega
  | overtaken before first between other rest c₂ hms hfirst hother hrun' hpub =>
    exact .overtaken before first between other (rest ++ [m]) c₂ (by rw [hms]; simp) hfirst hother hrun' hpub

theorem Searching.own (h : Searching σ rideId (mover m) c₀ ms c) (hadd : MayAdd rideId c)
    (hidle : c.task (mover m) = c₀.task (mover m) →
      c.Accumulates (HasTransaction rideId True) (Adds rideId True) (fun _ _ => True) (mover m))
    (hstep : c.step m = some c') : Searching σ rideId (mover m) c₀ (ms ++ [m]) c' := by
  have hcount := (hadd.count hstep).1
  have hnext : c'.task (mover m) = .ended ∨ c'.shared.db = c.shared.db := by
    rcases ((hadd (mover m)).own hstep fun _ _ hb => hb.elim).2 with hdb | ⟨-, -, -, -, -, hend, -⟩
    · exact Or.inr hdb
    · exact Or.inl hend
  have hlate (hsome : 0 < c.shared.db.transactionCount rideId)
      (hadds : c.Accumulates (HasTransaction rideId True) (Adds rideId True) (fun _ _ => True) (mover m)) :
      Searching σ rideId (mover m) c₀ (ms ++ [m]) c' :=
    .late (hsome.trans_le hcount) (hadds.own hstep fun g hg => hasTransaction_of_adds hsome hg).1
  cases h with
  | idle h =>
    by_cases hnone : c.shared.db.transactionCount rideId = 0
    · rcases hnext with hend | hdb
      · exact .ended hend
      · exact .alone ms m [] rfl rfl (by rw [hdb]; exact hnone)
    · exact hlate (Nat.pos_of_ne_zero hnone) (hidle h)
  | ended h => exact absurd rfl (mover_ne_of_ended h hstep)
  | late hsome hadds => exact hlate hsome hadds
  | alone before first between hms hfirst hnone =>
    rcases hnext with hend | hdb
    · exact .ended hend
    · exact .alone before first (between ++ [m]) (by rw [hms]; simp) hfirst (by rw [hdb]; exact hnone)
  | overtaken before first between other rest c₂ hms hfirst hother hrun' hpub =>
    exact .overtaken before first between other (rest ++ [m]) c₂ (by rw [hms]; simp) hfirst hother hrun' hpub

theorem Searching.run (hσ : ∀ i, (σ.op i).collects)
    (hrun : (σ.initial db₀ world).run ms = some c) (i : Proc) :
    Searching σ rideId i (σ.initial db₀ world) ms c := by
  induction ms using List.reverseRecOn generalizing c with
  | nil =>
    obtain rfl := Option.some.inj hrun
    exact .idle rfl
  | append_singleton ms m ih =>
    rw [run_snoc] at hrun
    obtain ⟨c₁, h₁, h₂⟩ := Option.bind_eq_some_iff.mp hrun
    have hadd : MayAdd rideId c₁ := (mayAdd_initial hσ db₀ world).run h₁
    by_cases hm : mover m = i
    · subst hm
      exact (ih h₁).own hadd (late_initial hσ) h₂
    · exact (ih h₁).other hadd h₁ h₂ hm

/-- A second transaction is published by a process that has been overtaken. -/
theorem overtaken_of_second (hσ : ∀ i, (σ.op i).collects)
    (hrun : (σ.initial db₀ world).run ms = some c) (hsome : 0 < c.shared.db.transactionCount rideId)
    (hpub : Publishes rideId c m) : Overtaken rideId (σ.initial db₀ world) (ms ++ [m]) := by
  obtain ⟨c', hstep, hmore⟩ := hpub
  have hnot (hadds : c.Accumulates (HasTransaction rideId True) (Adds rideId True) (fun _ _ => True)
      (mover m)) : False := by
    rcases (hadds.own hstep fun g hg => hasTransaction_of_adds hsome hg).2 with
      hdb | ⟨-, g, hg, -, hdb, -, -⟩ <;> rw [hdb] at hmore
    · exact Nat.lt_irrefl _ hmore
    · rw [hg.none trivial] at hmore
      exact Nat.lt_irrefl _ hmore
  have hknown : Searching σ rideId (mover m) (σ.initial db₀ world) ms c := Searching.run hσ hrun (mover m)
  cases hknown with
  | idle h => exact (hnot (late_initial hσ h)).elim
  | ended h => exact absurd rfl (mover_ne_of_ended h hstep)
  | late _ hadds => exact (hnot hadds).elim
  | alone _ _ _ _ _ hnone => omega
  | overtaken before first between other rest c₂ hms hfirst hother hrun' hpub' =>
    subst hms
    exact ⟨before, first, between, other, rest, m, [], c₂, c, by simp, hfirst, hother, hrun', hpub', hrun,
      c', hstep, hmore⟩

/-! ## Every schedule -/

theorem singleTransaction_of_count (h : db.transactionCount rideId ≤ 1) : SingleTransaction rideId db := by
  refine ⟨h, fun ask => ?_⟩
  unfold PaymentDb.transactionCount PaymentDb.transactionsOf at h
  unfold findByRideId run
  rw [exec_bind_of_ok _ _ _ (exec_select _ _ _ _)]
  generalize (db.transactions.rows.filter fun t => t.rideId = rideId) = rows at h ⊢
  rcases rows with _ | ⟨t, _ | ⟨t', ts⟩⟩
  · exact ⟨none, rfl⟩
  · exact ⟨some t, rfl⟩
  · simp at h

theorem Overtaken.snoc (h : Overtaken rideId c ms) : Overtaken rideId c (ms ++ [m]) := by
  obtain ⟨before, first, between, other, rest, last, later, c₂, c₃, rfl, h⟩ := h
  exact ⟨before, first, between, other, rest, last, later ++ [m], c₂, c₃, by simp, h⟩

/-- If the ride has at most one transaction at first: along every schedule it has at most one, and
`find_by_ride_id` returns, exactly if no process is overtaken. -/
theorem singleTransaction_iff (hσ : ∀ i, (σ.op i).collects) (hdb : db₀.transactionCount rideId ≤ 1)
    (hrun : (σ.initial db₀ world).run ms = some c) :
    EveryState (fun c => SingleTransaction rideId c.shared.db) (σ.initial db₀ world) ms ↔
      ¬ Overtaken rideId (σ.initial db₀ world) ms := by
  constructor
  · rintro hsingle ⟨before, first, between, other, rest, last, later, c₂, c₃, rfl, -, -, hrun₂, ⟨c₂', hstep₂, hmore₂⟩,
      hrun₃, c₃', hstep₃, hmore₃⟩
    rw [run_append_eq, hrun₂, Option.bind_some] at hrun₃
    obtain ⟨c', hstep, hrest⟩ := Option.bind_eq_some_iff.mp hrun₃
    obtain rfl : c' = c₂' := Option.some.inj (hstep.symm.trans hstep₂)
    have hadd : MayAdd rideId c₂ := (mayAdd_initial hσ db₀ world).run hrun₂
    have hcount := (hadd.step hstep).count_run hrest
    rw [List.append_assoc] at hsingle
    have hlast := (((hsingle.after hrun₂).2 c' hstep).after hrest).2 c₃' hstep₃
    have hone := hlast.first.single
    omega
  · intro hnot
    induction ms using List.reverseRecOn generalizing c with
    | nil => exact singleTransaction_of_count hdb
    | append_singleton ms m ih =>
      rw [run_snoc] at hrun
      obtain ⟨c₁, h₁, h₂⟩ := Option.bind_eq_some_iff.mp hrun
      have hbefore := ih h₁ fun h => hnot h.snoc
      refine (everyState_snoc h₁ h₂).mpr ⟨hbefore, singleTransaction_of_count ?_⟩
      by_contra hmore
      have hadd : MayAdd rideId c₁ := (mayAdd_initial hσ db₀ world).run h₁
      have hcount := hadd.count h₂
      have hone := (hbefore.last h₁).single
      exact hnot (overtaken_of_second hσ h₁ (by omega) ⟨c, h₂, by omega⟩)

end

/-- A completed ride of 1000 to be paid in cash, without a transaction. -/
def uncollectedDb : PaymentDb where
  rides := Table.empty.insert
    { id := 1, passengerUserId := 2, status := .completed, finalFare := some 1000
      platformCommission := some 180, driverPayoutEstimate := some 820, paymentMethod := .cash
      driverId := some 4 }

/-- Two confirmations that the cash of the ride was collected. -/
def twoConfirmations : RideScenario Bool Unit where
  op first := .confirmCash 1 1000 4 (if first then 7 else 8) 0
  receives w _ _ := w
  answers _ _ _ _ := none

/-- The first confirmation finds no transaction of the ride; the second one runs as a whole; the first one
goes on. -/
def overtaking : List (Move twoConfirmations.machine) :=
  List.replicate 2 (.go true) ++ List.replicate 12 (.go false) ++ List.replicate 6 (.go true)

theorem count_overtaking : ∃ c, (twoConfirmations.initial uncollectedDb ()).run overtaking = some c ∧
    c.shared.db.transactionCount 1 = 2 := by
  have htwo : ((twoConfirmations.initial uncollectedDb ()).run overtaking).any
      (fun c => c.shared.db.transactionCount 1 = 2) = true := by decide +kernel
  obtain ⟨c, hrun, hc⟩ := (Option.any_eq_true _ _).mp htwo
  exact ⟨c, hrun, of_decide_eq_true hc⟩

/-- The ride has two transactions. -/
theorem overtaking_not_single : ¬ EveryState (fun c => SingleTransaction 1 c.shared.db)
    (twoConfirmations.initial uncollectedDb ()) overtaking := by
  intro hsingle
  obtain ⟨c, hrun, htwo⟩ := count_overtaking
  have hone := (hsingle.last hrun).single
  omega

/-- The first confirmation is overtaken. -/
theorem singleTransaction_iff_overtaking :
    Overtaken 1 (twoConfirmations.initial uncollectedDb ()) overtaking := by
  obtain ⟨c, hrun, htwo⟩ := count_overtaking
  by_contra hnot
  have hcollects : ∀ first, (twoConfirmations.op first).collects := fun _ => rfl
  have hsingle := (singleTransaction_iff hcollects (by decide) hrun).mpr hnot
  have hone := (hsingle.last hrun).single
  omega

end DiddiGo.Payments
