import DiddiGo.Payments.Proofs.RepositoryProofs
import DiddiGo.Payments.Protocol
import DiddiGo.Transactions.Proofs.RelyGuaranteeProofs

/-!
# Transactions under the discipline

`Tx i P`: process `i` may commit at the point `P`. Rules that lead from one such point to the next, for
statements, calls and commits, and for programs that are built from them.
-/

namespace DiddiGo.Payments

open Data (Json Table)
open Transactions Prog RelyGuarantee

/-! ## The instance -/

theorem DriverWithdrawal.Later.refl (w : DriverWithdrawal) : w.Later w :=
  ⟨.refl w, fun _ => rfl, fun _ => rfl⟩

theorem DriverWithdrawal.Later.trans {w w' w'' : DriverWithdrawal} (h : w.Later w')
    (h' : w'.Later w'') : w.Later w'' where
  sameOrder := h.sameOrder.trans h'.sameOrder
  destination hd := by
    have h1 := h.destination hd
    rw [h'.destination (by rw [h1]; exact hd), h1]
  final hf := by
    have h1 := h.final hf
    have h2 := h'.final (by rw [h1]; exact hf)
    rw [h2, h1]

variable {Proc World : Type} {σ : Scenario Proc World}

theorem Grows.refl (s : Shared σ.machine) : Grows σ s s :=
  ⟨List.prefix_rfl, List.prefix_rfl, fun _ h => h, fun _ w h => ⟨w, h, .refl w⟩⟩

theorem Grows.trans {s s' s'' : Shared σ.machine} (h : Grows σ s s') (h' : Grows σ s' s'') :
    Grows σ s s'' where
  trace := h.trace.trans h'.trace
  ledger := h.ledger.trans h'.ledger
  wallets d hd := h'.wallets d (h.wallets d hd)
  later id w hw := by
    obtain ⟨w', hw', hl⟩ := h.later id w hw
    obtain ⟨w'', hw'', hl'⟩ := h'.later id w' hw'
    exact ⟨w'', hw'', hl.trans hl'⟩

theorem sameRow_refl (r : Row) (db : PaymentDb) : sameRow r db db := by
  cases r <;> simp [sameRow]

theorem sameRow_trans {r : Row} {db db' db'' : PaymentDb} (h : sameRow r db db')
    (h' : sameRow r db' db'') : sameRow r db db'' := by
  cases r <;> first | exact h.trans h' | trivial | skip
  exact ⟨h.1.trans h'.1, fun id => (h.2 id).trans (h'.2 id)⟩

variable (σ) in
/-- The discipline. -/
def protocol (opening earnedBefore : UUID → Decimal) : RelyGuarantee σ.machine where
  inv := Invariant σ opening earnedBefore
  rely := Rely σ
  guar := Guarantee σ
  same := sameRow
  rely_refl _ s := ⟨.refl s, fun _ _ h => h⟩
  rely_trans _ _ _ _ h h' := ⟨h.toGrows.trans h'.toGrows, fun e he hc => h.calls e he (h'.calls e he hc)⟩
  rely_of_guar i _ _ _ hij h :=
    ⟨h.toGrows, fun e he hc => (h.calls i e he hc).resolve_right hij⟩
  same_refl := sameRow_refl
  same_trans _ _ _ _ := sameRow_trans

/-! ## Uncommitted changes -/

/-- What a transaction finds under a key after its own changes depends only on what was there before. -/
structure Local (f : PaymentDb → PaymentDb) : Prop where
  wallets : ∀ db db' d, db.wallets.find? d = db'.wallets.find? d →
    (f db).wallets.find? d = (f db').wallets.find? d
  ledger : ∀ db db' k, db.ledger.find? k = db'.ledger.find? k →
    (f db).ledger.find? k = (f db').ledger.find? k
  withdrawals : ∀ db db' id, db.withdrawals.find? id = db'.withdrawals.find? id →
    (f db).withdrawals.find? id = (f db').withdrawals.find? id
  quotes : ∀ db db' q, db.quotes.find? q = db'.quotes.find? q →
    (f db).quotes.find? q = (f db').quotes.find? q

namespace Local

theorem id : Local id := ⟨fun _ _ _ h => h, fun _ _ _ h => h, fun _ _ _ h => h, fun _ _ _ h => h⟩

theorem comp {f g : PaymentDb → PaymentDb} (hg : Local g) (hf : Local f) : Local (g ∘ f) where
  wallets _ _ _ h := hg.wallets _ _ _ (hf.wallets _ _ _ h)
  ledger _ _ _ h := hg.ledger _ _ _ (hf.ledger _ _ _ h)
  withdrawals _ _ _ h := hg.withdrawals _ _ _ (hf.withdrawals _ _ _ h)
  quotes _ _ _ h := hg.quotes _ _ _ (hf.quotes _ _ _ h)

end Local

/-- The part of a withdrawal that says what to pay and where. -/
def DriverWithdrawal.order (w : DriverWithdrawal) : DriverWithdrawal :=
  { w with
    payoutId := none, providerStatus := none, failureCode := .null, failureMessage := .null
    status := .reserved, createdAt := 0, reservedAt := 0, succeededAt := none, releasedAt := none
    updatedAt := 0 }

/-- The changes make no withdrawal and leave the order of each as it is. -/
def KeepsOrders (f : PaymentDb → PaymentDb) : Prop :=
  ∀ db id, ((f db).withdrawals.find? id).map (·.order) = (db.withdrawals.find? id).map (·.order)

/-- The changes are to other tables than those of money. -/
structure Elsewhere (f : PaymentDb → PaymentDb) : Prop where
  wallets : ∀ db, (f db).wallets = db.wallets
  ledger : ∀ db, (f db).ledger = db.ledger
  withdrawals : ∀ db, (f db).withdrawals = db.withdrawals
  quotes : ∀ db, (f db).quotes = db.quotes

theorem Elsewhere.local {f : PaymentDb → PaymentDb} (h : Elsewhere f) : Local f where
  wallets db db' _ hd := by rw [h.wallets, h.wallets, hd]
  ledger db db' _ hd := by rw [h.ledger, h.ledger, hd]
  withdrawals db db' _ hd := by rw [h.withdrawals, h.withdrawals, hd]
  quotes db db' _ hd := by rw [h.quotes, h.quotes, hd]

theorem KeepsOrders.of_withdrawals {f : PaymentDb → PaymentDb}
    (h : ∀ db, (f db).withdrawals = db.withdrawals) : KeepsOrders f := by
  intro db id
  rw [h]

theorem KeepsOrders.comp {f g : PaymentDb → PaymentDb} (hg : KeepsOrders g) (hf : KeepsOrders f) :
    KeepsOrders (g ∘ f) :=
  fun db id => (hg (f db) id).trans (hf db id)

theorem KeepsOrders.destinationOf {f : PaymentDb → PaymentDb} (h : KeepsOrders f) (db : PaymentDb)
    (q id : UUID) : (f db).destinationOf q id = db.destinationOf q id := by
  have hof : ∀ o : Option DriverWithdrawal,
      (o.filter fun w => w.quoteId = q).map (·.beneficiaryDestination) =
        ((o.map (·.order)).filter fun w => w.quoteId = q).map (·.beneficiaryDestination) := by
    intro o
    cases o with
    | none => rfl
    | some w => by_cases hq : w.quoteId = q <;> simp [Option.filter, DriverWithdrawal.order, hq]
  unfold PaymentDb.destinationOf
  rw [hof, h db id, ← hof]

theorem KeepsOrders.find?_eq_none {f : PaymentDb → PaymentDb} (h : KeepsOrders f) {db : PaymentDb}
    {id : UUID} (hn : db.withdrawals.find? id = none) : (f db).withdrawals.find? id = none := by
  have hw := h db id
  rw [hn] at hw
  simpa using hw

/-- One write between two contents that a transaction sees. -/
structure Writes (held : Row → Prop) (db db' : PaymentDb) : Prop where
  ledger : db.ledger.rows <+: db'.ledger.rows
  wallets : ∀ d, (db.wallets.find? d).isSome → (db'.wallets.find? d).isSome
  later : ∀ id w, db.withdrawals.find? id = some w →
    ∃ w', db'.withdrawals.find? id = some w' ∧ w.Later w'
  frame : ∀ r, ¬ held r → sameRow r db db'

section Points

variable {opening earnedBefore : UUID → Decimal} {i : Proc} {P P' : Point σ.machine}
  {s : Shared σ.machine}

/-- Process `i` may commit at `P`. -/
def Ready (opening earnedBefore : UUID → Decimal) (i : Proc) (P : Point σ.machine) : Prop :=
  ∀ s, (protocol σ opening earnedBefore).Interferes i P s →
    (protocol σ opening earnedBefore).Permits i P.held s (s.store (P.pending s.db))

/-- Process `i` may commit at `P` and has not made a withdrawal in this transaction. -/
structure Tx (opening earnedBefore : UUID → Decimal) (i : Proc) (P : Point σ.machine) : Prop where
  ready : Ready opening earnedBefore i P
  isLocal : Local P.pending
  orders : KeepsOrders P.pending

/-- What others may do at `P'` they may do at `P`. -/
theorem Interferes.weaken
    (h : (protocol σ opening earnedBefore).Interferes i P' s)
    (hheld : ∀ r, P.held r → P'.held r)
    (hs : (protocol σ opening earnedBefore).Interferes i P P'.shared) :
    (protocol σ opening earnedBefore).Interferes i P s where
  same r hr := sameRow_trans (hs.same r hr) (h.same r (hheld r hr))
  rely := (protocol σ opening earnedBefore).rely_trans _ _ _ _ hs.rely h.rely
  inv := h.inv

theorem Tx.withShared (h : Tx opening earnedBefore i P)
    (hs : (protocol σ opening earnedBefore).Interferes i P s) :
    Tx opening earnedBefore i (P.withShared s) :=
  ⟨fun s' hs' => h.ready s' (hs.trans hs'), h.isLocal, h.orders⟩

/-- A transaction that has not started. -/
theorem Tx.of_id (hpend : P.pending = id) :
    Tx opening earnedBefore i P where
  ready s hs := by
    rw [hpend]
    refine ⟨hs.inv, ⟨.refl s, fun _ _ _ h => Or.inl h, ?_, ?_⟩, fun r _ => sameRow_refl r _⟩
    · intro id w hn hw
      rw [Shared.store, id_eq, hn] at hw
      cases hw
    · intro _ _ j r ht
      simp [Shared.store] at ht
  isLocal := by rw [hpend]; exact .id
  orders := by rw [hpend]; exact fun _ _ => rfl

/-- The result of a process does not matter. -/
theorem Ready.ends (h : Ready opening earnedBefore i P) (a : Unit) :
    (protocol σ opening earnedBefore).Ends i (.ok a) P := by
  intro s hs
  obtain ⟨hinv, hguar, hframe⟩ := h s hs
  refine ⟨⟨hinv.books, hinv.quoteBooks, hinv.balanced, hinv.recorded, hinv.payouts,
    hinv.asked, ?_⟩,
    ⟨⟨hguar.trace, hguar.ledger, hguar.wallets, hguar.later⟩, hguar.calls, hguar.funds, hguar.sends⟩,
    hframe⟩
  intro hst hn
  obtain ⟨h1, h2, h3, h4, h5⟩ := hinv.settled hst hn
  exact ⟨h1, h2, h3, h4, h5⟩

/-- A process may always end with an exception. -/
theorem ends_error (e : Err) : (protocol σ opening earnedBefore).Ends i (.error e) P := by
  intro s hs
  obtain ⟨hinv, hguar, hframe⟩ :=
    (Tx.of_id (i := i) (P := (⟨s, fun _ => False, id⟩ : Point σ.machine)) rfl).ready s
      (Interferes.refl hs.inv)
  refine ⟨⟨hinv.books, hinv.quoteBooks, hinv.balanced, hinv.recorded, hinv.payouts,
    hinv.asked, ?_⟩,
    ⟨⟨hguar.trace, hguar.ledger, hguar.wallets, hguar.later⟩, hguar.calls, hguar.funds, hguar.sends⟩,
    fun r _ => sameRow_refl r _⟩
  intro hst hn
  obtain ⟨h1, h2, h3, h4, h5⟩ := hinv.settled hst hn
  exact ⟨h1, h2, h3, h4, h5⟩

/-! ## Writes -/

theorem payoutRequest_later {w w' : DriverWithdrawal} (h : w.Later w')
    (hd : w.beneficiaryDestination.isSome) : payoutRequest w' = payoutRequest w := by
  obtain ⟨h1, h2, h3, h4, h5, h6, h7, h8, h9, h10⟩ := h.sameOrder
  simp only [payoutRequest, h1, h2, h3, h5, h6, h7, h8, h9, h10, h.destination hd]

/-- Other contents with the same past. -/
theorem Invariant.store {db db' : PaymentDb}
    (h : Invariant σ opening earnedBefore (s.store db)) (hb : Books db') (hq : QuoteBooks db')
    (hbal : Fresh s.trace → db'.Balanced opening earnedBefore)
    (hl : ∀ id w, db.withdrawals.find? id = some w →
      ∃ w', db'.withdrawals.find? id = some w' ∧ w.Later w')
    (hset : Strict σ → NoReuse s.trace → ∀ id w', db'.withdrawals.find? id = some w' →
      w'.businessReference = payoutReference id ∧ (w'.status = .released → Justified s.trace id)) :
    Invariant σ opening earnedBefore (s.store db') where
  books := hb
  quoteBooks := hq
  balanced := hbal
  recorded := h.recorded
  payouts j r hc := by
    obtain ⟨w, hw, hr, hd⟩ := h.payouts j r hc
    obtain ⟨w', hw', hlater⟩ := hl _ _ hw
    exact ⟨w', hw', (payoutRequest_later hlater hd).trans hr,
      by rw [hlater.destination hd]; exact hd⟩
  asked := h.asked
  settled hst hn :=
    have hold := h.settled hst hn
    { references := fun id w hw => (hset hst hn id w hw).1
      caller := hold.caller
      accepted := hold.accepted
      reported := hold.reported
      released := fun id w hw => (hset hst hn id w hw).2 }

/-- Other contents in which no withdrawal is new. -/
theorem Invariant.store_of_old {db db' : PaymentDb}
    (h : Invariant σ opening earnedBefore (s.store db)) (hb : Books db') (hq : QuoteBooks db')
    (hbal : Fresh s.trace → db'.Balanced opening earnedBefore)
    (hl : ∀ id w, db.withdrawals.find? id = some w →
      ∃ w', db'.withdrawals.find? id = some w' ∧ w.Later w')
    (hold : ∀ id w', db'.withdrawals.find? id = some w' →
      ∃ w, db.withdrawals.find? id = some w ∧ w.SameOrder w' ∧
        (w'.status = .released → w.status = .released ∨
          (Strict σ → NoReuse s.trace → Justified s.trace id))) :
    Invariant σ opening earnedBefore (s.store db') := by
  refine h.store hb hq hbal hl fun hst hn id w' hw' => ?_
  obtain ⟨w, hw, hsame, hrel⟩ := hold id w' hw'
  have hs := h.settled hst hn
  refine ⟨hsame.businessReference.trans (hs.references id w hw), fun hr => ?_⟩
  rcases hrel hr with hr' | hr'
  · exact hs.released id w hw hr'
  · exact hr' hst hn

/-- After a write the process may commit, if a withdrawal that the write makes leaves no debt. -/
theorem Tx.ready_write {g : PaymentDb → PaymentDb} (h : Tx opening earnedBefore i P)
    (hs : (protocol σ opening earnedBefore).Interferes i P P'.shared)
    (hheld : ∀ r, P.held r → P'.held r) (hpend : P'.pending = g ∘ P.pending)
    (hstep : ∀ s, (protocol σ opening earnedBefore).Interferes i P' s →
      Invariant σ opening earnedBefore (s.store (P.pending s.db)) →
      Writes P'.held (P.pending s.db) (g (P.pending s.db)) ∧
        Invariant σ opening earnedBefore (s.store (g (P.pending s.db))) ∧
        ∀ id w, (P.pending s.db).withdrawals.find? id = none →
          (g (P.pending s.db)).withdrawals.find? id = some w →
          0 ≤ (g (P.pending s.db)).balance w.driverId) :
    Ready opening earnedBefore i P' := by
  intro s hs'
  have hold := h.ready s (Interferes.weaken hs' hheld hs)
  obtain ⟨hw, hinv, hfunds⟩ := hstep s hs' hold.inv
  rw [hpend]
  refine ⟨hinv, ⟨⟨List.prefix_rfl, hold.guar.ledger.trans hw.ledger,
    fun d hd => hw.wallets d (hold.guar.wallets d hd), ?_⟩, fun _ _ _ hc => Or.inl hc, ?_, ?_⟩, ?_⟩
  · intro id w hf
    obtain ⟨w1, hf1, hl1⟩ := hold.guar.later id w hf
    obtain ⟨w2, hf2, hl2⟩ := hw.later id w1 hf1
    exact ⟨w2, hf2, hl1.trans hl2⟩
  · exact fun id w hn hf => hfunds id w (h.orders.find?_eq_none hn) hf
  · intro _ _ j r ht
    simp [Shared.store] at ht
  · intro r hr
    exact sameRow_trans (hold.frame r fun hr' => hr (hheld r hr')) (hw.frame r hr)

/-- A write that makes no withdrawal leads from one point where the process may commit to the next. -/
theorem Tx.write {g : PaymentDb → PaymentDb} (h : Tx opening earnedBefore i P)
    (hs : (protocol σ opening earnedBefore).Interferes i P P'.shared)
    (hheld : ∀ r, P.held r → P'.held r) (hpend : P'.pending = g ∘ P.pending) (hg : Local g)
    (ho : KeepsOrders g)
    (hstep : ∀ s, (protocol σ opening earnedBefore).Interferes i P' s →
      Invariant σ opening earnedBefore (s.store (P.pending s.db)) →
      Writes P'.held (P.pending s.db) (g (P.pending s.db)) ∧
        Invariant σ opening earnedBefore (s.store (g (P.pending s.db)))) :
    Tx opening earnedBefore i P' where
  ready := h.ready_write hs hheld hpend fun s hs' hinv => by
    obtain ⟨hw, hinv'⟩ := hstep s hs' hinv
    refine ⟨hw, hinv', fun id w hn hf => ?_⟩
    rw [ho.find?_eq_none hn] at hf
    cases hf
  isLocal := by rw [hpend]; exact hg.comp h.isLocal
  orders := by rw [hpend]; exact ho.comp h.orders

/-- More locks. -/
theorem Tx.hold (h : Tx opening earnedBefore i P)
    (hs : (protocol σ opening earnedBefore).Interferes i P P'.shared)
    (hheld : ∀ r, P.held r → P'.held r) (hpend : P'.pending = P.pending) :
    Tx opening earnedBefore i P' :=
  h.write hs hheld (g := id) (by rw [hpend]; rfl) .id (fun _ _ => rfl) fun _ _ hinv =>
    ⟨⟨List.prefix_rfl, fun _ h => h, fun _ w hw => ⟨w, hw, .refl w⟩, fun r _ => sameRow_refl r _⟩,
      hinv⟩

/-- A write to other tables. -/
theorem Tx.elsewhere {g : PaymentDb → PaymentDb} (h : Tx opening earnedBefore i P)
    (hs : (protocol σ opening earnedBefore).Interferes i P P'.shared)
    (hheld : ∀ r, P.held r → P'.held r) (hpend : P'.pending = g ∘ P.pending)
    (hg : Elsewhere g) : Tx opening earnedBefore i P' := by
  refine h.write hs hheld hpend hg.local (.of_withdrawals hg.withdrawals) fun s _ hinv => ?_
  have hlater : ∀ id w, (P.pending s.db).withdrawals.find? id = some w →
      ∃ w', (g (P.pending s.db)).withdrawals.find? id = some w' ∧ w.Later w' :=
    fun id w hw => ⟨w, by rw [hg.withdrawals]; exact hw, .refl w⟩
  refine ⟨⟨by simp only [hg.ledger, List.prefix_rfl], fun d hd => by rw [hg.wallets]; exact hd, hlater, fun r _ => ?_⟩, ?_⟩
  · cases r <;> simp [sameRow, hg.wallets, hg.ledger, hg.withdrawals, hg.quotes,
      PaymentDb.destinationOf]
  · refine hinv.store_of_old (hinv.books.congr (hg.withdrawals _) (hg.ledger _))
      (hinv.quoteBooks.congr (hg.withdrawals _) (hg.quotes _)) (fun hf => ?_) hlater ?_
    · exact (hinv.balanced hf).congr (hg.wallets _) (hg.ledger _) (hg.withdrawals _)
    · intro id w hw
      rw [hg.withdrawals] at hw
      exact ⟨w, hw, .refl w, fun hr => Or.inl hr⟩

/-! ## Records -/

/-- A longer trace with the same contents. -/
theorem Fresh.along {t t' : List (Event σ.machine)} (h : Fresh t') (ht : t <+: t') : Fresh t :=
  fun i d read view hm => h i d read view (ht.subset hm)

theorem NoReuse.along {t t' : List (Event σ.machine)} (h : NoReuse t') (ht : t <+: t') :
    NoReuse t :=
  fun i q view hm => h i q view (ht.subset hm)

theorem Justified.along {t t' : List (Event σ.machine)} {id : UUID} (h : Justified t id)
    (ht : t <+: t') : Justified t' id := by
  rcases h with ⟨i, q, a, hm, hf⟩ | ⟨i, r, a, hm, hr⟩
  · exact Or.inl ⟨i, q, a, ht.subset hm, hf⟩
  · exact Or.inr ⟨i, r, a, ht.subset hm, hr⟩

/-- A new record in the trace. -/
theorem Settled.record {s' : Shared σ.machine} {e : Event σ.machine} (h : Settled σ s)
    (hdb : s'.db = s.db) (ht : s'.trace = s.trace ++ [e])
    (hcaller : ∀ j r, e = .sent j (Query.createPayout r) →
      (σ.op j).newWithdrawal = some r.withdrawalId)
    (haccepted : ∀ j r, σ.accepted s'.world j r →
      Event.sent j (Query.createPayout r) ∈ s'.trace ∧
        ∀ a, Event.answered j (Query.createPayout r) a ∈ s'.trace → isRejection a = false)
    (hreported : ∀ j q a b, e = .answered j q a → reportsFailure q a b →
      ∃ j r, σ.accepted s'.world j r ∧ r.businessReference = b) : Settled σ s' := by
  have hlonger : s.trace <+: s'.trace := ht ▸ List.prefix_append _ _
  have hmem : ∀ {e'}, e' ∈ s'.trace → e' ∈ s.trace ∨ e' = e := by
    intro e' he'
    rw [ht] at he'
    exact (List.mem_append.mp he').imp_right List.mem_singleton.mp
  refine ⟨by rw [hdb]; exact h.references, fun j r hm => ?_, haccepted, ?_, ?_⟩
  · rcases hmem hm with hm | hm
    · exact h.caller j r hm
    · exact hcaller j r hm.symm
  · rintro b ⟨j, q, a, hm, hf⟩
    rcases hmem hm with hm | hm
    · obtain ⟨j', r, hm', hb⟩ := h.reported b ⟨j, q, a, hm, hf⟩
      exact ⟨j', r, hlonger.subset hm', hb⟩
    · obtain ⟨j', r, hacc, hb⟩ := hreported j q a b hm.symm hf
      exact ⟨j', r, (haccepted j' r hacc).1, hb⟩
  · rw [hdb]
    exact fun id w hw hr => (h.released id w hw hr).along hlonger

/-- A new record that is not about a call of `create_payout`. -/
theorem Settled.record_other {s' : Shared σ.machine} {e : Event σ.machine} (h : Settled σ s)
    (hdb : s'.db = s.db) (ht : s'.trace = s.trace ++ [e]) (he : ∀ j, ¬ PayoutCall j e)
    (haccepted : ∀ j r, σ.accepted s'.world j r → σ.accepted s.world j r)
    (hreported : ∀ j q a b, e = .answered j q a → reportsFailure q a b →
      ∃ j r, σ.accepted s'.world j r ∧ r.businessReference = b) : Settled σ s' := by
  refine h.record hdb ht (fun j r hj => absurd (hj ▸ .sent r) (he j)) (fun j r hr => ?_) hreported
  obtain ⟨hsent, hrej⟩ := h.accepted j r (haccepted j r hr)
  rw [ht]
  refine ⟨List.mem_append_left _ hsent, fun a hm => ?_⟩
  rcases List.mem_append.mp hm with hm | hm
  · exact hrej a hm
  · exact absurd (List.mem_singleton.mp hm ▸ .answered r a) (he j)

/-- What a new record in the trace must satisfy. -/
theorem Invariant.record {s' : Shared σ.machine} {e : Event σ.machine}
    (h : Invariant σ opening earnedBefore s) (hdb : s'.db = s.db) (ht : s'.trace = s.trace ++ [e])
    (hrec : ∀ j d read view, e = .stmt j (Label.walletUpdate d read) view → (σ.op j).records)
    (hpay : ∀ j r, e = .sent j (Query.createPayout r) →
      ∃ w, s.db.withdrawals.find? r.withdrawalId = some w ∧ payoutRequest w = r ∧
        w.beneficiaryDestination.isSome)
    (hask : ∀ j r a, e = .answered j (Query.createPayout r) a →
      Event.sent j (Query.createPayout r) ∈ s.trace)
    (hset : Strict σ → NoReuse s'.trace → Settled σ s → Settled σ s') :
    Invariant σ opening earnedBefore s' := by
  have hlonger : s.trace <+: s'.trace := ht ▸ List.prefix_append _ _
  have hmem : ∀ {e'}, e' ∈ s'.trace → e' ∈ s.trace ∨ e' = e := by
    intro e' he'
    rw [ht] at he'
    exact (List.mem_append.mp he').imp_right List.mem_singleton.mp
  exact
    { books := by rw [hdb]; exact h.books
      quoteBooks := by rw [hdb]; exact h.quoteBooks
      balanced := fun hf => by rw [hdb]; exact h.balanced (hf.along hlonger)
      recorded := fun j d read view hm =>
        (hmem hm).elim (h.recorded j d read view) fun he => hrec j d read view he.symm
      payouts := fun j r hm => by
        rw [hdb]
        exact (hmem hm).elim (h.payouts j r) fun he => hpay j r he.symm
      asked := fun j r a hm => hlonger.subset <|
        (hmem hm).elim (h.asked j r a) fun he => hask j r a he.symm
      settled := fun hst hn => hset hst hn (h.settled hst (hn.along hlonger)) }

/-- A recorded step of process `i`. -/
theorem Guarantee.record {s' : Shared σ.machine} {e : Event σ.machine} (hdb : s'.db = s.db)
    (ht : s'.trace = s.trace ++ [e]) (he : ∀ j, PayoutCall j e → j = i)
    (hsend : Strict σ → NoReuse s'.trace → ∀ j r, e = .sent j (Query.createPayout r) →
      ∀ w, s.db.withdrawals.find? r.withdrawalId = some w → w.status ≠ .released) :
    Guarantee σ i s s' where
  trace := ht ▸ List.prefix_append _ _
  ledger := by simp only [hdb, List.prefix_rfl]
  wallets d hd := by rw [hdb]; exact hd
  later id w hw := ⟨w, by rw [hdb]; exact hw, .refl w⟩
  calls j e' he' hm := by
    rw [ht, List.mem_append, List.mem_singleton] at hm
    refine hm.imp_right fun hm => ?_
    subst hm
    exact he j he'
  funds id w hn hw := by
    rw [hdb, hn] at hw
    cases hw
  sends hst hn j r hj := by
    rw [ht] at hj
    exact hsend hst hn j r (List.singleton_inj.mp (List.append_cancel_left hj))

theorem Guarantee.rely_record {s' : Shared σ.machine} {e : Event σ.machine}
    (hg : Guarantee σ i s s') (ht : s'.trace = s.trace ++ [e])
    (he : ∀ j, ¬ PayoutCall j e) : Rely σ i s s' where
  toGrows := hg.toGrows
  calls e' he' hm := by
    rw [ht, List.mem_append, List.mem_singleton] at hm
    exact hm.resolve_right fun hm => he i (hm ▸ he')

/-- A new record that is not about a call of `create_payout`. -/
theorem permits_record {held : Row → Prop} {s' : Shared σ.machine} {e : Event σ.machine}
    (h : Invariant σ opening earnedBefore s) (hdb : s'.db = s.db) (ht : s'.trace = s.trace ++ [e])
    (he : ∀ j, ¬ PayoutCall j e)
    (hrec : ∀ j d read view, e = .stmt j (Label.walletUpdate d read) view → (σ.op j).records)
    (haccepted : Strict σ → ∀ j r, σ.accepted s'.world j r → σ.accepted s.world j r)
    (hreported : Strict σ → ∀ j q a b, e = .answered j q a → reportsFailure q a b →
      ∃ j r, σ.accepted s'.world j r ∧ r.businessReference = b) :
    (protocol σ opening earnedBefore).Permits i held s s' := by
  refine ⟨h.record hdb ht hrec (fun j r hj => absurd (hj ▸ .sent r) (he j))
    (fun j r a hj => absurd (hj ▸ .answered r a) (he j))
    fun hst _ hset => hset.record_other hdb ht he (haccepted hst) (hreported hst),
    Guarantee.record hdb ht (fun j hj => absurd hj (he j))
      fun _ _ j r hj => absurd (hj ▸ .sent r) (he j), fun r _ => ?_⟩
  rw [hdb]
  exact sameRow_refl r _

theorem Interferes.record {s' : Shared σ.machine} {e : Event σ.machine}
    (hs : (protocol σ opening earnedBefore).Interferes i P s)
    (hp : (protocol σ opening earnedBefore).Permits i (fun _ => False) s s')
    (ht : s'.trace = s.trace ++ [e]) (he : ∀ j, ¬ PayoutCall j e) :
    (protocol σ opening earnedBefore).Interferes i P s' :=
  hs.trans ⟨fun r _ => hp.frame r id, hp.guar.rely_record ht he, hp.inv⟩

/-- A named statement is recorded. -/
theorem permits_note {held : Row → Prop} {l : Label} {view : PaymentDb}
    (h : Invariant σ opening earnedBefore s)
    (hrec : ∀ d read, l = .walletUpdate d read → (σ.op i).records) :
    (protocol σ opening earnedBefore).Permits i held s (s.note i (some l) view) := by
  refine permits_record h rfl rfl (fun _ he => nomatch he) ?_ (fun _ _ _ h => h)
    fun _ _ _ _ _ he => nomatch he
  intro j d read view' he
  cases he
  exact hrec d read rfl

theorem Interferes.note {l : Label} {view : PaymentDb}
    (hs : (protocol σ opening earnedBefore).Interferes i P s)
    (hrec : ∀ d read, l = .walletUpdate d read → (σ.op i).records) :
    (protocol σ opening earnedBefore).Interferes i P (s.note i (some l) view) :=
  Interferes.record hs (permits_note hs.inv hrec) rfl fun _ he => nomatch he

/-- Anything but a request for a payout is sent. -/
theorem permits_send {held : Row → Prop} {q : Query} (h : Invariant σ opening earnedBefore s)
    (hq : ∀ r, q ≠ .createPayout r) :
    (protocol σ opening earnedBefore).Permits i held s (s.send i q) := by
  refine permits_record h rfl rfl ?_ (fun _ _ _ _ he => nomatch he) (fun hst j r hr => ?_)
    fun _ _ _ _ _ he => nomatch he
  · rintro _ ⟨r⟩
    exact hq r rfl
  · exact (hst.honest.receives _ _ _ _ _ hr).resolve_right fun hr' => hq r hr'.2

/-- It is answered. -/
theorem permits_reply {held : Row → Prop} {q : Query} {a : Answer} {w : World}
    (h : Invariant σ opening earnedBefore s) (hq : ∀ r, q ≠ .createPayout r)
    (ha : σ.answers s.world i q a = some w) :
    (protocol σ opening earnedBefore).Permits i held s (s.reply i q a w) := by
  refine permits_record h rfl rfl ?_ (fun _ _ _ _ he => nomatch he) (fun hst j r hr => ?_)
    fun hst j q' a' b he hf => ?_
  · rintro _ (_ | ⟨r, a⟩)
    exact hq r rfl
  · exact (hst.honest.answers _ _ _ _ _ _ _ ha hr).1.resolve_right fun hr' => hq r hr'.2
  · cases he
    exact hst.honest.reports _ _ _ _ _ _ ha hf

theorem Interferes.send {q : Query} (hs : (protocol σ opening earnedBefore).Interferes i P s)
    (hq : ∀ r, q ≠ .createPayout r) :
    (protocol σ opening earnedBefore).Interferes i P (s.send i q) := by
  refine Interferes.record hs (permits_send hs.inv hq) rfl ?_
  rintro _ ⟨r⟩
  exact hq r rfl

theorem Interferes.reply {q : Query} {a : Answer} {w : World}
    (hs : (protocol σ opening earnedBefore).Interferes i P s) (hq : ∀ r, q ≠ .createPayout r)
    (ha : σ.answers s.world i q a = some w) :
    (protocol σ opening earnedBefore).Interferes i P (s.reply i q a w) := by
  refine Interferes.record hs (permits_reply hs.inv hq ha) rfl ?_
  rintro _ (_ | ⟨r, a⟩)
  exact hq r rfl

end Points

end DiddiGo.Payments
