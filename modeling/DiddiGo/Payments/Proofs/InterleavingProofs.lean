import DiddiGo.Payments.Proofs.CallbackProofs

/-!
# Interleaved runs

Every process is verified, so every state that interleaved requests can reach satisfies the invariant.
The guarantees about wallets, withdrawals and quotes are read off it.
-/

namespace DiddiGo.Payments

open Data (Json Keyed Table)
open Transactions Prog RelyGuarantee

variable {Proc World : Type} {σ : Scenario Proc World} {opening earnedBefore : UUID → Decimal}

/-! ## Processes -/

theorem Safe.verified {α : Type} {i : Proc} {p : Action α} (h : Safe σ opening earnedBefore i p)
    (s : Shared σ.machine) : (protocol σ opening earnedBefore).Verified i (Prog.ignore p) s :=
  verified_of_ready (wpOk_bind (h _ (Tx.of_id rfl)) fun _ _ h => wpOk_ret h.tx.ready)

theorem not_strict {i : Proc} (h : (σ.op i).isRequest = false) : ¬ Strict σ := by
  intro hst
  rw [hst.requests i] at h
  cases h

/-- Every process may run from a state in which nothing has happened. -/
theorem verified_op (i : Proc) {s : Shared σ.machine} (hs : s.trace = []) :
    (protocol σ opening earnedBefore).Verified i (σ.op i).action s := by
  have hstart : Tx opening earnedBefore i (Point.start s) := .of_id rfl
  cases hop : σ.op i with
  | record e he now => exact (safe_recordLedgerEntryOnce (by rw [hop]; rfl) he now).verified s
  | reserve w now =>
    have hst := not_strict (σ := σ) (i := i) (by rw [hop]; rfl)
    exact verified_of_ready (wpOk_bind (wpOk_reserveWithdrawalFromQuote hstart w now
      fun h => absurd h hst) fun _ _ h => wpOk_ret h.ready)
  | mark id p now =>
    have hst := not_strict (σ := σ) (i := i) (by rw [hop]; rfl)
    exact verified_of_ready (wpOk_bind (wpOk_markWithdrawalProviderState hstart
      fun _ h => absurd h hst) fun _ _ h => wpOk_ret h.tx.ready)
  | payoutWebhook data payoutId now =>
    have hst := not_strict (σ := σ) (i := i) (by rw [hop]; rfl)
    exact verified_of_ready (wpOk_bind (wpOk_applyPayoutWebhook hstart
      (fun h => absurd h hst) payoutId now) fun _ _ h => wpOk_ret h.tx.ready)
  | sweepWithdrawals b now => exact (safe_reconcileStaleWithdrawals b now {}).verified s
  | withdraw cfg r =>
    exact verified_of_ready (wpOk_bind (wpOk_requestWithdrawal hstart cfg r (by rw [hop]; rfl)
      fun e _ hm => by rw [Point.start, hs] at hm; cases hm) fun _ _ h => wpOk_ret h.ready)
  | reconcileWithdrawal id now => exact (safe_reconcileWithdrawal id now).verified s
  | quote cfg driverUserId quoteId amount now =>
    exact (safe_quoteWithdrawal cfg driverUserId quoteId amount now).verified s
  | topup r => exact (safe_createTopup (by rw [hop]; rfl) r).verified s
  | confirmCash rideId amount collectedBy transactionId now =>
    exact (safe_confirmCash (by rw [hop]; rfl) rideId amount collectedBy transactionId now).verified s
  | prepare r => exact (safe_preparePayment r).verified s
  | webhook call => exact (safe_receiveWebhook (by rw [hop]; rfl) call).verified s
  | sweep b now => exact (safe_reconcilePending (by rw [hop]; rfl) b now).verified s
  | reconcileTransaction rideId now =>
    exact (safe_reconcileTransaction (by rw [hop]; rfl) rideId now).verified s
  | reconcileTopup topupId now =>
    exact (safe_reconcileTopup (by rw [hop]; rfl) topupId now).verified s

/-! ## Reachable states -/

/-- What the balances were before the entries of the ledger. -/
def PaymentDb.uncounted (db : PaymentDb) (d : UUID) : Decimal := db.balance d - db.countedTotal d

/-- What the balances were before the earnings in the ledger. -/
def PaymentDb.unearned (db : PaymentDb) (d : UUID) : Decimal := db.balance d - db.earnedTotal d

theorem Unused.books {db : PaymentDb} (h : Unused db) : Books db where
  reserved id w hw := by rw [h.withdrawals] at hw; cases hw
  released id w hw := by rw [h.withdrawals] at hw; cases hw
  succeeded id w hw := by rw [h.withdrawals] at hw; cases hw
  notFailed id w hw := by rw [h.withdrawals] at hw; cases hw
  owned k e he ht := by
    rw [h.ledger k e he] at ht
    cases ht

theorem Unused.quoteBooks {db : PaymentDb} (h : Unused db) : QuoteBooks db where
  quoted id w hw := by rw [h.withdrawals] at hw; cases hw
  consumed id q hq hc := by
    rw [h.quotes id q hq] at hc
    cases hc
  oncePerQuote id id' w w' hw := by rw [h.withdrawals] at hw; cases hw

theorem Unused.withdrawnTotal {db : PaymentDb} (h : Unused db) (p : WithdrawalStatus → Bool)
    (d : UUID) : db.withdrawnTotal p d = 0 := by
  rw [PaymentDb.withdrawnTotal, h.withdrawals]
  rfl

theorem Unused.balanced {db : PaymentDb} (h : Unused db) :
    db.Balanced db.uncounted db.unearned where
  counted d := by simp [PaymentDb.uncounted]
  held d := by simp [PaymentDb.unearned, h.withdrawnTotal]

/-- Nothing has happened and the provider has taken charge of nothing. -/
theorem invariant_initial {db : PaymentDb} {world : World} (hdb : Unused db)
    (haccepted : ∀ i r, ¬ σ.accepted world i r) :
    Invariant σ db.uncounted db.unearned (σ.initial db world).shared where
  books := hdb.books
  quoteBooks := hdb.quoteBooks
  balanced _ := hdb.balanced
  recorded _ _ _ _ hm := by cases hm
  payouts _ _ hm := by cases hm
  asked _ _ _ hm := by cases hm
  settled _ _ :=
    { references := fun id w hw => by
        change db.withdrawals.find? id = some w at hw
        rw [hdb.withdrawals] at hw
        cases hw
      caller := fun _ _ hm => by cases hm
      accepted := fun i r hr => absurd hr (haccepted i r)
      reported := fun b ⟨_, _, _, hm, _⟩ => by cases hm
      released := fun id w hw => by
        change db.withdrawals.find? id = some w at hw
        rw [hdb.withdrawals] at hw
        cases hw }

variable [DecidableEq Proc] {db : PaymentDb} {world : World} {ms ms' : List (Move σ.machine)}
  {c c' : Config σ.machine}

theorem sound_run (hdb : Unused db) (haccepted : ∀ i r, ¬ σ.accepted world i r)
    (h : (σ.initial db world).run ms = some c) :
    (protocol σ db.uncounted db.unearned).Sound c :=
  (sound_initial (invariant_initial hdb haccepted) fun i => verified_op i rfl).run h

/-- The same processes, whatever the provider has taken charge of. -/
abbrev Scenario.unaccepting (σ : Scenario Proc World) : Scenario Proc World :=
  { σ with accepted := fun _ _ _ => False }

theorem sound_run_unaccepting (hdb : Unused db) (h : (σ.initial db world).run ms = some c) :
    (protocol σ.unaccepting db.uncounted db.unearned).Sound c := by
  have h' : (σ.unaccepting.initial db world).run ms = some c := h
  exact sound_run hdb (fun _ _ h => h) h'

theorem invariant_run (hdb : Unused db) (h : (σ.initial db world).run ms = some c) :
    Invariant σ.unaccepting db.uncounted db.unearned c.shared :=
  (sound_run_unaccepting hdb h).inv

theorem grows_run (hdb : Unused db) (h : (σ.initial db world).run ms = some c)
    (h' : c.run ms' = some c') : Grows σ.unaccepting c.shared c'.shared :=
  (sound_run_unaccepting hdb h).run_rel h' (fun s => .refl s) (fun _ _ _ h h' => h.trans h')
    fun _ _ _ _ _ hg => hg.toGrows

omit [DecidableEq Proc] in
theorem fresh_of_records {trace : List (Event σ.machine)}
    (hrecorded : ∀ i d read view, Event.stmt i (Label.walletUpdate d read) view ∈ trace →
      (σ.op i).records) (hrec : ∀ i, (σ.op i).records = false) : Fresh trace := by
  intro i d read view hm
  have h := hrecorded i d read view hm
  rw [hrec i] at h
  cases h

/-! ## Wallets -/

theorem sum_rows_append {t t' : Table DriverLedgerEntry} {new : List DriverLedgerEntry}
    (h : t'.rows = t.rows ++ new) (f : DriverLedgerEntry → Decimal) :
    t'.sum f = t.sum f + (new.map f).sum := by
  rw [Table.sum, h, List.map_append, List.sum_append, Table.sum]

theorem fresh_of_all {M : Machine sig} {trace : List (Event M)} (h : trace.all isFresh) :
    Fresh trace := by
  intro i d read view hm
  simpa [isFresh] using List.all_eq_true.mp h _ hm

/-- Two top-ups of one driver are credited at the same time. -/
def twoTopups : Scenario Bool Unit where
  op first := .record (topupEntry
    { id := if first then 7 else 8, driverId := 1, amount := if first then 500 else 300
      createdAt := 0 } 0) rfl 0
  receives w _ _ := w
  answers _ _ _ _ := none
  accepted _ _ _ := False

/-- A driver with 1000 and no history. -/
def fundedDb : PaymentDb :=
  { wallets := Table.empty.insert { driverId := 1, balance := 1000 } }

theorem unused_fundedDb : Unused fundedDb where
  withdrawals := rfl
  ledger _ _ h := nomatch h
  quotes _ _ h := nomatch h

/-- The second process starts when the first has ended. -/
def oneByOne : List (Move twoTopups.machine) :=
  List.replicate 5 (.go true) ++ List.replicate 5 (.go false)

/-- The first process reads the balance, then the second does all its work, then the first updates. -/
def lostSchedule : List (Move twoTopups.machine) :=
  List.replicate 3 (.go true) ++ List.replicate 5 (.go false) ++ List.replicate 2 (.go true)

/-- Whatever marks, callbacks, sweeps and repairs interleave: a withdrawal has one entry of its
reservation, one of its release exactly if it is released and one of its success exactly if it has
succeeded; if it is final it stays as it is, except that a reservation can fill in a missing destination;
and if nobody else records entries, or always with a fresh balance, every balance has lost exactly what is
not released. -/
theorem run_withdrawal (hdb : Unused db) (h : (σ.initial db world).run ms = some c) {id : UUID}
    {w : DriverWithdrawal} (hw : c.shared.db.withdrawals.find? id = some w) :
    (c.shared.db.entriesOf id .withdrawalReserved).length = 1 ∧
      (c.shared.db.entriesOf id .withdrawalReleased).length =
        (if w.status = .released then 1 else 0) ∧
      (c.shared.db.entriesOf id .withdrawalSucceeded).length =
        (if w.status = .succeeded then 1 else 0) ∧
      (w.status.isFinal → ∀ ms' c', c.run ms' = some c' →
        ∃ w', c'.shared.db.withdrawals.find? id = some w' ∧
          (w' = w ∨ w.beneficiaryDestination = none ∧
            w' = { w with beneficiaryDestination := w'.beneficiaryDestination })) ∧
      ((∀ i, (σ.op i).records = false) ∨ Fresh c.shared.trace → ∀ d, ∃ new,
        c.shared.db.ledger.rows = db.ledger.rows ++ new ∧
          c.shared.db.balance d + c.shared.db.withdrawnTotal WithdrawalStatus.isHeld d =
            db.balance d + (new.map (·.earned d)).sum) := by
  have hinv := invariant_run hdb h
  have hbooks := hinv.books
  refine ⟨?_, ?_, ?_, fun hf ms' c' h' => ?_, fun hrec d => ?_⟩
  · obtain ⟨e, he, -⟩ := hbooks.reserved id w hw
    rw [hbooks.length_entriesOf hw rfl, he]
    rfl
  · rw [hbooks.length_entriesOf hw rfl]
    simp only [hbooks.released id w hw]
  · rw [hbooks.length_entriesOf hw rfl]
    simp only [hbooks.succeeded id w hw]
  · obtain ⟨w', hw', hlater⟩ := (grows_run hdb h h').later id w hw
    refine ⟨w', hw', ?_⟩
    cases hd : w.beneficiaryDestination with
    | none => exact Or.inr ⟨rfl, hlater.final hf⟩
    | some dest =>
      have heq := hlater.final hf
      rw [hlater.destination (by rw [hd]; rfl)] at heq
      exact Or.inl heq
  · have hstart : (σ.initial db world).run [] = some (σ.initial db world) := rfl
    obtain ⟨new, hnew⟩ := (grows_run hdb hstart h).ledger
    have hb := (hinv.balanced (hrec.elim (fresh_of_records hinv.recorded) fun hf => hf)).held d
    have hsum : c.shared.db.earnedTotal d = db.earnedTotal d + (new.map (·.earned d)).sum :=
      sum_rows_append hnew.symm _
    refine ⟨new, hnew.symm, ?_⟩
    rw [hb, hsum, PaymentDb.unearned]
    ring

/-- One driver with 10000 and one quote of 2000. -/
def quotedWalletDb : PaymentDb where
  wallets := Table.empty.insert { driverId := 1, balance := 10000 }
  quotes := Table.empty.insert
    { id := 9, driverId := 1, amount := 2000, fees := 0, netAmount := 2000, expiresAt := 100
      createdAt := 0 }

theorem unused_quotedWalletDb : Unused quotedWalletDb where
  withdrawals := rfl
  ledger _ _ h := nomatch h
  quotes id q h := by
    simp only [quotedWalletDb, Table.find?_insert, Table.find?_empty, Option.none_or,
      Option.ite_none_right_eq_some, Option.some.injEq] at h
    rw [← h.2]

/-- A withdrawal is reserved and then marked as failed. -/
def reserveAndFail : Scenario Bool Unit where
  op first := if first then
      .reserve { id := 30, driverId := 1, quoteId := 9, amount := 0, fees := 0, netAmount := 0
                 beneficiaryReference := "b", businessReference := "r", idempotencyKey := "k"
                 createdAt := 5, reservedAt := 5, updatedAt := 5 } 5
    else .mark 30 ⟨.failed, none, "failed", .null, .null⟩ 6
  receives w _ _ := w
  answers _ _ _ _ := none
  accepted _ _ _ := False

/-- The mark comes after the reservation. -/
def failedReservation : List (Move reserveAndFail.machine) :=
  List.replicate 7 (.go true) ++ List.replicate 6 (.go false)

theorem run_withdrawal_failedReservation : ∃ c w,
    (reserveAndFail.initial quotedWalletDb ()).run failedReservation = some c ∧
      c.shared.db.withdrawals.find? 30 = some w ∧ w.status = .released ∧
      (c.shared.db.entriesOf 30 .withdrawalReserved).length = 1 ∧
      (c.shared.db.entriesOf 30 .withdrawalReleased).length = 1 ∧
      (c.shared.db.entriesOf 30 .withdrawalSucceeded).length = 0 := by
  obtain ⟨c, hc⟩ := Option.isSome_iff_exists.mp (by decide +kernel :
    ((reserveAndFail.initial quotedWalletDb ()).run failedReservation).isSome = true)
  have hstatus : ((reserveAndFail.initial quotedWalletDb ()).run failedReservation).map (fun c =>
      (c.shared.db.withdrawals.find? 30).map (·.status)) = some (some .released) := by
    decide +kernel
  rw [hc, Option.map_some, Option.some_inj] at hstatus
  obtain ⟨w, hw, hst⟩ := Option.map_eq_some_iff.mp hstatus
  obtain ⟨h1, h2, h3, -⟩ := run_withdrawal unused_quotedWalletDb hc hw
  rw [hst] at h2 h3
  exact ⟨c, w, hc, hw, hst, h1, h2, h3⟩

/-! ## Quotes -/

/-- Whatever requests interleave: a quote has at most one withdrawal, it is consumed exactly if it has
one, and the withdrawal is the one it offers; a reservation leaves the wallet no debt; and whenever a
payout is asked for on a quote, the same payout is asked for. -/
theorem run_quotes (hdb : Unused db) (h : (σ.initial db world).run ms = some c) :
    (∀ id id' w w', c.shared.db.withdrawals.find? id = some w →
        c.shared.db.withdrawals.find? id' = some w' → w.quoteId = w'.quoteId → id = id') ∧
      (∀ quoteId q, c.shared.db.quotes.find? quoteId = some q →
        (q.consumedAt.isSome ↔
          ∃ id w, c.shared.db.withdrawals.find? id = some w ∧ w.quoteId = quoteId)) ∧
      (∀ id w, c.shared.db.withdrawals.find? id = some w →
        ∃ q, c.shared.db.quotes.find? w.quoteId = some q ∧ w.OfQuote q) ∧
      (∀ m c', c.step m = some c' → ∀ id w, c.shared.db.withdrawals.find? id = none →
        c'.shared.db.withdrawals.find? id = some w → 0 ≤ c'.shared.db.balance w.driverId) ∧
      (∀ i j r r', Event.sent i (Query.createPayout r) ∈ c.shared.trace →
        Event.sent j (Query.createPayout r') ∈ c.shared.trace → r.quoteId = r'.quoteId → r = r') := by
  have hsound := sound_run_unaccepting hdb h
  have hquotes := hsound.inv.quoteBooks
  refine ⟨hquotes.oncePerQuote, fun quoteId q hq => ⟨hquotes.consumed quoteId q hq, ?_⟩,
    fun id w hw => ?_, fun m c' hstep id w hn hw => ?_, fun i j r r' hr hr' hid => ?_⟩
  · rintro ⟨id, w, hw, rfl⟩
    obtain ⟨q', hq', hc, -⟩ := hquotes.quoted id w hw
    rwa [Option.some.inj (hq.symm.trans hq')]
  · obtain ⟨q, hq, -, ho⟩ := hquotes.quoted id w hw
    exact ⟨q, hq, ho⟩
  · rcases (hsound.step hstep).2 with heq | hg
    · rw [heq, hn] at hw
      cases hw
    · exact hg.funds id w hn hw
  · obtain ⟨w, hw, rfl, -⟩ := hsound.inv.payouts i r hr
    obtain ⟨w', hw', rfl, -⟩ := hsound.inv.payouts j r' hr'
    have hsame := hquotes.oncePerQuote _ _ w w' hw hw' hid
    rw [hsame] at hw
    rw [Option.some.inj (hw.symm.trans hw')]

theorem run_quotes_failedReservation : ∃ c q,
    (reserveAndFail.initial quotedWalletDb ()).run failedReservation = some c ∧
      c.shared.db.quotes.find? 9 = some q ∧
      (q.consumedAt.isSome ↔
        ∃ id w, c.shared.db.withdrawals.find? id = some w ∧ w.quoteId = 9) := by
  obtain ⟨c, hc⟩ := Option.isSome_iff_exists.mp (by decide +kernel :
    ((reserveAndFail.initial quotedWalletDb ()).run failedReservation).isSome = true)
  have hquote : ((reserveAndFail.initial quotedWalletDb ()).run failedReservation).all (fun c =>
      (c.shared.db.quotes.find? 9).isSome) = true := by
    decide +kernel
  rw [hc] at hquote
  obtain ⟨q, hq⟩ := Option.isSome_iff_exists.mp hquote
  exact ⟨c, q, hc, hq, (run_quotes unused_quotedWalletDb hc).2.1 9 q hq⟩

end DiddiGo.Payments
