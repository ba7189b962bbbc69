import DiddiGo.Payments.Proofs.AccountsProofs
import DiddiGo.Payments.Proofs.MoneyProofs

/-!
# Withdrawals under interference

`mark_withdrawal_provider_state`, `reserve_withdrawal_from_quote` and the call of the provider between
them, under any interference.
-/

namespace DiddiGo.Payments

open Data (Json Keyed Table)
open Transactions Prog RelyGuarantee

variable {Proc World : Type} {σ : Scenario Proc World} {opening earnedBefore : UUID → Decimal}
  {i : Proc} {P P' P'' : Point σ.machine} {s : Shared σ.machine}

/-- The withdrawal is locked and has been seen as `w`. -/
structure RowLocked (id : UUID) (w : DriverWithdrawal) (P : Point σ.machine) : Prop where
  held : P.held (.withdrawal id)
  view : (P.pending P.shared.db).withdrawals.find? id = some w

/-! ## Marks -/

section Mark

variable {id : UUID} {w : DriverWithdrawal} {p : ProviderState} {now : DateTime}

/-- A mark that releases the withdrawal has a reason. -/
def Reasoned (P : Point σ.machine) (id : UUID) (p : ProviderState) : Prop :=
  storedStatus p.status = .released → Strict σ → NoReuse P.shared.trace →
    Justified P.shared.trace id

theorem Reasoned.along (h : Reasoned P id p) (ht : P.shared.trace <+: P'.shared.trace) :
    Reasoned P' id p :=
  fun hr hst hn => (h hr hst (hn.along ht)).along ht

/-- Contents in which one withdrawal has been marked. -/
theorem Invariant.mark {db db' : PaymentDb} (h : Invariant σ opening earnedBefore (s.store db))
    (hw : db.withdrawals.find? id = some w) (hold : w.status.isFinal = false)
    (hwd : db'.withdrawals = (db.markWithdrawal id p now).withdrawals)
    (hq : db'.quotes = db.quotes) (hacc : (Fresh s.trace → db.Balanced opening earnedBefore) →
      Books db' ∧ (Fresh s.trace → db'.Balanced opening earnedBefore))
    (hj : storedStatus p.status = .released → Strict σ → NoReuse s.trace → Justified s.trace id) :
    Invariant σ opening earnedBefore (s.store db') := by
  have hfind : ∀ i, db'.withdrawals.find? i =
      if i = id then some (w.marked p now) else db.withdrawals.find? i := by
    intro i
    rw [hwd]
    exact find?_markWithdrawal hw p now i
  obtain ⟨hb, hbal⟩ := hacc h.balanced
  refine h.store_of_old hb (h.quoteBooks.of_sameOrder hw hq hfind (.marked w p now)) hbal
    (fun i x hx => ?_) fun i x hx => ?_
  · rw [hfind]
    split_ifs with hi
    · subst hi
      obtain rfl := Option.some.inj (hw.symm.trans hx)
      exact ⟨_, rfl, later_marked hold⟩
    · exact ⟨x, hx, .refl x⟩
  · rcases find?_cases (hfind i) hx with ⟨rfl, rfl⟩ | ⟨-, hx⟩
    · exact ⟨w, hw, .marked w p now, fun hr => Or.inr (hj hr)⟩
    · exact ⟨x, hx, .refl x, Or.inl⟩

/-- The row is written and the outcome stays open. -/
theorem Tx.mark (hP : Tx opening earnedBefore i P) (hlock : RowLocked id w P)
    (hold : w.status.isFinal = false) (hnew : (storedStatus p.status).isFinal = false)
    (hs : (protocol σ opening earnedBefore).Interferes i P P'.shared)
    (hheld : ∀ r, P.held r → P'.held r)
    (hpend : P'.pending = (fun db => db.markWithdrawal id p now) ∘ P.pending) :
    Tx opening earnedBefore i P' := by
  refine hP.write hs hheld hpend (local_markWithdrawal id p now)
    (keepsOrders_markWithdrawal id p now) fun s' hs' hinv => ?_
  have hw : (P.pending s'.db).withdrawals.find? id = some w :=
    (view_withdrawal (Interferes.weaken hs' hheld hs) hP.isLocal hlock.held).trans hlock.view
  refine ⟨writes_markWithdrawal (hheld _ hlock.held) hw hold, hinv.mark hw hold rfl rfl
    (fun hbal => ⟨hinv.books.mark p now hw hold hnew, fun hf =>
      ((⟨hinv.books, hbal hf⟩ : Accounts _ _ _).mark now hw hold hnew).balanced⟩) ?_⟩
  intro hr
  rw [hr] at hnew
  cases hnew

/-- The row is written with the entry of a payout that succeeded. -/
theorem Tx.succeed (hP : Tx opening earnedBefore i P) (hlock : RowLocked id w P)
    (hold : w.status.isFinal = false) (hnew : storedStatus p.status = .succeeded)
    (h : Entered opening earnedBefore i (w.entryKey .withdrawalSucceeded)
      ((·.insertEntry (withdrawalEntry w .withdrawalSucceeded .debit now)) ∘
        fun db => db.markWithdrawal id p now) P P') :
    Tx opening earnedBefore i P' := by
  refine hP.write h.interferes h.held h.pending
    ((local_insertEntry _).comp (local_markWithdrawal id p now))
    (keepsOrders_markWithdrawal id p now) fun s' hs' hinv => ?_
  have hw : (P.pending s'.db).withdrawals.find? id = some w :=
    (view_withdrawal (Interferes.weaken hs' h.held h.interferes) hP.isLocal hlock.held).trans
      hlock.view
  refine ⟨(writes_markWithdrawal (h.held _ hlock.held) hw hold).trans
    (writes_insertEntry _ h.locked), hinv.mark hw hold rfl rfl (fun hbal =>
      ⟨hinv.books.settle p now hw hold .debit (Or.inr ⟨rfl, hnew⟩), fun hf =>
        ((⟨hinv.books, hbal hf⟩ : Accounts _ _ _).succeed now hw hold hnew).balanced⟩) ?_⟩
  intro hr
  rw [hr] at hnew
  cases hnew

/-- The row is written, the entry of its release is there, and the wallet has the money back. -/
theorem Tx.release (hP : Tx opening earnedBefore i P) (hlock : RowLocked id w P)
    {wal : DriverWallet} (hold : w.status.isFinal = false)
    (hnew : storedStatus p.status = .released) (hj : Reasoned P id p)
    (h : Entered opening earnedBefore i (w.entryKey .withdrawalReleased)
      ((fun db => db.flushWallet w.driverId wal.balance (wal.balance + w.amount) now) ∘
        (·.insertEntry (withdrawalEntry w .withdrawalReleased .credit now)) ∘
          fun db => db.markWithdrawal id p now) P P')
    (hheld : P'.held (.wallet w.driverId))
    (hwal : (P.pending P'.shared.db).wallets.find? w.driverId = some wal) :
    Tx opening earnedBefore i P' := by
  refine hP.write h.interferes h.held h.pending
    ((local_flushWallet _ _ _ _).comp ((local_insertEntry _).comp (local_markWithdrawal id p now)))
    (keepsOrders_markWithdrawal id p now) fun s' hs' hinv => ?_
  have hs'' := Interferes.weaken hs' h.held h.interferes
  have hw : (P.pending s'.db).withdrawals.find? id = some w :=
    (view_withdrawal hs'' hP.isLocal hlock.held).trans hlock.view
  have hwal' : (P.pending s'.db).wallets.find? w.driverId = some wal :=
    (hP.isLocal.wallets _ _ _ (hs'.same _ hheld)).symm.trans hwal
  refine ⟨((writes_markWithdrawal (h.held _ hlock.held) hw hold).trans
    (writes_insertEntry (withdrawalEntry w .withdrawalReleased .credit now) h.locked)).trans
      (writes_flushWallet _ _ _ _ hheld),
      hinv.mark hw hold rfl rfl (fun hbal =>
        ⟨(hinv.books.settle p now hw hold .credit (Or.inl ⟨rfl, hnew⟩)).congr rfl rfl, fun hf =>
          ((⟨hinv.books, hbal hf⟩ : Accounts _ _ _).release now hw hold hnew hwal').balanced⟩) ?_⟩
  exact fun hr hst hn => (hj hr hst (hn.along hs''.rely.trace)).along hs''.rely.trace

/-- After the lock the row has been written. -/
structure MarkedRow (opening earnedBefore : UUID → Decimal) (i : Proc) (id : UUID)
    (p : ProviderState) (now : DateTime) (P P' : Point σ.machine) : Prop where
  held : ∀ r, P.held r → P'.held r
  interferes : (protocol σ opening earnedBefore).Interferes i P P'.shared
  pending : P'.pending = (fun db => db.markWithdrawal id p now) ∘ P.pending

/-- The entry of the outcome is new: an open withdrawal has none. -/
theorem wpOk_insertWithdrawalLedgerOnce (hP : Tx opening earnedBefore i P)
    (hlock : RowLocked id w P) (hold : w.status.isFinal = false) {t : WalletEntryType}
    (ht : t = .withdrawalReleased ∨ t = .withdrawalSucceeded) (dir : WalletEntryDirection)
    (h : MarkedRow opening earnedBefore i id p now P P') :
    (protocol σ opening earnedBefore).wpOk i (insertWithdrawalLedgerOnce w t dir now)
      (fun b P'' => b = true ∧ Entered opening earnedBefore i (w.entryKey t)
        ((·.insertEntry (withdrawalEntry w t dir now)) ∘ fun db => db.markWithdrawal id p now) P P'')
      P' := by
  have hfree : ∀ s, (protocol σ opening earnedBefore).Interferes i P' s →
      (P.pending s.db).ledger.find? (w.entryKey t) = none := by
    intro s hs
    have hs' := Interferes.weaken hs h.held h.interferes
    have hw : (P.pending s.db).withdrawals.find? id = some w :=
      (view_withdrawal hs' hP.isLocal hlock.held).trans hlock.view
    obtain ⟨hr, hsucc⟩ := (hP.ready s hs').inv.books.entry_none_of_status hw hold
    rcases ht with rfl | rfl
    · exact hr
    · exact hsucc
  refine wpOk_insertOnce (fun s hs htaken => ?_) fun s hs _ => ?_
  · have hnone := hfree s hs
    rw [h.pending] at htaken
    change ((P.pending s.db).ledger.find? (w.entryKey t)).isSome = true at htaken
    rw [hnone] at htaken
    cases htaken
  · exact ⟨rfl, fun r hr => Or.inr (h.held r hr), Or.inl rfl,
      Interferes.weaken hs h.held h.interferes, by rw [h.pending]; rfl, hfree s hs⟩

theorem isFinal_of_ne {st : WithdrawalStatus} (h : ¬ (st = .succeeded ∨ st = .released)) :
    st.isFinal = false := by
  cases st <;> simp_all [WithdrawalStatus.isFinal]

/-- A mark leads to a point where the process may commit, provided that it releases a withdrawal for a
reason. -/
theorem wpOk_markWithdrawalProviderState (hP : Tx opening earnedBefore i P)
    (hj : Reasoned P id p) :
    (protocol σ opening earnedBefore).wpOk i (markWithdrawalProviderState id p now)
      (fun _ => Reaches opening earnedBefore i P) P := by
  refine wpOk_bind (Q := fun o P1 => Reaches opening earnedBefore i P P1 ∧
      ∀ w, o = some w → RowLocked id w P1) (wpOk_selectForUpdate fun s hs => ?_)
    fun o P1 ⟨h1, hlock⟩ => ?_
  · exact ⟨⟨hP.hold hs (fun _ hr => Or.inr hr) rfl, records_of_interferes hs⟩,
      fun w hw => ⟨Or.inl ⟨by rw [hw]; rfl, rfl⟩, hw⟩⟩
  have hj1 := hj.along h1.records.grows
  refine wpOk_mono (Q := fun _ => Reaches opening earnedBefore i P1) ?_ fun _ _ h => h1.trans h
  cases o with
  | none => exact wpOk_raise
  | some w =>
    have hlock := hlock w rfl
    dsimp only
    by_cases hfinal : w.status = .succeeded ∨ w.status = .released
    · rw [if_pos hfinal]
      exact wpOk_ret h1.tx.reaches
    rw [if_neg hfinal]
    have hold := isFinal_of_ne hfinal
    refine wpOk_bind (Q := fun _ => MarkedRow opening earnedBefore i id p now P1)
      (wpOk_writeOrRaise fun s hs _ => ⟨fun _ hr => Or.inr hr, hs, rfl⟩) fun _ P2 h2 => ?_
    split_ifs with hsucc hrel
    · refine wpOk_bind (wpOk_insertWithdrawalLedgerOnce h1.tx hlock hold (Or.inr rfl) .debit h2)
        fun _ P3 ⟨_, h3⟩ => wpOk_ret ?_
      exact ⟨h1.tx.succeed hlock hold hsucc h3, records_of_interferes h3.interferes⟩
    · refine wpOk_bind (wpOk_insertWithdrawalLedgerOnce h1.tx hlock hold (Or.inl rfl) .credit h2)
        fun b P3 ⟨hb, h3⟩ => ?_
      subst hb
      simp only [if_true]
      refine wpOk_bind (Q := fun o P4 => Entered opening earnedBefore i
          (w.entryKey .withdrawalReleased)
          ((·.insertEntry (withdrawalEntry w .withdrawalReleased .credit now)) ∘
            fun db => db.markWithdrawal id p now) P1 P4 ∧
          ∀ wal, o = some wal → P4.held (.wallet w.driverId) ∧
            (P1.pending P4.shared.db).wallets.find? w.driverId = some wal)
        (wpOk_selectForUpdate fun s hs => ?_) fun o P4 ⟨h4, hwal⟩ => ?_
      · have hs3 := h3.withShared h1.tx hs
        refine ⟨⟨fun r hr => Or.inr (h3.held r hr), Or.inr h3.locked, hs3.interferes, hs3.pending,
          hs3.free⟩, fun wal hwal => ?_⟩
        refine ⟨Or.inl ⟨by rw [hwal]; rfl, rfl⟩, ?_⟩
        rw [h3.pending] at hwal
        exact hwal
      cases o with
      | none => exact wpOk_raise
      | some wal =>
        obtain ⟨hheld, hview⟩ := hwal wal rfl
        rw [scalarOne_some, ret_bind]
        refine wpOk_bind (Q := fun _ => Reaches opening earnedBefore i P1)
          (wpOk_update fun s hs => ?_) fun _ _ h => wpOk_ret h
        have hs4 := h4.withShared h1.tx hs
        have hview' : (P1.pending s.db).wallets.find? w.driverId = some wal :=
          (h1.tx.isLocal.wallets _ _ _ (hs.same _ hheld)).symm.trans hview
        exact ⟨h1.tx.release hlock hold hrel hj1 ⟨fun r hr => Or.inr (h4.held r hr),
          Or.inr h4.locked, hs4.interferes, by rw [h4.pending]; rfl, hs4.free⟩ (Or.inl (by simp))
          hview', records_of_interferes hs4.interferes⟩
    · refine wpOk_ret ⟨h1.tx.mark hlock hold ?_ h2.interferes h2.held h2.pending,
        records_of_interferes h2.interferes⟩
      exact isFinal_of_ne fun h => h.elim hsucc hrel

end Mark

/-! ## Reservations -/

/-- After a point where it may commit the process has changed money by `g` and locked the identifier of
a withdrawal, which was free. -/
structure NewRow (opening earnedBefore : UUID → Decimal) (i : Proc) (id : UUID)
    (g : PaymentDb → PaymentDb) (P P' : Point σ.machine) : Prop where
  held : ∀ r, P.held r → P'.held r
  locked : P'.held (.withdrawal id)
  interferes : (protocol σ opening earnedBefore).Interferes i P P'.shared
  pending : P'.pending = g ∘ P.pending
  free : (P.pending P'.shared.db).withdrawals.find? id = none

theorem NewRow.free_of_interferes {id : UUID} {g : PaymentDb → PaymentDb}
    (h : NewRow opening earnedBefore i id g P P') (hP : Tx opening earnedBefore i P)
    (hs : (protocol σ opening earnedBefore).Interferes i P' s) :
    (P.pending s.db).withdrawals.find? id = none := by
  have hsame : P'.shared.db.withdrawals.find? id = s.db.withdrawals.find? id := hs.same _ h.locked
  exact (hP.isLocal.withdrawals _ _ id hsame).symm.trans h.free

theorem NewRow.next {id : UUID} {g g' : PaymentDb → PaymentDb} {rs : List Row}
    (h : NewRow opening earnedBefore i id g P P') (hP : Tx opening earnedBefore i P)
    (hs : (protocol σ opening earnedBefore).Interferes i P' s) :
    NewRow opening earnedBefore i id (g' ∘ g) P
      { shared := s, held := fun r => r ∈ rs ∨ P'.held r, pending := g' ∘ P'.pending } where
  held r hr := Or.inr (h.held r hr)
  locked := Or.inr h.locked
  interferes := Interferes.weaken hs h.held h.interferes
  pending := by rw [h.pending]; rfl
  free := h.free_of_interferes hP hs

/-- The quote is locked and has been seen as `q`. -/
structure QuoteLocked (quoteId : UUID) (q : DriverWithdrawalQuote) (P : Point σ.machine) : Prop where
  held : P.held (.quote quoteId)
  view : (P.pending P.shared.db).quotes.find? quoteId = some q

theorem QuoteLocked.extends {quoteId : UUID} {q : DriverWithdrawalQuote}
    (h : QuoteLocked quoteId q P) (hP : Tx opening earnedBefore i P)
    (he : Extends opening earnedBefore i P P') : QuoteLocked quoteId q P' where
  held := he.held _ h.held
  view := by
    rw [he.quotes, view_quote he.interferes hP.isLocal h.held]
    exact h.view

section Reserve

variable {row : DriverWithdrawal} {q : DriverWithdrawalQuote} {wal : DriverWallet} {now : DateTime}

/-- The withdrawal is made from its quote, and the process may commit. -/
theorem Tx.reserve (hP : Tx opening earnedBefore i P) (hquote : QuoteLocked row.quoteId q P)
    (hwal : WalletLocked row.driverId wal P) (hc : q.consumedAt = none) (ho : row.OfQuote q)
    (hstatus : row.status = .reserved) (hfunds : row.amount ≤ wal.balance)
    (href : Strict σ → row.businessReference = payoutReference row.id)
    (h : NewRow opening earnedBefore i row.id (fun db => db.reserve row wal.balance now) P P')
    (hk : P'.held (.ledgerEntry (row.entryKey .withdrawalReserved))) :
    Ready opening earnedBefore i P' := by
  refine hP.ready_write h.interferes h.held h.pending fun s hs hinv => ?_
  have hs' := Interferes.weaken hs h.held h.interferes
  have hfree := h.free_of_interferes hP hs
  have hq := (view_quote hs' hP.isLocal hquote.held).trans hquote.view
  have hw := (view_wallet hs' hP.isLocal hwal.held).trans hwal.view
  have hwrites := writes_reserve wal.balance now hfree h.locked (h.held _ hquote.held)
    (h.held _ hwal.held) hk
  have hcase := fun i x hx => find?_cases (i := i) (x := x) (find?_reserve wal.balance now hfree i) hx
  refine ⟨hwrites, hinv.store ((hinv.books.reserve now hstatus hfree).congr rfl rfl)
    ((hinv.quoteBooks.reserve now hfree hq hc ho).congr rfl rfl) (fun hf => ?_) hwrites.later ?_, ?_⟩
  · exact ((⟨hinv.books, hinv.balanced hf⟩ : Accounts _ _ _).reserve now hstatus hfree hw).balanced
  · intro hst hn i x hx
    rcases hcase i x hx with ⟨rfl, rfl⟩ | ⟨-, hx⟩
    · exact ⟨href hst, fun hr => by rw [hstatus] at hr; cases hr⟩
    · have hset := hinv.settled hst hn
      exact ⟨hset.references i x hx, hset.released i x hx⟩
  · intro i x hn hx
    rcases hcase i x hx with ⟨rfl, rfl⟩ | ⟨-, hx⟩
    · rw [balance_reserve now hw]
      exact sub_nonneg.mpr hfunds
    · rw [hn] at hx
      cases hx

end Reserve

section Reuse

variable {x : DriverWithdrawal} {dest : Option Json}

theorem order_of_sameOrder {w w' : DriverWithdrawal} (h : w.SameOrder w')
    (hd : w'.beneficiaryDestination = w.beneficiaryDestination) : w'.order = w.order := by
  obtain ⟨h1, h2, h3, h4, h5, h6, h7, h8, h9, h10⟩ := h
  simp only [DriverWithdrawal.order, h1, h2, h3, h4, h5, h6, h7, h8, h9, h10, hd]

/-- The order of a withdrawal that the transaction sees stays as it is while its quote is locked or once
its destination is set. -/
theorem Tx.order_of_interferes (hP : Tx opening earnedBefore i P)
    (hs : (protocol σ opening earnedBefore).Interferes i P s)
    (hx : (P.pending P.shared.db).withdrawals.find? x.id = some x)
    (hd : P.held (.quote x.quoteId) ∨ x.beneficiaryDestination.isSome) :
    ∃ y, (P.pending s.db).withdrawals.find? x.id = some y ∧ y.order = x.order := by
  have h1 := hP.orders P.shared.db x.id
  rw [hx] at h1
  obtain ⟨y1, hy1, ho1⟩ := Option.map_eq_some_iff.mp h1.symm
  obtain ⟨y2, hy2, hlater⟩ := hs.rely.later _ _ hy1
  have hq1 : y1.quoteId = x.quoteId := (congrArg DriverWithdrawal.quoteId ho1 :)
  have hdest1 : y1.beneficiaryDestination = x.beneficiaryDestination :=
    (congrArg DriverWithdrawal.beneficiaryDestination ho1 :)
  have hdest : y2.beneficiaryDestination = y1.beneficiaryDestination := by
    rcases hd with hd | hd
    · have hsame := (hs.same _ hd).2 x.id
      have hq2 : y2.quoteId = x.quoteId := hlater.sameOrder.quoteId.trans hq1
      simpa [PaymentDb.destinationOf, hy1, hy2, Option.filter, hq1, hq2] using hsame.symm
    · exact hlater.destination (by rw [hdest1]; exact hd)
  have h3 := hP.orders s.db x.id
  rw [hy2] at h3
  obtain ⟨y3, hy3, ho3⟩ := Option.map_eq_some_iff.mp h3
  exact ⟨y3, hy3, ho3.trans ((order_of_sameOrder hlater.sameOrder hdest).trans ho1)⟩

/-- A missing destination is filled in, and the process may commit. -/
theorem Tx.fillDestination (hP : Tx opening earnedBefore i P)
    (hx : (P.pending P.shared.db).withdrawals.find? x.id = some x)
    (hq : P.held (.quote x.quoteId)) (hd : x.beneficiaryDestination = none)
    (hs : (protocol σ opening earnedBefore).Interferes i P P'.shared)
    (hheld : ∀ r, P.held r → P'.held r) (hlocked : P'.held (.withdrawal x.id))
    (hpend : P'.pending = (fun db => db.fillDestination x.id dest) ∘ P.pending) :
    Ready opening earnedBefore i P' := by
  refine hP.ready_write hs hheld hpend fun s hs' hinv => ?_
  obtain ⟨y, hy, hyx⟩ := hP.order_of_interferes (Interferes.weaken hs' hheld hs) hx (Or.inl hq)
  have hyd : y.beneficiaryDestination = none :=
    (congrArg DriverWithdrawal.beneficiaryDestination hyx :).trans hd
  have hyq : y.quoteId = x.quoteId := (congrArg DriverWithdrawal.quoteId hyx :)
  have hfind := find?_fillDestination hy dest
  have hsame := DriverWithdrawal.SameOrder.fillDestination y dest
  have hwrites : Writes P'.held (P.pending s.db)
      ((P.pending s.db).fillDestination x.id dest) :=
    .of_withdrawal hlocked rfl rfl rfl hy hfind (later_fillDestination dest hyd)
      (Or.inl (by rw [hyq]; exact hheld _ hq))
  refine ⟨hwrites, hinv.store_of_old (hinv.books.fillDestination hy hfind rfl hsame rfl)
    (hinv.quoteBooks.of_sameOrder hy rfl hfind hsame)
    (fun hf => (hinv.balanced hf).fillDestination hy dest) hwrites.later ?_, ?_⟩
  · intro j z hz
    rcases find?_cases (hfind j) hz with ⟨rfl, rfl⟩ | ⟨-, hz⟩
    · exact ⟨y, hy, hsame, Or.inl⟩
    · exact ⟨z, hz, .refl z, Or.inl⟩
  · intro j z hn hz
    rcases find?_cases (hfind j) hz with ⟨rfl, rfl⟩ | ⟨-, hz⟩
    · rw [hy] at hn
      cases hn
    · rw [hn] at hz
      cases hz

end Reuse

/-- What `reserve_withdrawal_from_quote` leads to when it is asked for `w` and returns `r`. -/
structure Reserved (opening earnedBefore : UUID → Decimal) (i : Proc) (w r : DriverWithdrawal)
    (P P' : Point σ.machine) : Prop where
  ready : Ready opening earnedBefore i P'
  records : Records i P.shared.trace P'.shared.trace
  row : ∀ s, (protocol σ opening earnedBefore).Interferes i P' s →
    ∃ x, (P'.pending s.db).withdrawals.find? r.id = some x ∧ x.order = r.order
  destination : w.beneficiaryDestination.isSome → r.beneficiaryDestination.isSome
  own : NoReuse P'.shared.trace → r.id = w.id

theorem wpOk_reuseWithdrawal (hP : Tx opening earnedBefore i P) (w : DriverWithdrawal)
    (hq : P.held (.quote w.quoteId)) :
    (protocol σ opening earnedBefore).wpOk i (reuseWithdrawal w)
      (fun r P' => Reserved opening earnedBefore i w r P P') P := by
  refine wpOk_bind (Q := fun o P1 => Extends opening earnedBefore i P P1 ∧
      ¬ NoReuse P1.shared.trace ∧ ∀ x, o = some x → x.quoteId = w.quoteId ∧
        (P1.pending P1.shared.db).withdrawals.find? x.id = some x)
    (wpOk_selectAs fun s hs => ?_) fun o P1 ⟨h1, hreuse, hx⟩ => ?_
  · have hrec : ∀ d read, Label.quoteReused w.quoteId = .walletUpdate d read →
        (σ.op i).records := fun _ _ h => nomatch h
    refine ⟨permits_note hs.inv hrec, hP.extends (Interferes.note hs hrec), fun hn => ?_,
      fun x hx => ?_⟩
    · exact hn i w.quoteId (P.pending s.db) (List.mem_append_right _ (List.mem_singleton.mpr rfl))
    · obtain ⟨hfind, hxq⟩ := find?_of_withdrawalOfQuote hx
      exact ⟨hxq, hfind⟩
  cases o with
  | none => exact wpOk_raise
  | some x =>
    obtain ⟨hxq, hfind⟩ := hx x rfl
    have hq1 : P1.held (.quote x.quoteId) := by rw [hxq]; exact h1.held _ hq
    dsimp only
    split_ifs with hd
    · refine wpOk_bind (Q := fun _ P2 => Reserved opening earnedBefore i w
        { x with beneficiaryDestination := w.beneficiaryDestination } P P2)
        (wpOk_update fun s hs => ?_) fun _ _ h => wpOk_ret h
      refine ⟨h1.tx.fillDestination hfind hq1 hd.1 hs (fun _ hr => Or.inr hr)
        (Or.inl (by simp)) rfl, (records_of_interferes h1.interferes).trans
          (records_of_interferes hs), fun s' hs' => ?_, fun h => h, fun hn => ?_⟩
      · obtain ⟨y, hy, hyx⟩ := h1.tx.order_of_interferes
          (Interferes.weaken hs' (fun _ hr => Or.inr hr) hs) hfind (Or.inl hq1)
        refine ⟨{ y with beneficiaryDestination := w.beneficiaryDestination }, ?_, ?_⟩
        · change ((P1.pending s'.db).fillDestination x.id w.beneficiaryDestination).withdrawals.find?
            x.id = _
          rw [find?_fillDestination hy, if_pos rfl]
        · exact (congrArg (fun o : DriverWithdrawal =>
            { o with beneficiaryDestination := w.beneficiaryDestination }) hyx :)
      · exact absurd (hn.along hs.rely.trace) hreuse
    · refine wpOk_ret ⟨h1.tx.ready, records_of_interferes h1.interferes, fun s hs => ?_, fun hw => ?_,
        fun hn => absurd hn hreuse⟩
      · exact h1.tx.order_of_interferes hs hfind (Or.inl hq1)
      · rw [Option.isSome_iff_ne_none] at hw ⊢
        exact fun hn => hd ⟨hn, hw⟩

theorem wpOk_reserveWithdrawalFromQuote (hP : Tx opening earnedBefore i P) (w : DriverWithdrawal)
    (now : DateTime) (href : Strict σ → w.businessReference = payoutReference w.id) :
    (protocol σ opening earnedBefore).wpOk i (reserveWithdrawalFromQuote w now)
      (fun r P' => Reserved opening earnedBefore i w r P P') P := by
  refine wpOk_bind (Q := fun o P1 => Extends opening earnedBefore i P P1 ∧
      ∀ q, o = some q → QuoteLocked w.quoteId q P1)
    (wpOk_selectForUpdate fun s hs => ?_) fun o P1 ⟨h1, hq⟩ => ?_
  · exact ⟨⟨hP.hold hs (fun _ hr => Or.inr hr) rfl, fun _ hr => Or.inr hr, hs, fun _ => rfl,
      fun _ => rfl, fun _ => rfl⟩, fun q hq => ⟨Or.inl ⟨by rw [hq]; rfl, rfl⟩, hq⟩⟩
  have hto : ∀ {r P'}, Reserved opening earnedBefore i w r P1 P' →
      Reserved opening earnedBefore i w r P P' := fun h =>
    ⟨h.ready, (records_of_interferes h1.interferes).trans h.records, h.row, h.destination, h.own⟩
  refine wpOk_mono (Q := fun r P' => Reserved opening earnedBefore i w r P1 P') ?_
    fun _ _ h => hto h
  cases o with
  | none => exact wpOk_raise
  | some q =>
    have hq1 := hq q rfl
    dsimp only
    refine wpOk_bind (Q := fun _ P2 => q.driverId = w.driverId ∧ P1 = P2)
      (wpOk_raiseIf fun h => ⟨not_not.mp h, rfl⟩) ?_
    rintro _ _ ⟨hdriver, rfl⟩
    by_cases hused : q.consumedAt = none
    · rw [if_neg (not_not.mpr hused)]
      refine wpOk_bind (Q := fun _ P2 => P1 = P2) (wpOk_raiseIf fun _ => rfl) ?_
      rintro _ _ rfl
      refine wpOk_bind (wpOk_lockWallet h1.tx _ _) fun wal P2 ⟨h2, hwal⟩ => ?_
      refine wpOk_bind (Q := fun _ P3 => q.amount ≤ wal.balance ∧ P2 = P3)
        (wpOk_raiseIf fun h => ⟨not_lt.mp h, rfl⟩) ?_
      rintro _ _ ⟨hfunds, rfl⟩
      refine wpOk_bind (Q := fun _ => NewRow opening earnedBefore i w.id
        (·.insertWithdrawal (reservedRow w q now)) P2) (wpOk_writeOrRaise fun s hs htaken => ?_)
        fun _ P3 h3 => ?_
      · exact ⟨fun _ hr => Or.inr hr, Or.inl (by simp [reservedRow]), hs, rfl,
          find?_of_not_withdrawalTaken htaken⟩
      refine wpOk_bind (Q := fun _ => NewRow opening earnedBefore i w.id _ P2)
        (wpOk_update fun s hs => h3.next h2.tx hs) fun _ P4 h4 => ?_
      refine wpOk_bind (Q := fun _ => NewRow opening earnedBefore i w.id _ P2)
        (wpOk_update fun s hs => h4.next h2.tx hs) fun _ P5 h5 => ?_
      refine wpOk_bind (Q := fun _ P6 => NewRow opening earnedBefore i w.id _ P2 P6 ∧
          P6.held (.ledgerEntry (w.entryKey .withdrawalReserved)))
        (wpOk_writeOrRaise fun s hs _ => ⟨h5.next h2.tx hs, Or.inl (List.mem_singleton.mpr rfl)⟩)
        fun _ P6 ⟨h6, hk⟩ => wpOk_ret ?_
      have hquote : QuoteLocked (reservedRow w q now).quoteId q P2 := hq1.extends h1.tx h2
      have ho : (reservedRow w q now).OfQuote q :=
        ⟨(Table.key_of_find? hq1.view).symm, hdriver.symm, rfl, rfl, rfl, rfl⟩
      refine ⟨h2.tx.reserve hquote hwal hused ho rfl hfunds href h6 hk,
        (records_of_interferes h2.interferes).trans (records_of_interferes h6.interferes),
        fun s hs => ⟨reservedRow w q now, ?_, rfl⟩, fun h => h, fun _ => rfl⟩
      have hfree : (P2.pending s.db).withdrawals.find? (reservedRow w q now).id = none :=
        h6.free_of_interferes h2.tx hs
      rw [h6.pending]
      exact (find?_reserve wal.balance now hfree w.id).trans (if_pos rfl)
    · rw [if_pos hused]
      exact wpOk_reuseWithdrawal h1.tx w hq1.held

end DiddiGo.Payments
