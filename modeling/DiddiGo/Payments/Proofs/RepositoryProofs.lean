import DiddiGo.Payments.Changes
import DiddiGo.Payments.Proofs.BooksProofs
import DiddiGo.Transactions.Proofs.SequentialProofs

/-!
# Repository methods run alone

What each wallet method leaves in the database when it runs alone, as an equation for its `exec`.
-/

namespace DiddiGo.Payments

open Data (Json Keyed Table)
open Transactions Prog

variable (ask : Query → Answer) (base db : PaymentDb)

theorem scalarOne_some {α : Type} (a : α) : scalarOne (some a) = .ret a := rfl

@[simp] theorem exec_getOrRaise_some {α : Type} (a : α) (e : Err) :
    (getOrRaise (some a) e).exec ask base db = (.ok a, base, db) := rfl

@[simp] theorem exec_getOrRaise_none {α : Type} (e : Err) :
    (getOrRaise (none : Option α) e).exec ask base db = (.error e, base, db) := rfl

/-! ## Wallets -/

variable {db} in
theorem openWallet_of_some {driverId : UUID} {currency : String} {w : DriverWallet}
    (h : db.wallets.find? driverId = some w) : db.openWallet driverId currency = db := by
  unfold PaymentDb.openWallet
  rw [Table.insert_of_some h]

@[simp] theorem find?_openWallet (driverId : UUID) (currency : String) :
    (db.openWallet driverId currency).wallets.find? driverId =
      some (db.walletOrNew driverId currency) := by
  have h : (db.openWallet driverId currency).wallets.find? driverId =
      (db.wallets.find? driverId).or (some { driverId := driverId, currency := currency }) := by
    unfold PaymentDb.openWallet
    rw [Table.find?_insert]
    exact congrArg _ (if_pos rfl)
  rw [h]
  unfold PaymentDb.walletOrNew
  cases db.wallets.find? driverId <;> rfl

theorem exec_getOrCreateWallet (driverId : UUID) (currency : String) :
    (getOrCreateWallet driverId currency).exec ask base db =
      (.ok (db.walletOrNew driverId currency), base, db.openWallet driverId currency) := by
  unfold getOrCreateWallet
  cases h : db.wallets.find? driverId with
  | some w =>
    rw [exec_bind_of_ok _ _ _ (exec_select _ _ _ _)]
    simp only [h, openWallet_of_some h, PaymentDb.walletOrNew]
    rfl
  | none =>
    rw [exec_bind_of_ok _ _ _ (exec_select _ _ _ _)]
    simp only [h]
    rw [exec_bind_of_ok _ _ _ (exec_insertOnce _ _ _ _ _ _)]
    rw [exec_bind_of_ok _ _ _ (exec_select _ _ _ _)]
    simp [h, scalarOne]

theorem exec_lockWallet (driverId : UUID) (currency : String) :
    (lockWallet driverId currency).exec ask base db =
      (.ok (db.walletOrNew driverId currency), base, db.openWallet driverId currency) := by
  unfold lockWallet
  rw [exec_bind_of_ok _ _ _ (exec_selectForUpdate _ _ _ _ _)]
  cases h : db.wallets.find? driverId with
  | some w =>
    simp only [openWallet_of_some h, PaymentDb.walletOrNew, h]
    rfl
  | none =>
    simp only
    rw [exec_bind_of_ok _ _ _ (exec_getOrCreateWallet _ _ _ _ _)]
    rw [exec_bind_of_ok _ _ _ (exec_selectForUpdate _ _ _ _ _)]
    simp [scalarOne]

/-! ## Ledger -/

theorem exec_recordLedgerEntryOnce (e : DriverLedgerEntry) (now : DateTime) :
    (recordLedgerEntryOnce e now).exec ask base db =
      if (db.ledger.find? e.ledgerKey).isSome then
        (.ok none, base, db.openWallet e.driverId e.currency)
      else (.ok (some e), base, (db.openWallet e.driverId e.currency).post e now) := by
  unfold recordLedgerEntryOnce
  rw [exec_bind_of_ok _ _ _ (exec_getOrCreateWallet _ _ _ _ _)]
  rw [exec_bind_of_ok _ _ _ (exec_insertOnce _ _ _ _ _ _)]
  by_cases h : (db.ledger.find? e.ledgerKey).isSome
  · simp only [ledger_openWallet, h, Bool.not_true, Bool.not_false, if_true]
    rfl
  · have hw : (db.openWallet e.driverId e.currency).walletOrNew e.driverId e.currency =
        db.walletOrNew e.driverId e.currency := by
      simp [PaymentDb.walletOrNew, find?_openWallet db]
    have h' : (db.ledger.find? e.ledgerKey).isSome = false := by simpa using h
    simp only [ledger_openWallet, h', Bool.not_true, Bool.not_false, if_false, Bool.false_eq_true]
    rw [exec_bind_of_ok _ _ _ (exec_select _ _ _ _)]
    simp only [wallets_insertEntry, find?_openWallet]
    rw [scalarOne, exec_bind_of_ok _ _ _ (exec_getOrRaise_some _ _ _ _ _)]
    unfold PaymentDb.post
    rw [hw]
    split_ifs with hs
    · rfl
    · rfl

/-! ## Withdrawals -/

/-- The withdrawal of a consumed quote is found, with or without a change of its destination. -/
theorem exec_reuseWithdrawal (w : DriverWithdrawal) :
    (∃ e, (reuseWithdrawal w).exec ask base db = (.error e, base, db)) ∨
    ∃ x r, db.withdrawalOfQuote w.quoteId = some x ∧
      ((reuseWithdrawal w).exec ask base db = (.ok r, base, db) ∨
        (reuseWithdrawal w).exec ask base db =
          (.ok r, base, db.fillDestination x.id w.beneficiaryDestination)) := by
  unfold reuseWithdrawal
  rw [exec_bind_of_ok _ _ _ (exec_selectAs _ _ _ _ _)]
  cases hx : db.withdrawalOfQuote w.quoteId with
  | none => exact Or.inl ⟨_, rfl⟩
  | some x =>
    dsimp only
    split_ifs with hd
    · exact Or.inr ⟨x, _, rfl, Or.inr rfl⟩
    · exact Or.inr ⟨x, _, rfl, Or.inl rfl⟩

/-- A reservation is refused, finds the withdrawal of its quote, or makes it. -/
theorem exec_reserveWithdrawalFromQuote (w : DriverWithdrawal) (now : DateTime) :
    (∃ e cur, (reserveWithdrawalFromQuote w now).exec ask base db = (.error e, base, cur)) ∨
    (∃ x r, db.withdrawalOfQuote w.quoteId = some x ∧
      ((reserveWithdrawalFromQuote w now).exec ask base db = (.ok r, base, db) ∨
        (reserveWithdrawalFromQuote w now).exec ask base db =
          (.ok r, base, db.fillDestination x.id w.beneficiaryDestination))) ∨
    ∃ q, db.quotes.find? w.quoteId = some q ∧ q.driverId = w.driverId ∧ q.consumedAt = none ∧
      withdrawalTaken (reservedRow w q now) db = false ∧
      q.amount ≤ (db.walletOrNew w.driverId q.currency).balance ∧
      (reserveWithdrawalFromQuote w now).exec ask base db =
        (.ok (reservedRow w q now), base, (db.openWallet w.driverId q.currency).reserve
          (reservedRow w q now) (db.walletOrNew w.driverId q.currency).balance now) := by
  unfold reserveWithdrawalFromQuote
  rw [exec_bind_of_ok _ _ _ (exec_selectForUpdate _ _ _ _ _)]
  cases hq : db.quotes.find? w.quoteId with
  | none => exact Or.inl ⟨_, _, rfl⟩
  | some q =>
    dsimp only
    by_cases hused : q.consumedAt = none
    · rw [if_neg (not_not.mpr hused), exec_raiseIf_bind]
      split_ifs with hdriver
      · exact Or.inl ⟨_, _, rfl⟩
      rw [exec_raiseIf_bind]
      split_ifs with hexpired
      · exact Or.inl ⟨_, _, rfl⟩
      rw [exec_bind_of_ok _ _ _ (exec_lockWallet _ _ _ _ _), exec_raiseIf_bind]
      split_ifs with hpoor
      · exact Or.inl ⟨_, _, rfl⟩
      rw [exec_writeOrRaise_bind]
      split_ifs with htaken
      · exact Or.inl ⟨_, _, rfl⟩
      rw [exec_bind_of_ok _ _ _ (exec_update _ _ _ _ _),
        exec_bind_of_ok _ _ _ (exec_update _ _ _ _ _), exec_writeOrRaise_bind]
      split_ifs with hentry
      · exact Or.inl ⟨_, _, rfl⟩
      · exact Or.inr (Or.inr ⟨q, rfl, not_not.mp hdriver, hused,
          eq_false_of_ne_true htaken, not_lt.mp hpoor, rfl⟩)
    · rw [if_pos hused, exec_raiseIf_bind]
      split_ifs
      · exact Or.inl ⟨_, _, rfl⟩
      rcases exec_reuseWithdrawal ask base db w with ⟨e, he⟩ | ⟨x, r, hx, h | h⟩
      · exact Or.inl ⟨e, db, he⟩
      · exact Or.inr (Or.inl ⟨x, r, hx, Or.inl h⟩)
      · exact Or.inr (Or.inl ⟨x, r, hx, Or.inr h⟩)

theorem exec_insertWithdrawalLedgerOnce (w : DriverWithdrawal) (t : WalletEntryType)
    (dir : WalletEntryDirection) (now : DateTime) :
    (insertWithdrawalLedgerOnce w t dir now).exec ask base db =
      (.ok (db.ledger.find? (w.entryKey t)).isNone, base,
        db.insertEntry (withdrawalEntry w t dir now)) := by
  unfold insertWithdrawalLedgerOnce
  rw [exec_insertOnce, ledgerKey_withdrawalEntry]
  cases h : db.ledger.find? (w.entryKey t) with
  | none => rfl
  | some e =>
    have hins : db.insertEntry (withdrawalEntry w t dir now) = db := by
      unfold PaymentDb.insertEntry
      rw [Table.insert_of_some h]
    rw [hins]; rfl

/-- A mark fails, leaves a final withdrawal alone, or writes the row and what belongs to its status. -/
theorem exec_markWithdrawalProviderState (id : UUID) (p : ProviderState) (now : DateTime) :
    (∃ e cur, (markWithdrawalProviderState id p now).exec ask base db = (.error e, base, cur) ∧
      ∀ w, db.withdrawals.find? id = some w →
        payoutTaken w p db = true ∨ db.wallets.find? w.driverId = none) ∨
    ∃ w, db.withdrawals.find? id = some w ∧
      ((w.status.isFinal ∧
          (markWithdrawalProviderState id p now).exec ask base db = (.ok w, base, db)) ∨
        (w.status.isFinal = false ∧ payoutTaken w p db = false ∧
          (((storedStatus p.status).isFinal = false ∧
            (markWithdrawalProviderState id p now).exec ask base db =
              (.ok (w.marked p now), base, db.markWithdrawal id p now)) ∨
          (storedStatus p.status = .succeeded ∧
            (markWithdrawalProviderState id p now).exec ask base db =
              (.ok (w.marked p now), base, (db.markWithdrawal id p now).insertEntry
                (withdrawalEntry w .withdrawalSucceeded .debit now))) ∨
          (storedStatus p.status = .released ∧
            (db.ledger.find? (w.entryKey .withdrawalReleased)).isSome ∧
            (markWithdrawalProviderState id p now).exec ask base db =
              (.ok (w.marked p now), base, (db.markWithdrawal id p now).insertEntry
                (withdrawalEntry w .withdrawalReleased .credit now))) ∨
          ∃ wal, storedStatus p.status = .released ∧ db.wallets.find? w.driverId = some wal ∧
            (markWithdrawalProviderState id p now).exec ask base db =
              (.ok (w.marked p now), base, ((db.markWithdrawal id p now).insertEntry
                (withdrawalEntry w .withdrawalReleased .credit now)).flushWallet w.driverId
                  wal.balance (wal.balance + w.amount) now)))) := by
  unfold markWithdrawalProviderState
  rw [exec_bind_of_ok _ _ _ (exec_selectForUpdate _ _ _ _ _)]
  cases hw : db.withdrawals.find? id with
  | none => exact Or.inl ⟨_, _, rfl, fun _ h => nomatch h⟩
  | some w =>
    dsimp only
    by_cases hold : w.status = .succeeded ∨ w.status = .released
    · rw [if_pos hold]
      exact Or.inr ⟨w, rfl, Or.inl ⟨by rcases hold with h | h <;> rw [h] <;> rfl, rfl⟩⟩
    have hopen : w.status.isFinal = false := by
      cases hs : w.status <;> simp_all [WithdrawalStatus.isFinal]
    rw [if_neg hold, exec_writeOrRaise_bind]
    by_cases htaken : payoutTaken w p db = true
    · rw [if_pos htaken]
      refine Or.inl ⟨_, _, rfl, fun w' hw' => Or.inl ?_⟩
      obtain rfl := Option.some.inj hw'
      exact htaken
    rw [if_neg htaken]
    have hfree : payoutTaken w p db = false := by simpa using htaken
    by_cases hsucc : storedStatus p.status = .succeeded
    · rw [if_pos hsucc, exec_bind_of_ok _ _ _ (exec_insertWithdrawalLedgerOnce _ _ _ _ _ _ _)]
      exact Or.inr ⟨w, rfl, Or.inr ⟨hopen, hfree, Or.inr (Or.inl ⟨hsucc, rfl⟩)⟩⟩
    rw [if_neg hsucc]
    by_cases hrel : storedStatus p.status = .released
    · rw [if_pos hrel, exec_bind_of_ok _ _ _ (exec_insertWithdrawalLedgerOnce _ _ _ _ _ _ _),
        ledger_markWithdrawal]
      cases hk : db.ledger.find? (w.entryKey .withdrawalReleased) with
      | some e =>
        exact Or.inr ⟨w, rfl, Or.inr ⟨hopen, hfree, Or.inr (Or.inr (Or.inl ⟨hrel, by rw [hk]; rfl,
          rfl⟩))⟩⟩
      | none =>
        simp only [Option.isNone_none, if_true]
        rw [exec_bind_of_ok _ _ _ (exec_selectForUpdate _ _ _ _ _)]
        rw [wallets_insertEntry, wallets_markWithdrawal]
        cases hwal : db.wallets.find? w.driverId with
        | none =>
          refine Or.inl ⟨_, _, rfl, fun w' hw' => Or.inr ?_⟩
          obtain rfl := Option.some.inj hw'
          exact hwal
        | some wal =>
          exact Or.inr ⟨w, rfl, Or.inr ⟨hopen, hfree, Or.inr (Or.inr (Or.inr ⟨wal, hrel, hwal,
            rfl⟩))⟩⟩
    · rw [if_neg hrel]
      refine Or.inr ⟨w, rfl, Or.inr ⟨hopen, hfree, Or.inl ⟨?_, rfl⟩⟩⟩
      cases hs : storedStatus p.status <;> simp_all [WithdrawalStatus.isFinal]

end DiddiGo.Payments
