import DiddiGo.Payments.PaymentService
import DiddiGo.Payments.Proofs.RepositoryProofs

/-!
# Accounts

The books together with the balances, and what each complete change of money does to both.
-/

namespace DiddiGo.Payments

open Data (Json Table)

/-- The books are in order and the balances agree with them. -/
structure Accounts (opening earnedBefore : UUID → Decimal) (db : PaymentDb) : Prop where
  books : Books db
  balanced : db.Balanced opening earnedBefore

namespace Accounts

variable {opening earnedBefore : UUID → Decimal} {db : PaymentDb}

theorem openWallet (h : Accounts opening earnedBefore db) (driverId : UUID) (currency : String) :
    Accounts opening earnedBefore (db.openWallet driverId currency) :=
  ⟨h.books.congr rfl rfl, h.balanced.openWallet driverId currency⟩

/-- A new entry that is not about a withdrawal. -/
theorem post (h : Accounts opening earnedBefore db) {e : DriverLedgerEntry} (now : DateTime)
    (hk : db.ledger.find? e.ledgerKey = none) (ht : e.entryType.isWithdrawal = false) :
    Accounts opening earnedBefore ((db.openWallet e.driverId e.currency).post e now) := by
  have ho := h.openWallet e.driverId e.currency
  have hw : (db.openWallet e.driverId e.currency).wallets.find? e.driverId =
      some ((db.openWallet e.driverId e.currency).walletOrNew e.driverId e.currency) := by
    simp [PaymentDb.walletOrNew]
  unfold PaymentDb.post
  split_ifs with hs
  · exact ⟨(ho.books.insertEntry ht).congr rfl rfl, ho.balanced.record now hk hw ht hs⟩
  · refine ⟨ho.books.insertEntry ht, ho.balanced.insertEntry (fun d => ?_) fun d => ?_⟩
    · simp [DriverLedgerEntry.counted, hs]
    · simp [DriverLedgerEntry.earned, hs]

/-- A reservation. -/
theorem reserve (h : Accounts opening earnedBefore db) {w : DriverWithdrawal} {wal : DriverWallet}
    (now : DateTime) (hs : w.status = .reserved) (hid : db.withdrawals.find? w.id = none)
    (hw : db.wallets.find? w.driverId = some wal) :
    Accounts opening earnedBefore ((((db.insertWithdrawal w).consumeQuote w.quoteId now).flushWallet
      w.driverId wal.balance (wal.balance - w.amount) now).insertEntry (reservedEntry w now)) :=
  ⟨(h.books.reserve now hs hid).congr rfl rfl,
    h.balanced.reserve w.quoteId now hs hid (h.books.entry_none hid rfl) hw⟩

variable {id : UUID} {w : DriverWithdrawal} {p : ProviderState}

theorem isHeld_of_not_isFinal {s : WithdrawalStatus} (h : s.isFinal = false) : s.isHeld = true := by
  cases s <;> simp_all [WithdrawalStatus.isFinal, WithdrawalStatus.isHeld]

/-- A mark that leaves the outcome open. -/
theorem mark (h : Accounts opening earnedBefore db) (now : DateTime)
    (hw : db.withdrawals.find? id = some w) (hold : w.status.isFinal = false)
    (hnew : (storedStatus p.status).isFinal = false) :
    Accounts opening earnedBefore (db.markWithdrawal id p now) :=
  ⟨h.books.mark p now hw hold hnew,
    h.balanced.mark p now hw (isHeld_of_not_isFinal hold) (isHeld_of_not_isFinal hnew)⟩

/-- A mark that settles a withdrawal as paid out. -/
theorem succeed (h : Accounts opening earnedBefore db) (now : DateTime)
    (hw : db.withdrawals.find? id = some w) (hold : w.status.isFinal = false)
    (hnew : storedStatus p.status = .succeeded) :
    Accounts opening earnedBefore ((db.markWithdrawal id p now).insertEntry
      (withdrawalEntry w .withdrawalSucceeded .debit now)) := by
  refine ⟨h.books.settle p now hw hold .debit (Or.inr ⟨rfl, hnew⟩), ?_⟩
  have hm := h.balanced.mark p now hw (isHeld_of_not_isFinal hold) (by rw [hnew]; rfl)
  refine hm.insertEntry (fun d => ?_) fun d => ?_
  · simp [DriverLedgerEntry.counted, withdrawalEntry]
  · simp [DriverLedgerEntry.earned, withdrawalEntry, WalletEntryType.isWithdrawal]

/-- A mark that releases a withdrawal into the wallet. -/
theorem release (h : Accounts opening earnedBefore db) {wal : DriverWallet} (now : DateTime)
    (hw : db.withdrawals.find? id = some w) (hold : w.status.isFinal = false)
    (hnew : storedStatus p.status = .released)
    (hwal : db.wallets.find? w.driverId = some wal) :
    Accounts opening earnedBefore (((db.markWithdrawal id p now).insertEntry
      (withdrawalEntry w .withdrawalReleased .credit now)).flushWallet w.driverId wal.balance
        (wal.balance + w.amount) now) :=
  ⟨(h.books.settle p now hw hold .credit (Or.inl ⟨rfl, hnew⟩)).congr rfl rfl,
    h.balanced.release p now hw (isHeld_of_not_isFinal hold) hnew
      (h.books.entry_none_of_status hw hold).1 hwal⟩

/-- A destination is filled in. -/
theorem fillDestination (h : Accounts opening earnedBefore db) (dest : Option Json)
    (hw : db.withdrawals.find? id = some w) :
    Accounts opening earnedBefore (db.fillDestination id dest) :=
  ⟨h.books.fillDestination hw (find?_fillDestination hw dest) rfl (.fillDestination w dest) rfl,
    h.balanced.fillDestination hw dest⟩

end Accounts

/-- Settlement entries are not about withdrawals. -/
theorem entryType_settlementEntry {ride : Rides.Ride} {status : PaymentStatus} {now : DateTime}
    {e : DriverLedgerEntry} (h : settlementEntry ride status now = some e) :
    e.entryType.isWithdrawal = false := by
  unfold settlementEntry at h
  split at h
  · split_ifs at h
    · obtain rfl := Option.some.inj h; rfl
    · obtain rfl := Option.some.inj h; rfl
  · cases h

end DiddiGo.Payments
