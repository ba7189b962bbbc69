import DiddiGo.Data.Proofs.TableProofs
import DiddiGo.Payments.Books
import Mathlib.Tactic.Ring
import Mathlib.Tactic.Linarith

/-!
# The books after each write

How the totals change with each write, and that every write the repository commits keeps the books in
order.
-/

namespace DiddiGo.Payments

open Data (Json Table Keyed)

/-! ## Keys -/

theorem key_withdrawal (w : DriverWithdrawal) : Keyed.key w = w.id := rfl

theorem key_entry (e : DriverLedgerEntry) : Keyed.key e = e.ledgerKey := rfl

theorem ledgerKey_reservedEntry (w : DriverWithdrawal) (now : DateTime) :
    (reservedEntry w now).ledgerKey = w.entryKey .withdrawalReserved := rfl

theorem ledgerKey_withdrawalEntry (w : DriverWithdrawal) (t : WalletEntryType)
    (dir : WalletEntryDirection) (now : DateTime) :
    (withdrawalEntry w t dir now).ledgerKey = w.entryKey t := rfl

theorem entryKey_marked (w : DriverWithdrawal) (p : ProviderState) (now : DateTime)
    (t : WalletEntryType) : (w.marked p now).entryKey t = w.entryKey t := rfl

theorem id_of_find? {db : PaymentDb} {id : UUID} {w : DriverWithdrawal}
    (h : db.withdrawals.find? id = some w) : w.id = id := Table.key_of_find? h

/-- Keys of entries of different types differ. -/
theorem entryKey_ne {w w' : DriverWithdrawal} {t t' : WalletEntryType} (h : t ≠ t') :
    w.entryKey t ≠ w'.entryKey t' := fun hk => h (congrArg LedgerKey.entryType hk)

/-- Keys of entries of different withdrawals differ. -/
theorem entryKey_ne_of_id {w w' : DriverWithdrawal} {t t' : WalletEntryType} (h : w.id ≠ w'.id) :
    w.entryKey t ≠ w'.entryKey t' := fun hk => h (congrArg LedgerKey.referenceId hk)

/-! ## Tables that a write leaves alone -/

section Frames

variable (db : PaymentDb)

@[simp] theorem ledger_openWallet (d : UUID) (c : String) :
    (db.openWallet d c).ledger = db.ledger := rfl

@[simp] theorem withdrawals_openWallet (d : UUID) (c : String) :
    (db.openWallet d c).withdrawals = db.withdrawals := rfl

@[simp] theorem quotes_openWallet (d : UUID) (c : String) :
    (db.openWallet d c).quotes = db.quotes := rfl

@[simp] theorem wallets_insertEntry (e : DriverLedgerEntry) :
    (db.insertEntry e).wallets = db.wallets := rfl

@[simp] theorem withdrawals_insertEntry (e : DriverLedgerEntry) :
    (db.insertEntry e).withdrawals = db.withdrawals := rfl

@[simp] theorem quotes_insertEntry (e : DriverLedgerEntry) :
    (db.insertEntry e).quotes = db.quotes := rfl

@[simp] theorem ledger_flushWallet (d : UUID) (old new : Decimal) (now : DateTime) :
    (db.flushWallet d old new now).ledger = db.ledger := rfl

@[simp] theorem withdrawals_flushWallet (d : UUID) (old new : Decimal) (now : DateTime) :
    (db.flushWallet d old new now).withdrawals = db.withdrawals := rfl

@[simp] theorem quotes_flushWallet (d : UUID) (old new : Decimal) (now : DateTime) :
    (db.flushWallet d old new now).quotes = db.quotes := rfl

@[simp] theorem wallets_insertWithdrawal (w : DriverWithdrawal) :
    (db.insertWithdrawal w).wallets = db.wallets := rfl

@[simp] theorem ledger_insertWithdrawal (w : DriverWithdrawal) :
    (db.insertWithdrawal w).ledger = db.ledger := rfl

@[simp] theorem quotes_insertWithdrawal (w : DriverWithdrawal) :
    (db.insertWithdrawal w).quotes = db.quotes := rfl

@[simp] theorem wallets_consumeQuote (q : UUID) (now : DateTime) :
    (db.consumeQuote q now).wallets = db.wallets := rfl

@[simp] theorem ledger_consumeQuote (q : UUID) (now : DateTime) :
    (db.consumeQuote q now).ledger = db.ledger := rfl

@[simp] theorem withdrawals_consumeQuote (q : UUID) (now : DateTime) :
    (db.consumeQuote q now).withdrawals = db.withdrawals := rfl

@[simp] theorem wallets_markWithdrawal (id : UUID) (p : ProviderState) (now : DateTime) :
    (db.markWithdrawal id p now).wallets = db.wallets := rfl

@[simp] theorem ledger_markWithdrawal (id : UUID) (p : ProviderState) (now : DateTime) :
    (db.markWithdrawal id p now).ledger = db.ledger := rfl

@[simp] theorem quotes_markWithdrawal (id : UUID) (p : ProviderState) (now : DateTime) :
    (db.markWithdrawal id p now).quotes = db.quotes := rfl

end Frames

/-! ## Totals -/

section Totals

variable {db : PaymentDb} (d : UUID)

theorem find?_openWallet_eq (d : UUID) (currency : String) (d' : UUID) :
    (db.openWallet d currency).wallets.find? d' = (db.wallets.find? d').or
      (if d = d' then some { driverId := d, currency := currency } else none) :=
  Table.find?_insert _ _ _

theorem find?_flushWallet (d : UUID) (old new : Decimal) (now : DateTime) (d' : UUID) :
    (db.flushWallet d old new now).wallets.find? d' =
      if d' = d then (db.wallets.find? d').map fun w =>
        { w with balance := if new = old then w.balance else new, updatedAt := some now }
      else db.wallets.find? d' := by
  unfold PaymentDb.flushWallet
  rw [Table.find?_update]

theorem balance_of_find? {w : DriverWallet} (h : db.wallets.find? d = some w) :
    db.balance d = w.balance := by
  simp [PaymentDb.balance, h]

@[simp] theorem balance_openWallet (driverId : UUID) (currency : String) :
    (db.openWallet driverId currency).balance d = db.balance d := by
  simp only [PaymentDb.balance, PaymentDb.openWallet, Table.find?_insert]
  cases db.wallets.find? d with
  | some w => rfl
  | none => split_ifs <;> rfl

@[simp] theorem balance_insertEntry (e : DriverLedgerEntry) :
    (db.insertEntry e).balance d = db.balance d := rfl

@[simp] theorem balance_insertWithdrawal (w : DriverWithdrawal) :
    (db.insertWithdrawal w).balance d = db.balance d := rfl

@[simp] theorem balance_consumeQuote (quoteId : UUID) (now : DateTime) :
    (db.consumeQuote quoteId now).balance d = db.balance d := rfl

@[simp] theorem balance_markWithdrawal (id : UUID) (p : ProviderState) (now : DateTime) :
    (db.markWithdrawal id p now).balance d = db.balance d := rfl

/-- A flush of the loaded balance is a flush of the difference. -/
theorem balance_flushWallet {driverId : UUID} {w : DriverWallet} (new : Decimal) (now : DateTime)
    (h : db.wallets.find? driverId = some w) :
    (db.flushWallet driverId w.balance new now).balance d =
      db.balance d + if d = driverId then new - w.balance else 0 := by
  by_cases hd : d = driverId
  · subst hd
    simp only [PaymentDb.balance, PaymentDb.flushWallet, Table.find?_update, h, Option.map_some,
      Option.getD_some, if_true]
    split_ifs with hn
    · rw [hn]; ring
    · ring
  · simp [PaymentDb.balance, PaymentDb.flushWallet, Table.find?_update, hd]

theorem countedTotal_insertEntry {e : DriverLedgerEntry}
    (h : db.ledger.find? e.ledgerKey = none) :
    (db.insertEntry e).countedTotal d = db.countedTotal d + e.counted d :=
  Table.sum_insert _ h

theorem earnedTotal_insertEntry {e : DriverLedgerEntry}
    (h : db.ledger.find? e.ledgerKey = none) :
    (db.insertEntry e).earnedTotal d = db.earnedTotal d + e.earned d :=
  Table.sum_insert _ h

theorem withdrawnTotal_insertWithdrawal {w : DriverWithdrawal} (p : WithdrawalStatus → Bool)
    (h : db.withdrawals.find? w.id = none) :
    (db.insertWithdrawal w).withdrawnTotal p d = db.withdrawnTotal p d + w.amountIf d p :=
  Table.sum_insert _ h

theorem withdrawnTotal_markWithdrawal {id : UUID} {w : DriverWithdrawal}
    (p : WithdrawalStatus → Bool) (s : ProviderState) (now : DateTime)
    (h : db.withdrawals.find? id = some w) :
    (db.markWithdrawal id s now).withdrawnTotal p d =
      db.withdrawnTotal p d - w.amountIf d p + (w.marked s now).amountIf d p :=
  Table.sum_update (fun x : DriverWithdrawal => x.marked s now) (fun _ => rfl)
    (DriverWithdrawal.amountIf d p) h

/-- What withdrawals hold is what is pending and what has been paid out. -/
theorem withdrawnTotal_isHeld (h : Books db) :
    db.withdrawnTotal WithdrawalStatus.isHeld d =
      db.withdrawnTotal WithdrawalStatus.isPending d + db.withdrawnTotal (· = .succeeded) d := by
  have hrow : ∀ w ∈ db.withdrawals.rows, w.amountIf d WithdrawalStatus.isHeld =
      w.amountIf d WithdrawalStatus.isPending + w.amountIf d (· = .succeeded) := by
    intro w hw
    have hf := h.notFailed _ _ (Table.find?_key_of_mem hw)
    unfold DriverWithdrawal.amountIf
    cases hs : w.status <;>
      simp_all [WithdrawalStatus.isHeld, WithdrawalStatus.isPending]
  unfold PaymentDb.withdrawnTotal
  rw [Table.sum_congr hrow]
  simp only [Table.sum, List.sum_map_add]

end Totals

/-! ## Balances -/

namespace PaymentDb.Balanced

variable {db : PaymentDb} {opening earnedBefore : UUID → Decimal}

theorem openWallet (h : db.Balanced opening earnedBefore) (driverId : UUID) (currency : String) :
    (db.openWallet driverId currency).Balanced opening earnedBefore where
  counted d := by
    rw [balance_openWallet]; exact h.counted d
  held d := by
    rw [balance_openWallet]; exact h.held d

theorem congr {db' : PaymentDb} (h : db.Balanced opening earnedBefore)
    (hw : db'.wallets = db.wallets) (hl : db'.ledger = db.ledger)
    (hwd : db'.withdrawals = db.withdrawals) : db'.Balanced opening earnedBefore where
  counted d := by
    simp only [PaymentDb.balance, PaymentDb.countedTotal, hw, hl]
    exact h.counted d
  held d := by
    simp only [PaymentDb.balance, PaymentDb.withdrawnTotal, PaymentDb.earnedTotal, hw, hl, hwd]
    exact h.held d

/-- An entry that counts nothing keeps the balances. -/
theorem insertEntry (h : db.Balanced opening earnedBefore) {e : DriverLedgerEntry}
    (hc : ∀ d, e.counted d = 0) (he : ∀ d, e.earned d = 0) :
    (db.insertEntry e).Balanced opening earnedBefore := by
  cases hk : db.ledger.find? e.ledgerKey with
  | some x =>
    have hdb : db.insertEntry e = db := by
      unfold PaymentDb.insertEntry
      rw [Table.insert_of_some hk]
    rw [hdb]; exact h
  | none =>
    constructor
    · intro d
      rw [balance_insertEntry, countedTotal_insertEntry d hk, hc, add_zero]
      exact h.counted d
    · intro d
      rw [balance_insertEntry, earnedTotal_insertEntry d hk, he, add_zero]
      exact h.held d

/-- A confirmed entry together with the balance it moves. -/
theorem record (h : db.Balanced opening earnedBefore) {e : DriverLedgerEntry} {w : DriverWallet}
    (now : DateTime) (hk : db.ledger.find? e.ledgerKey = none)
    (hw : db.wallets.find? e.driverId = some w) (ht : e.entryType.isWithdrawal = false)
    (hs : e.status = .confirmed) :
    ((db.insertEntry e).flushWallet e.driverId w.balance (w.balance + e.delta) now).Balanced
      opening earnedBefore := by
  have hne : e.entryType ≠ .withdrawalSucceeded := by
    intro h'; rw [h'] at ht; cases ht
  have hcount : ∀ d, e.counted d = if d = e.driverId then e.delta else 0 := by
    intro d
    simp [DriverLedgerEntry.counted, hs, hne, eq_comm]
  have hearn : ∀ d, e.earned d = if d = e.driverId then e.delta else 0 := by
    intro d
    simp [DriverLedgerEntry.earned, hs, ht, eq_comm]
  have hbal : ∀ d, ((db.insertEntry e).flushWallet e.driverId w.balance (w.balance + e.delta)
      now).balance d = db.balance d + if d = e.driverId then e.delta else 0 := by
    intro d
    rw [@balance_flushWallet (db.insertEntry e) d _ _ _ now hw]
    simp
  constructor
  · intro d
    have hct := countedTotal_insertEntry d hk
    rw [hbal, h.counted d]
    change _ = opening d + (db.insertEntry e).countedTotal d
    rw [hct, hcount]; ring
  · intro d
    have het := earnedTotal_insertEntry d hk
    have hh := h.held d
    rw [hbal]
    change _ + db.withdrawnTotal _ d = earnedBefore d + (db.insertEntry e).earnedTotal d
    rw [het, hearn]; linarith

/-- A withdrawal is reserved: the wallet pays, the withdrawal holds. -/
theorem reserve (h : db.Balanced opening earnedBefore) {w : DriverWithdrawal} {wal : DriverWallet}
    (quoteId : UUID) (now : DateTime) (hs : w.status = .reserved)
    (hid : db.withdrawals.find? w.id = none)
    (hk : db.ledger.find? (w.entryKey .withdrawalReserved) = none)
    (hw : db.wallets.find? w.driverId = some wal) :
    ((((db.insertWithdrawal w).consumeQuote quoteId now).flushWallet w.driverId wal.balance
      (wal.balance - w.amount) now).insertEntry (reservedEntry w now)).Balanced opening
        earnedBefore := by
  have hbal : ∀ d, ((((db.insertWithdrawal w).consumeQuote quoteId now).flushWallet w.driverId
      wal.balance (wal.balance - w.amount) now).insertEntry (reservedEntry w now)).balance d =
        db.balance d + if d = w.driverId then -w.amount else 0 := by
    intro d
    rw [balance_insertEntry, @balance_flushWallet ((db.insertWithdrawal w).consumeQuote _ _) d
      _ _ _ now hw]
    simp
  constructor
  · intro d
    have hct := @countedTotal_insertEntry db d (reservedEntry w now) hk
    rw [hbal, h.counted d]
    change _ = opening d + (db.insertEntry (reservedEntry w now)).countedTotal d
    rw [hct]
    simp only [DriverLedgerEntry.counted, reservedEntry, DriverLedgerEntry.delta, eq_comm (a := d)]
    split_ifs <;> simp_all
    ring
  · intro d
    have het := @earnedTotal_insertEntry db d (reservedEntry w now) hk
    have hwt := withdrawnTotal_insertWithdrawal d WithdrawalStatus.isHeld hid
    have hh := h.held d
    have he : (reservedEntry w now).earned d = 0 := by
      simp [DriverLedgerEntry.earned, reservedEntry, WalletEntryType.isWithdrawal]
    have ha : w.amountIf d WithdrawalStatus.isHeld = if d = w.driverId then w.amount else 0 := by
      simp [DriverWithdrawal.amountIf, hs, WithdrawalStatus.isHeld, eq_comm]
    rw [hbal]
    change _ + (db.insertWithdrawal w).withdrawnTotal _ d =
      earnedBefore d + (db.insertEntry (reservedEntry w now)).earnedTotal d
    rw [het, hwt, he, ha]
    split_ifs <;> linarith

/-- A withdrawal that stays out of the wallet keeps the balances. -/
theorem mark (h : db.Balanced opening earnedBefore) {id : UUID} {w : DriverWithdrawal}
    (p : ProviderState) (now : DateTime) (hw : db.withdrawals.find? id = some w)
    (hold : w.status.isHeld) (hnew : (storedStatus p.status).isHeld) :
    (db.markWithdrawal id p now).Balanced opening earnedBefore where
  counted d := h.counted d
  held d := by
    have hm := withdrawnTotal_markWithdrawal d WithdrawalStatus.isHeld p now hw
    have hh := h.held d
    have ha : (w.marked p now).amountIf d WithdrawalStatus.isHeld =
        w.amountIf d WithdrawalStatus.isHeld := by
      simp [DriverWithdrawal.amountIf, DriverWithdrawal.marked, hold, hnew]
    rw [balance_markWithdrawal, hm, ha]
    change _ = earnedBefore d + db.earnedTotal d
    linarith

/-- A withdrawal is released: what it held goes back into the wallet. -/
theorem release (h : db.Balanced opening earnedBefore) {id : UUID} {w : DriverWithdrawal}
    {wal : DriverWallet} (p : ProviderState) (now : DateTime)
    (hw : db.withdrawals.find? id = some w) (hold : w.status.isHeld)
    (hnew : storedStatus p.status = .released)
    (hk : db.ledger.find? (w.entryKey .withdrawalReleased) = none)
    (hwal : db.wallets.find? w.driverId = some wal) :
    (((db.markWithdrawal id p now).insertEntry
      (withdrawalEntry w .withdrawalReleased .credit now)).flushWallet w.driverId wal.balance
        (wal.balance + w.amount) now).Balanced opening earnedBefore := by
  set e := withdrawalEntry w .withdrawalReleased .credit now with he
  have hbal : ∀ d, (((db.markWithdrawal id p now).insertEntry e).flushWallet w.driverId wal.balance
      (wal.balance + w.amount) now).balance d =
        db.balance d + if d = w.driverId then w.amount else 0 := by
    intro d
    rw [@balance_flushWallet ((db.markWithdrawal id p now).insertEntry e) d _ _ _ now hwal]
    simp
  constructor
  · intro d
    have hct := @countedTotal_insertEntry db d e hk
    rw [hbal, h.counted d]
    change _ = opening d + (db.insertEntry e).countedTotal d
    rw [hct]
    simp only [DriverLedgerEntry.counted, he, withdrawalEntry, DriverLedgerEntry.delta,
      eq_comm (a := d)]
    split_ifs <;> simp_all
    ring
  · intro d
    have het := @earnedTotal_insertEntry db d e hk
    have hwt := withdrawnTotal_markWithdrawal d WithdrawalStatus.isHeld p now hw
    have hh := h.held d
    have hearn : e.earned d = 0 := by
      simp [DriverLedgerEntry.earned, he, withdrawalEntry, WalletEntryType.isWithdrawal]
    have ha : w.amountIf d WithdrawalStatus.isHeld = if d = w.driverId then w.amount else 0 := by
      simp [DriverWithdrawal.amountIf, hold, eq_comm]
    have ha' : (w.marked p now).amountIf d WithdrawalStatus.isHeld = 0 := by
      simp [DriverWithdrawal.amountIf, DriverWithdrawal.marked, hnew, WithdrawalStatus.isHeld]
    rw [hbal]
    change _ + (db.markWithdrawal id p now).withdrawnTotal _ d =
      earnedBefore d + (db.insertEntry e).earnedTotal d
    rw [het, hwt, hearn, ha, ha']
    split_ifs <;> linarith

theorem fillDestination {id : UUID} {w : DriverWithdrawal}
    (h : db.Balanced opening earnedBefore)
    (hw : db.withdrawals.find? id = some w) (dest : Option Json) :
    (db.fillDestination id dest).Balanced opening earnedBefore where
  counted d := h.counted d
  held d := by
    have hsum : (db.fillDestination id dest).withdrawnTotal WithdrawalStatus.isHeld d =
        db.withdrawnTotal WithdrawalStatus.isHeld d - w.amountIf d WithdrawalStatus.isHeld +
          w.amountIf d WithdrawalStatus.isHeld :=
      Table.sum_update (fun x : DriverWithdrawal => { x with beneficiaryDestination := dest })
        (fun _ => rfl) (DriverWithdrawal.amountIf d WithdrawalStatus.isHeld) hw
    rw [sub_add_cancel] at hsum
    rw [hsum]
    exact h.held d

end PaymentDb.Balanced

/-! ## Books -/

namespace DriverWithdrawal.SameOrder

variable {w w' w'' : DriverWithdrawal}

theorem refl (w : DriverWithdrawal) : w.SameOrder w :=
  ⟨rfl, rfl, rfl, rfl, rfl, rfl, rfl, rfl, rfl, rfl⟩

theorem trans (h : w.SameOrder w') (h' : w'.SameOrder w'') : w.SameOrder w'' where
  id := h'.id.trans h.id
  driverId := h'.driverId.trans h.driverId
  quoteId := h'.quoteId.trans h.quoteId
  amount := h'.amount.trans h.amount
  fees := h'.fees.trans h.fees
  netAmount := h'.netAmount.trans h.netAmount
  currency := h'.currency.trans h.currency
  beneficiaryReference := h'.beneficiaryReference.trans h.beneficiaryReference
  businessReference := h'.businessReference.trans h.businessReference
  idempotencyKey := h'.idempotencyKey.trans h.idempotencyKey

theorem marked (w : DriverWithdrawal) (p : ProviderState) (now : DateTime) :
    w.SameOrder (w.marked p now) :=
  ⟨rfl, rfl, rfl, rfl, rfl, rfl, rfl, rfl, rfl, rfl⟩

theorem fillDestination (w : DriverWithdrawal) (dest : Option Json) :
    w.SameOrder { w with beneficiaryDestination := dest } :=
  ⟨rfl, rfl, rfl, rfl, rfl, rfl, rfl, rfl, rfl, rfl⟩

theorem entryKey (h : w.SameOrder w') (t : WalletEntryType) : w'.entryKey t = w.entryKey t := by
  unfold DriverWithdrawal.entryKey
  rw [h.id, h.driverId]

theorem ofQuote (h : w.SameOrder w') {q : DriverWithdrawalQuote} (hq : w.OfQuote q) :
    w'.OfQuote q where
  quoteId := h.quoteId.trans hq.quoteId
  driverId := h.driverId.trans hq.driverId
  amount := h.amount.trans hq.amount
  fees := h.fees.trans hq.fees
  netAmount := h.netAmount.trans hq.netAmount
  currency := h.currency.trans hq.currency

end DriverWithdrawal.SameOrder

section Lookups

variable {db : PaymentDb} {id : UUID} {w : DriverWithdrawal}

/-- A table in which only the row `id` is new. -/
theorem find?_cases {o : Option DriverWithdrawal} {i : UUID} {x w' : DriverWithdrawal}
    {t : Option DriverWithdrawal} (h : t = if i = id then some w' else o) (hx : t = some x) :
    (i = id ∧ x = w') ∨ (i ≠ id ∧ o = some x) := by
  rw [h] at hx
  split_ifs at hx with hi
  · exact Or.inl ⟨hi, (Option.some.inj hx).symm⟩
  · exact Or.inr ⟨hi, hx⟩

theorem find?_markWithdrawal (hw : db.withdrawals.find? id = some w) (p : ProviderState)
    (now : DateTime) (i : UUID) :
    (db.markWithdrawal id p now).withdrawals.find? i =
      if i = id then some (w.marked p now) else db.withdrawals.find? i := by
  unfold PaymentDb.markWithdrawal
  rw [Table.find?_update]
  split_ifs with hi
  · subst hi; rw [hw]; rfl
  · rfl

theorem find?_insertWithdrawal (hid : db.withdrawals.find? w.id = none) (i : UUID) :
    (db.insertWithdrawal w).withdrawals.find? i =
      if i = w.id then some w else db.withdrawals.find? i := by
  have h : (db.insertWithdrawal w).withdrawals.find? i = (db.withdrawals.find? i).or
      (if w.id = i then some w else none) := Table.find?_insert _ _ _
  rw [h]
  by_cases hi : i = w.id
  · subst hi; rw [hid]; simp
  · simp [hi, eq_comm]

theorem find?_fillDestination {id : UUID} {w : DriverWithdrawal}
    (hw : db.withdrawals.find? id = some w) (dest : Option Json) (i : UUID) :
    (db.fillDestination id dest).withdrawals.find? i =
      if i = id then some { w with beneficiaryDestination := dest } else db.withdrawals.find? i := by
  unfold PaymentDb.fillDestination
  rw [Table.find?_update]
  split_ifs with hi
  · subst hi; rw [hw]; rfl
  · rfl

theorem find?_of_withdrawalOfQuote {quoteId : UUID} {x : DriverWithdrawal}
    (h : db.withdrawalOfQuote quoteId = some x) :
    db.withdrawals.find? x.id = some x ∧ x.quoteId = quoteId := by
  unfold PaymentDb.withdrawalOfQuote at h
  refine ⟨Table.find?_key_of_mem (List.mem_of_find?_eq_some h), ?_⟩
  simpa using List.find?_some h

theorem find?_of_not_withdrawalTaken {w : DriverWithdrawal} (h : withdrawalTaken w db = false) :
    db.withdrawals.find? w.id = none := by
  cases hx : db.withdrawals.find? w.id with
  | none => rfl
  | some x =>
    have hm := Table.mem_of_find? hx
    have hk : x.id = w.id := Table.key_of_find? hx
    unfold withdrawalTaken at h
    rw [List.any_eq_false] at h
    exact absurd (by simp [hk]) (h x hm)

end Lookups

namespace Books

variable {db db' : PaymentDb} {id : UUID} {w w' : DriverWithdrawal}

theorem congr (h : Books db) (hw : db'.withdrawals = db.withdrawals)
    (hl : db'.ledger = db.ledger) : Books db' := by
  constructor
  · rw [hw, hl]; exact h.reserved
  · rw [hw, hl]; exact h.released
  · rw [hw, hl]; exact h.succeeded
  · rw [hw]; exact h.notFailed
  · rw [hw, hl]; exact h.owned

/-- Without a withdrawal there is no entry for it. -/
theorem entry_none (h : Books db) (hid : db.withdrawals.find? w.id = none) {t : WalletEntryType}
    (ht : t.isWithdrawal) : db.ledger.find? (w.entryKey t) = none := by
  cases hk : db.ledger.find? (w.entryKey t) with
  | none => rfl
  | some e =>
    have hkey : e.ledgerKey = w.entryKey t := Table.key_of_find? hk
    have htype : e.entryType = t := congrArg LedgerKey.entryType hkey
    have href : e.referenceId = w.id := congrArg LedgerKey.referenceId hkey
    obtain ⟨x, hx, -⟩ := h.owned _ e hk (by rw [htype]; exact ht)
    rw [href, hid] at hx
    cases hx

theorem entry_none_of_status (h : Books db) (hw : db.withdrawals.find? id = some w)
    (hf : w.status.isFinal = false) :
    db.ledger.find? (w.entryKey .withdrawalReleased) = none ∧
      db.ledger.find? (w.entryKey .withdrawalSucceeded) = none := by
  constructor
  · by_contra hne
    have := (h.released _ _ hw).mp (Option.isSome_iff_ne_none.mpr hne)
    rw [this] at hf; cases hf
  · by_contra hne
    have := (h.succeeded _ _ hw).mp (Option.isSome_iff_ne_none.mpr hne)
    rw [this] at hf; cases hf

/-- A withdrawal has at most one entry of each type. -/
theorem length_entriesOf (h : Books db) (hw : db.withdrawals.find? id = some w)
    {t : WalletEntryType} (ht : t.isWithdrawal) : (db.entriesOf id t).length =
      if (db.ledger.find? (w.entryKey t)).isSome then 1 else 0 := by
  rw [← Table.length_filter_key, PaymentDb.entriesOf]
  congr 1
  refine List.filter_congr fun e he => ?_
  have hiff : e.entryType = t ∧ e.referenceId = id ↔ e.ledgerKey = w.entryKey t := by
    constructor
    · rintro ⟨rfl, rfl⟩
      obtain ⟨w', hw', hk⟩ := h.owned _ e (Table.find?_key_of_mem he) ht
      obtain rfl := Option.some.inj (hw.symm.trans hw')
      exact hk
    · intro hk
      exact ⟨congrArg LedgerKey.entryType hk,
        (congrArg LedgerKey.referenceId hk).trans (id_of_find? hw)⟩
  simp only [hiff]
  rfl

/-- An entry that is not about a withdrawal. -/
theorem insertEntry (h : Books db) {e : DriverLedgerEntry} (ht : e.entryType.isWithdrawal = false) :
    Books (db.insertEntry e) := by
  have hfind : ∀ (x : DriverWithdrawal) (t : WalletEntryType), t.isWithdrawal = true →
      (db.insertEntry e).ledger.find? (x.entryKey t) = db.ledger.find? (x.entryKey t) := by
    intro x t hx
    refine Table.find?_insert_of_ne _ fun hk => ?_
    have : e.entryType = t := congrArg LedgerKey.entryType hk
    rw [this, hx] at ht; cases ht
  constructor
  · intro i x hx; rw [hfind x _ rfl]; exact h.reserved i x hx
  · intro i x hx; rw [hfind x _ rfl]; exact h.released i x hx
  · intro i x hx; rw [hfind x _ rfl]; exact h.succeeded i x hx
  · exact h.notFailed
  · intro k x hx hxt
    rcases Table.mem_insert (Table.mem_of_find? hx) with hm | rfl
    · exact h.owned _ x (Table.find?_key_of_mem hm) hxt
    · rw [ht] at hxt; cases hxt

/-- A withdrawal changes its status, with the entry that belongs to it. -/
theorem of_sameOrder (h : Books db) (hw : db.withdrawals.find? id = some w)
    (hfind : ∀ i, db'.withdrawals.find? i =
      if i = id then some w' else db.withdrawals.find? i)
    (hsame : w.SameOrder w')
    (hkept : ∀ k e, db.ledger.find? k = some e → db'.ledger.find? k = some e)
    (hnew : ∀ k e, db'.ledger.find? k = some e →
      db.ledger.find? k = some e ∨ e.ledgerKey = w.entryKey e.entryType)
    (hrel : (db'.ledger.find? (w.entryKey .withdrawalReleased)).isSome ↔ w'.status = .released)
    (hsucc : (db'.ledger.find? (w.entryKey .withdrawalSucceeded)).isSome ↔ w'.status = .succeeded)
    (hfail : w'.status ≠ .failed) : Books db' := by
  -- an entry of another withdrawal is there after the write exactly when it was there before
  have hother : ∀ (x : DriverWithdrawal) t, x.id ≠ id →
      ((db'.ledger.find? (x.entryKey t)).isSome ↔ (db.ledger.find? (x.entryKey t)).isSome) := by
    intro x t hx
    constructor
    · intro hs
      obtain ⟨e, he⟩ := Option.isSome_iff_exists.mp hs
      rcases hnew _ e he with h1 | h1
      · rw [h1]; rfl
      · have hk : e.ledgerKey = x.entryKey t := Table.key_of_find? he
        have : w.id = x.id := congrArg LedgerKey.referenceId (h1.symm.trans hk)
        exact absurd (this.symm.trans (id_of_find? hw)) hx
    · intro hs
      obtain ⟨e, he⟩ := Option.isSome_iff_exists.mp hs
      rw [hkept _ e he]; rfl
  have hcase : ∀ i x, db'.withdrawals.find? i = some x →
      (i = id ∧ x = w') ∨ (i ≠ id ∧ db.withdrawals.find? i = some x) :=
    fun i x hx => find?_cases (hfind i) hx
  constructor
  · intro i x hx
    rcases hcase i x hx with ⟨rfl, rfl⟩ | ⟨hi, hx⟩
    · obtain ⟨e, he, ha⟩ := h.reserved _ _ hw
      exact ⟨e, by rw [hsame.entryKey]; exact hkept _ _ he, ha.trans hsame.amount.symm⟩
    · obtain ⟨e, he, ha⟩ := h.reserved _ _ hx
      exact ⟨e, hkept _ _ he, ha⟩
  · intro i x hx
    rcases hcase i x hx with ⟨rfl, rfl⟩ | ⟨hi, hx⟩
    · rw [hsame.entryKey]; exact hrel
    · rw [hother x _ (by rw [id_of_find? hx]; exact hi)]; exact h.released _ _ hx
  · intro i x hx
    rcases hcase i x hx with ⟨rfl, rfl⟩ | ⟨hi, hx⟩
    · rw [hsame.entryKey]; exact hsucc
    · rw [hother x _ (by rw [id_of_find? hx]; exact hi)]; exact h.succeeded _ _ hx
  · intro i x hx
    rcases hcase i x hx with ⟨rfl, rfl⟩ | ⟨hi, hx⟩
    · exact hfail
    · exact h.notFailed _ _ hx
  · intro k e he ht
    -- the withdrawal an entry belongs to is still there
    have hstill : ∀ x, db.withdrawals.find? e.referenceId = some x →
        e.ledgerKey = x.entryKey e.entryType →
        ∃ y, db'.withdrawals.find? e.referenceId = some y ∧
          e.ledgerKey = y.entryKey e.entryType := by
      intro x hx hk
      by_cases hi : e.referenceId = id
      · have hxw : x = w := Option.some.inj (hx.symm.trans (hi ▸ hw))
        refine ⟨w', by rw [hfind, if_pos hi], ?_⟩
        rw [hsame.entryKey, hk, hxw]
      · exact ⟨x, by rw [hfind, if_neg hi]; exact hx, hk⟩
    rcases hnew _ e he with h1 | h1
    · obtain ⟨x, hx, hk⟩ := h.owned _ e h1 ht
      exact hstill x hx hk
    · have href : e.referenceId = w.id := congrArg LedgerKey.referenceId h1
      exact hstill w (by rw [href, id_of_find? hw]; exact hw) h1

theorem storedStatus_ne_failed (s : WithdrawalStatus) : storedStatus s ≠ .failed := by
  cases s <;> simp [storedStatus]

/-- A mark that leaves the outcome open. -/
theorem mark (h : Books db) (p : ProviderState) (now : DateTime)
    (hw : db.withdrawals.find? id = some w) (hold : w.status.isFinal = false)
    (hnew : (storedStatus p.status).isFinal = false) : Books (db.markWithdrawal id p now) := by
  obtain ⟨hr, hs⟩ := h.entry_none_of_status hw hold
  have hstatus : (w.marked p now).status = storedStatus p.status := rfl
  refine h.of_sameOrder hw (find?_markWithdrawal hw p now) (.marked w p now)
    (fun k e he => he) (fun k e he => Or.inl he) ?_ ?_ (storedStatus_ne_failed _)
  · rw [hstatus, ledger_markWithdrawal, hr]
    constructor
    · simp
    · intro h'; rw [h'] at hnew; cases hnew
  · rw [hstatus, ledger_markWithdrawal, hs]
    constructor
    · simp
    · intro h'; rw [h'] at hnew; cases hnew

/-- A mark that settles the outcome, with its entry: `t` is the type that belongs to the status. -/
theorem settle (h : Books db) (p : ProviderState) (now : DateTime)
    (hw : db.withdrawals.find? id = some w) (hold : w.status.isFinal = false)
    (dir : WalletEntryDirection) {t : WalletEntryType}
    (ht : (t = .withdrawalReleased ∧ storedStatus p.status = .released) ∨
      (t = .withdrawalSucceeded ∧ storedStatus p.status = .succeeded)) :
    Books ((db.markWithdrawal id p now).insertEntry (withdrawalEntry w t dir now)) := by
  obtain ⟨hr, hs⟩ := h.entry_none_of_status hw hold
  have hstatus : (w.marked p now).status = storedStatus p.status := rfl
  have hledger : ∀ k, ((db.markWithdrawal id p now).insertEntry
      (withdrawalEntry w t dir now)).ledger.find? k =
        (db.ledger.find? k).or (if w.entryKey t = k then some (withdrawalEntry w t dir now)
          else none) := fun k => Table.find?_insert _ _ _
  refine h.of_sameOrder hw (find?_markWithdrawal hw p now) (.marked w p now) ?_ ?_ ?_ ?_
    (storedStatus_ne_failed _)
  · intro k e he
    rw [hledger, he]; rfl
  · intro k e he
    rw [hledger] at he
    cases hk : db.ledger.find? k with
    | some x => rw [hk] at he; exact Or.inl he
    | none =>
      rw [hk, Option.none_or] at he
      split_ifs at he with hkey
      obtain rfl := Option.some.inj he
      exact Or.inr rfl
  · rw [hstatus, hledger, hr, Option.none_or]
    rcases ht with ⟨rfl, h'⟩ | ⟨rfl, h'⟩ <;> simp [h', DriverWithdrawal.entryKey]
  · rw [hstatus, hledger, hs, Option.none_or]
    rcases ht with ⟨rfl, h'⟩ | ⟨rfl, h'⟩ <;> simp [h', DriverWithdrawal.entryKey]

/-- A destination is filled in. -/
theorem fillDestination (h : Books db) (hw : db.withdrawals.find? id = some w)
    (hfind : ∀ i, db'.withdrawals.find? i = if i = id then some w' else db.withdrawals.find? i)
    (hl : db'.ledger = db.ledger) (hsame : w.SameOrder w') (hstatus : w'.status = w.status) :
    Books db' := by
  refine h.of_sameOrder hw hfind hsame (by rw [hl]; exact fun k e he => he)
    (by rw [hl]; exact fun k e he => Or.inl he) ?_ ?_ (by rw [hstatus]; exact h.notFailed _ _ hw)
  · rw [hl, hstatus]; exact h.released _ _ hw
  · rw [hl, hstatus]; exact h.succeeded _ _ hw

/-- A withdrawal is reserved, with its entry. -/
theorem reserve (h : Books db) (now : DateTime) (hs : w.status = .reserved)
    (hid : db.withdrawals.find? w.id = none) :
    Books ((db.insertWithdrawal w).insertEntry (reservedEntry w now)) := by
  have hkey : ∀ t, t.isWithdrawal = true → db.ledger.find? (w.entryKey t) = none :=
    fun t ht => h.entry_none hid ht
  set e := reservedEntry w now with he
  set db1 := (db.insertWithdrawal w).insertEntry e with hdb1
  have hwith : ∀ i, db1.withdrawals.find? i =
      if i = w.id then some w else db.withdrawals.find? i := find?_insertWithdrawal hid
  have hledger : ∀ k, db1.ledger.find? k = (db.ledger.find? k).or
      (if w.entryKey .withdrawalReserved = k then some e else none) :=
    fun k => Table.find?_insert _ _ _
  have hcase : ∀ i x, db1.withdrawals.find? i = some x →
      (i = w.id ∧ x = w) ∨ (i ≠ w.id ∧ db.withdrawals.find? i = some x) :=
    fun i x hx => find?_cases (hwith i) hx
  have hold : ∀ (x : DriverWithdrawal) t, t ≠ .withdrawalReserved →
      db1.ledger.find? (x.entryKey t) = db.ledger.find? (x.entryKey t) := by
    intro x t ht
    rw [hledger, if_neg (entryKey_ne ht.symm), Option.or_none]
  constructor
  · intro i x hx
    rcases hcase i x hx with ⟨-, rfl⟩ | ⟨hi, hx⟩
    · exact ⟨e, by rw [hledger, hkey _ rfl]; simp, rfl⟩
    · obtain ⟨e', he', ha⟩ := h.reserved _ _ hx
      exact ⟨e', by rw [hledger, he']; rfl, ha⟩
  · intro i x hx
    rw [hold x _ (by decide)]
    rcases hcase i x hx with ⟨-, rfl⟩ | ⟨hi, hx⟩
    · rw [hkey _ rfl, hs]; simp
    · exact h.released _ _ hx
  · intro i x hx
    rw [hold x _ (by decide)]
    rcases hcase i x hx with ⟨-, rfl⟩ | ⟨hi, hx⟩
    · rw [hkey _ rfl, hs]; simp
    · exact h.succeeded _ _ hx
  · intro i x hx
    rcases hcase i x hx with ⟨-, rfl⟩ | ⟨hi, hx⟩
    · rw [hs]; decide
    · exact h.notFailed _ _ hx
  · intro k x hx ht
    rw [hledger] at hx
    cases hk : db.ledger.find? k with
    | some y =>
      rw [hk] at hx
      obtain rfl := Option.some.inj hx
      obtain ⟨z, hz, hzk⟩ := h.owned _ _ hk ht
      refine ⟨z, ?_, hzk⟩
      rw [hwith, if_neg, hz]
      intro hi
      rw [hi, hid] at hz; cases hz
    | none =>
      rw [hk, Option.none_or] at hx
      split_ifs at hx
      obtain rfl := Option.some.inj hx
      exact ⟨w, by rw [hwith]; exact if_pos rfl, rfl⟩

end Books

namespace QuoteBooks

variable {db db' : PaymentDb} {id : UUID} {w w' : DriverWithdrawal}

theorem congr (h : QuoteBooks db) (hw : db'.withdrawals = db.withdrawals)
    (hq : db'.quotes = db.quotes) : QuoteBooks db' := by
  constructor
  · rw [hw, hq]; exact h.quoted
  · rw [hw, hq]; exact h.consumed
  · rw [hw]; exact h.oncePerQuote

/-- A later version of a withdrawal. -/
theorem of_sameOrder (h : QuoteBooks db) (hw : db.withdrawals.find? id = some w)
    (hq : db'.quotes = db.quotes)
    (hfind : ∀ i, db'.withdrawals.find? i = if i = id then some w' else db.withdrawals.find? i)
    (hsame : w.SameOrder w') : QuoteBooks db' := by
  have hback : ∀ i x, db'.withdrawals.find? i = some x →
      ∃ y, db.withdrawals.find? i = some y ∧ y.SameOrder x := by
    intro i x hx
    rcases find?_cases (hfind i) hx with ⟨rfl, rfl⟩ | ⟨-, hx⟩
    · exact ⟨w, hw, hsame⟩
    · exact ⟨x, hx, .refl x⟩
  constructor
  · intro i x hx
    obtain ⟨y, hy, hyx⟩ := hback i x hx
    obtain ⟨q, hq', hc, ho⟩ := h.quoted _ _ hy
    exact ⟨q, by rw [hq, hyx.quoteId]; exact hq', hc, hyx.ofQuote ho⟩
  · intro i q hi hc
    rw [hq] at hi
    obtain ⟨j, x, hx, hxq⟩ := h.consumed _ _ hi hc
    by_cases hj : j = id
    · have hxw : x = w := Option.some.inj (hx.symm.trans (hj ▸ hw))
      exact ⟨id, w', by rw [hfind, if_pos rfl], by rw [hsame.quoteId, ← hxw]; exact hxq⟩
    · exact ⟨j, x, by rw [hfind, if_neg hj]; exact hx, hxq⟩
  · intro i j x y hx hy hxy
    obtain ⟨x', hx', hxx⟩ := hback i x hx
    obtain ⟨y', hy', hyy⟩ := hback j y hy
    exact h.oncePerQuote i j x' y' hx' hy' (hxx.quoteId.symm.trans (hxy.trans hyy.quoteId))

/-- An unused quote has no withdrawal. -/
theorem quoteId_ne (h : QuoteBooks db) {q : DriverWithdrawalQuote} {quoteId : UUID}
    (hq : db.quotes.find? quoteId = some q) (hc : q.consumedAt = none) {i : UUID}
    {x : DriverWithdrawal} (hx : db.withdrawals.find? i = some x) : x.quoteId ≠ quoteId := by
  intro hxq
  obtain ⟨q', hq', hc', -⟩ := h.quoted _ _ hx
  rw [hxq, hq] at hq'
  obtain rfl := Option.some.inj hq'
  rw [hc] at hc'; cases hc'

/-- A withdrawal is reserved from an unused quote. -/
theorem reserve (h : QuoteBooks db) {q : DriverWithdrawalQuote} (now : DateTime)
    (hid : db.withdrawals.find? w.id = none) (hq : db.quotes.find? w.quoteId = some q)
    (hc : q.consumedAt = none) (ho : w.OfQuote q) :
    QuoteBooks ((db.insertWithdrawal w).consumeQuote w.quoteId now) := by
  have hfresh : ∀ i x, db.withdrawals.find? i = some x → x.quoteId ≠ w.quoteId :=
    fun i x hx => h.quoteId_ne hq hc hx
  set db1 := (db.insertWithdrawal w).consumeQuote w.quoteId now with hdb1
  have hwith : ∀ i, db1.withdrawals.find? i =
      if i = w.id then some w else db.withdrawals.find? i := find?_insertWithdrawal hid
  have hquote : ∀ i, db1.quotes.find? i =
      if i = w.quoteId then some { q with consumedAt := some now } else db.quotes.find? i := by
    intro i
    change (db.consumeQuote w.quoteId now).quotes.find? i = _
    unfold PaymentDb.consumeQuote
    rw [Table.find?_update]
    split_ifs with hi
    · subst hi; rw [hq]; rfl
    · rfl
  have hcase : ∀ i x, db1.withdrawals.find? i = some x →
      (i = w.id ∧ x = w) ∨ (i ≠ w.id ∧ db.withdrawals.find? i = some x) :=
    fun i x hx => find?_cases (hwith i) hx
  constructor
  · intro i x hx
    rcases hcase i x hx with ⟨-, rfl⟩ | ⟨hi, hx⟩
    · exact ⟨{ q with consumedAt := some now }, by rw [hquote, if_pos rfl], rfl,
        ⟨ho.quoteId, ho.driverId, ho.amount, ho.fees, ho.netAmount, ho.currency⟩⟩
    · obtain ⟨q', hq', hc', ho'⟩ := h.quoted _ _ hx
      exact ⟨q', by rw [hquote, if_neg (hfresh _ _ hx)]; exact hq', hc', ho'⟩
  · intro i q' hi hc'
    rw [hquote] at hi
    split_ifs at hi with hiq
    · exact ⟨w.id, w, by rw [hwith, if_pos rfl], hiq.symm⟩
    · obtain ⟨j, x, hx, hxq⟩ := h.consumed _ _ hi hc'
      refine ⟨j, x, ?_, hxq⟩
      rw [hwith, if_neg, hx]
      intro hj
      rw [hj, hid] at hx; cases hx
  · intro i j x y hx hy hxy
    rcases hcase i x hx with ⟨hi, hxw⟩ | ⟨hi, hx⟩ <;>
      rcases hcase j y hy with ⟨hj, hyw⟩ | ⟨hj, hy⟩
    · exact hi.trans hj.symm
    · exact absurd (hxw ▸ hxy.symm) (hfresh _ _ hy)
    · exact absurd (hyw ▸ hxy) (hfresh _ _ hx)
    · exact h.oncePerQuote _ _ _ _ hx hy hxy

end QuoteBooks

end DiddiGo.Payments
