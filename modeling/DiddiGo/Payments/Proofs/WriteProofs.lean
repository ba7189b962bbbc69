import DiddiGo.Payments.Proofs.SafeProofs

/-!
# Single writes

For each write to a table of money: that it is local, which lock it needs, and what it leaves as it is.
-/

namespace DiddiGo.Payments

open Data (Json Keyed Table)
open Transactions Prog RelyGuarantee

variable {held : Row → Prop} {db db' db'' : PaymentDb}

theorem Writes.refl (db : PaymentDb) : Writes held db db :=
  ⟨List.prefix_rfl, fun _ h => h, fun _ w hw => ⟨w, hw, .refl w⟩, fun r _ => sameRow_refl r _⟩

theorem Writes.trans (h : Writes held db db') (h' : Writes held db' db'') : Writes held db db'' where
  ledger := h.ledger.trans h'.ledger
  wallets d hd := h'.wallets d (h.wallets d hd)
  later id w hw := by
    obtain ⟨w1, hw1, hl1⟩ := h.later id w hw
    obtain ⟨w2, hw2, hl2⟩ := h'.later id w1 hw1
    exact ⟨w2, hw2, hl1.trans hl2⟩
  frame r hr := sameRow_trans (h.frame r hr) (h'.frame r hr)

/-! ## Wallets -/

/-- A write to the wallet of one driver. -/
theorem Writes.of_wallet {d : UUID} (hd : held (.wallet d)) (hl : db'.ledger = db.ledger)
    (hw : db'.withdrawals = db.withdrawals) (hq : db'.quotes = db.quotes)
    (hsome : (db.wallets.find? d).isSome → (db'.wallets.find? d).isSome)
    (hother : ∀ d', d' ≠ d → db'.wallets.find? d' = db.wallets.find? d') : Writes held db db' where
  ledger := by simp only [hl, List.prefix_rfl]
  wallets d' h := by
    by_cases hd' : d' = d
    · subst hd'; exact hsome h
    · rw [hother d' hd']; exact h
  later id w h := ⟨w, by rw [hw]; exact h, .refl w⟩
  frame r hr := by
    cases r with
    | wallet d' => exact (hother d' fun hd' => hr (hd' ▸ hd)).symm
    | _ => simp [sameRow, hl, hw, hq, PaymentDb.destinationOf]

section OpenWallet

variable (d : UUID) (currency : String)

theorem local_openWallet : Local fun db => db.openWallet d currency where
  wallets db db' d' h := by rw [find?_openWallet_eq, find?_openWallet_eq, h]
  ledger _ _ _ h := h
  withdrawals _ _ _ h := h
  quotes _ _ _ h := h

theorem writes_openWallet (hd : held (.wallet d)) : Writes held db (db.openWallet d currency) := by
  refine .of_wallet hd rfl rfl rfl (fun _ => by simp) fun d' hne => ?_
  rw [find?_openWallet_eq, if_neg fun h => hne h.symm, Option.or_none]

end OpenWallet

section FlushWallet

variable (d : UUID) (old new : Decimal) (now : DateTime)

theorem local_flushWallet : Local fun db => db.flushWallet d old new now where
  wallets db db' d' h := by rw [find?_flushWallet, find?_flushWallet, h]
  ledger _ _ _ h := h
  withdrawals _ _ _ h := h
  quotes _ _ _ h := h

theorem writes_flushWallet (hd : held (.wallet d)) : Writes held db (db.flushWallet d old new now) := by
  refine .of_wallet hd rfl rfl rfl (fun h => ?_) fun d' hne => ?_
  · rw [find?_flushWallet, if_pos rfl, Option.isSome_map]
    exact h
  · rw [find?_flushWallet, if_neg hne]

end FlushWallet

/-! ## Ledger -/

section InsertEntry

variable (e : DriverLedgerEntry)

theorem find?_insertEntry (k : LedgerKey) : (db.insertEntry e).ledger.find? k =
    (db.ledger.find? k).or (if e.ledgerKey = k then some e else none) :=
  Table.find?_insert _ _ _

theorem local_insertEntry : Local fun db => db.insertEntry e where
  wallets _ _ _ h := h
  ledger db db' k h := by rw [find?_insertEntry, find?_insertEntry, h]
  withdrawals _ _ _ h := h
  quotes _ _ _ h := h

theorem writes_insertEntry (he : held (.ledgerEntry e.ledgerKey)) :
    Writes held db (db.insertEntry e) where
  ledger := Table.rows_prefix_insert _ _
  wallets _ h := h
  later id w h := ⟨w, h, .refl w⟩
  frame r hr := by
    cases r with
    | ledgerEntry k =>
      change db.ledger.find? k = (db.insertEntry e).ledger.find? k
      rw [find?_insertEntry, if_neg fun hk : e.ledgerKey = k => hr (hk ▸ he), Option.or_none]
    | _ => simp [sameRow, PaymentDb.destinationOf]

end InsertEntry

/-! ## Withdrawals -/

/-- A write to the row of one withdrawal that keeps its order. -/
theorem Writes.of_withdrawal {id : UUID} {w w' : DriverWithdrawal} (hid : held (.withdrawal id))
    (hl : db'.ledger = db.ledger) (hwal : db'.wallets = db.wallets) (hq : db'.quotes = db.quotes)
    (hw : db.withdrawals.find? id = some w)
    (hfind : ∀ i, db'.withdrawals.find? i = if i = id then some w' else db.withdrawals.find? i)
    (hlater : w.Later w')
    (hdest : held (.quote w.quoteId) ∨ w'.beneficiaryDestination = w.beneficiaryDestination) :
    Writes held db db' where
  ledger := by simp only [hl, List.prefix_rfl]
  wallets d h := by rw [hwal]; exact h
  later i x hx := by
    rw [hfind]
    split_ifs with hi
    · subst hi
      obtain rfl := Option.some.inj (hw.symm.trans hx)
      exact ⟨w', rfl, hlater⟩
    · exact ⟨x, hx, .refl x⟩
  frame r hr := by
    cases r with
    | withdrawal i =>
      change db.withdrawals.find? i = db'.withdrawals.find? i
      rw [hfind, if_neg fun hi : i = id => hr (hi ▸ hid)]
    | quote q =>
      refine ⟨by rw [hq], fun i => ?_⟩
      unfold PaymentDb.destinationOf
      rw [hfind]
      split_ifs with hi
      · subst hi
        rw [hw]
        by_cases hqq : w.quoteId = q
        · have hd := hdest.resolve_left fun hheld => hr (hqq ▸ hheld)
          simp [Option.filter, hlater.sameOrder.quoteId, hqq, hd]
        · simp [Option.filter, hlater.sameOrder.quoteId, hqq]
      · rfl
    | _ => simp [sameRow, hl, hwal]

section Mark

variable (id : UUID) (p : ProviderState) (now : DateTime)

theorem find?_markWithdrawal_eq (i : UUID) : (db.markWithdrawal id p now).withdrawals.find? i =
    if i = id then (db.withdrawals.find? i).map fun w => w.marked p now
    else db.withdrawals.find? i := by
  unfold PaymentDb.markWithdrawal
  rw [Table.find?_update]

theorem local_markWithdrawal : Local fun db => db.markWithdrawal id p now where
  wallets _ _ _ h := h
  ledger _ _ _ h := h
  withdrawals db db' i h := by rw [find?_markWithdrawal_eq, find?_markWithdrawal_eq, h]
  quotes _ _ _ h := h

theorem keepsOrders_markWithdrawal : KeepsOrders fun db => db.markWithdrawal id p now := by
  intro db i
  rw [find?_markWithdrawal_eq]
  split_ifs
  · rw [Option.map_map]; rfl
  · rfl

variable {id p now}

theorem later_marked {w : DriverWithdrawal} (hold : w.status.isFinal = false) :
    w.Later (w.marked p now) :=
  ⟨.marked w p now, fun _ => rfl, fun hf => by rw [hold] at hf; cases hf⟩

theorem writes_markWithdrawal {w : DriverWithdrawal} (hid : held (.withdrawal id))
    (hw : db.withdrawals.find? id = some w) (hold : w.status.isFinal = false) :
    Writes held db (db.markWithdrawal id p now) :=
  .of_withdrawal hid rfl rfl rfl hw (find?_markWithdrawal hw p now) (later_marked hold) (Or.inr rfl)

end Mark

section Reserve

variable {row : DriverWithdrawal} (old : Decimal) (now : DateTime)

theorem find?_reserve (hid : db.withdrawals.find? row.id = none) (i : UUID) :
    (db.reserve row old now).withdrawals.find? i =
      if i = row.id then some row else db.withdrawals.find? i :=
  find?_insertWithdrawal hid i

theorem find?_quotes_reserve (q : UUID) : (db.reserve row old now).quotes.find? q =
    if q = row.quoteId then (db.quotes.find? q).map fun x => { x with consumedAt := some now }
    else db.quotes.find? q := by
  change (db.consumeQuote row.quoteId now).quotes.find? q = _
  unfold PaymentDb.consumeQuote
  rw [Table.find?_update]

theorem writes_reserve (hid : db.withdrawals.find? row.id = none)
    (hw : held (.withdrawal row.id)) (hq : held (.quote row.quoteId))
    (hd : held (.wallet row.driverId))
    (hk : held (.ledgerEntry (row.entryKey .withdrawalReserved))) :
    Writes held db (db.reserve row old now) where
  ledger := (@writes_insertEntry held db (reservedEntry row now) hk).ledger
  wallets := (@writes_flushWallet held db row.driverId old (old - row.amount) now hd).wallets
  later i w h := by
    refine ⟨w, ?_, .refl w⟩
    rw [find?_reserve old now hid, if_neg, h]
    rintro rfl
    rw [hid] at h
    cases h
  frame r hr := by
    cases r with
    | wallet d =>
      exact (@writes_flushWallet held db row.driverId old (old - row.amount) now hd).frame _ hr
    | ledgerEntry k =>
      exact (@writes_insertEntry held db (reservedEntry row now) hk).frame _ hr
    | withdrawal i =>
      change db.withdrawals.find? i = _
      rw [find?_reserve old now hid, if_neg fun hi : i = row.id => hr (hi ▸ hw)]
    | quote q =>
      have hne : ¬ q = row.quoteId := fun h => hr (h ▸ hq)
      refine ⟨by rw [find?_quotes_reserve, if_neg hne], fun i => ?_⟩
      unfold PaymentDb.destinationOf
      rw [find?_reserve old now hid]
      split_ifs with hi
      · subst hi
        simp [hid, Option.filter, Ne.symm hne]
      · rfl
    | _ => trivial

/-- The wallet pays for the reservation. -/
theorem balance_reserve {wal : DriverWallet} (h : db.wallets.find? row.driverId = some wal) :
    (db.reserve row wal.balance now).balance row.driverId = wal.balance - row.amount := by
  have hb : (db.reserve row wal.balance now).balance row.driverId =
      db.balance row.driverId + if row.driverId = row.driverId then
        wal.balance - row.amount - wal.balance else 0 :=
    @balance_flushWallet ((db.insertWithdrawal row).consumeQuote row.quoteId now) row.driverId _ _
      (wal.balance - row.amount) now h
  rw [hb, if_pos rfl, balance_of_find? _ h]
  ring

end Reserve

theorem later_fillDestination {w : DriverWithdrawal} (dest : Option Json)
    (h : w.beneficiaryDestination = none) : w.Later { w with beneficiaryDestination := dest } :=
  ⟨.fillDestination w dest, fun hd => absurd hd (by simp [h]), fun _ => rfl⟩

end DiddiGo.Payments
