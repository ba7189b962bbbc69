import DiddiGo.Payments.Proofs.WriteProofs

/-!
# Methods that move money

The repository methods that write wallets, ledger and withdrawals, under any interference: where the
process may commit after them.
-/

namespace DiddiGo.Payments

open Data (Json Keyed Table)
open Transactions Prog RelyGuarantee

variable {Proc World : Type} {σ : Scenario Proc World} {opening earnedBefore : UUID → Decimal}
  {i : Proc} {P P' P'' : Point σ.machine} {s : Shared σ.machine}

/-! ## Locked rows -/

section Views

variable (hs : (protocol σ opening earnedBefore).Interferes i P s) (hl : Local P.pending)

include hs hl

theorem view_wallet {d : UUID} (hd : P.held (.wallet d)) :
    (P.pending s.db).wallets.find? d = (P.pending P.shared.db).wallets.find? d :=
  (hl.wallets _ _ _ (hs.same _ hd)).symm

theorem view_ledger {k : LedgerKey} (hk : P.held (.ledgerEntry k)) :
    (P.pending s.db).ledger.find? k = (P.pending P.shared.db).ledger.find? k :=
  (hl.ledger _ _ _ (hs.same _ hk)).symm

theorem view_withdrawal {id : UUID} (hid : P.held (.withdrawal id)) :
    (P.pending s.db).withdrawals.find? id = (P.pending P.shared.db).withdrawals.find? id :=
  (hl.withdrawals _ _ _ (hs.same _ hid)).symm

theorem view_quote {q : UUID} (hq : P.held (.quote q)) :
    (P.pending s.db).quotes.find? q = (P.pending P.shared.db).quotes.find? q :=
  (hl.quotes _ _ _ (hs.same _ hq).1).symm

end Views

/-- From `P` the process has come to `P'` inside one transaction, and has changed wallets at most. -/
structure Extends (opening earnedBefore : UUID → Decimal) (i : Proc) (P P' : Point σ.machine) :
    Prop where
  tx : Tx opening earnedBefore i P'
  held : ∀ r, P.held r → P'.held r
  interferes : (protocol σ opening earnedBefore).Interferes i P P'.shared
  ledger : ∀ db, (P'.pending db).ledger = (P.pending db).ledger
  withdrawals : ∀ db, (P'.pending db).withdrawals = (P.pending db).withdrawals
  quotes : ∀ db, (P'.pending db).quotes = (P.pending db).quotes

theorem Extends.trans (h : Extends opening earnedBefore i P P')
    (h' : Extends opening earnedBefore i P' P'') : Extends opening earnedBefore i P P'' where
  tx := h'.tx
  held r hr := h'.held r (h.held r hr)
  interferes := Interferes.weaken h'.interferes h.held h.interferes
  ledger db := (h'.ledger db).trans (h.ledger db)
  withdrawals db := (h'.withdrawals db).trans (h.withdrawals db)
  quotes db := (h'.quotes db).trans (h.quotes db)

theorem Extends.reaches (h : Extends opening earnedBefore i P P') :
    Reaches opening earnedBefore i P P' := ⟨h.tx, records_of_interferes h.interferes⟩

theorem Tx.extends (h : Tx opening earnedBefore i P)
    (hs : (protocol σ opening earnedBefore).Interferes i P s) :
    Extends opening earnedBefore i P (P.withShared s) :=
  ⟨h.withShared hs, fun _ hr => hr, hs, fun _ => rfl, fun _ => rfl, fun _ => rfl⟩

/-! ## Wallets -/

theorem wpOk_openWallet (hP : Tx opening earnedBefore i P) (d : UUID) (currency : String) :
    (protocol σ opening earnedBefore).wpOk i
      (Prog.insertOnce (S := sig) (.wallet d) (fun db : PaymentDb => (db.wallets.find? d).isSome)
        fun db : PaymentDb => db.openWallet d currency)
      (fun _ => Extends opening earnedBefore i P) P := by
  refine wpOk_insertOnce (fun s hs _ => hP.extends hs) fun s hs _ => ?_
  refine ⟨?_, fun _ hr => Or.inr hr, hs, fun _ => rfl, fun _ => rfl, fun _ => rfl⟩
  refine hP.write hs (fun _ hr => Or.inr hr) rfl (local_openWallet d currency)
    (.of_withdrawals fun _ => rfl) fun s' _ hinv => ?_
  exact ⟨writes_openWallet d currency (Or.inl rfl), hinv.store_of_old (hinv.books.congr rfl rfl)
    (hinv.quoteBooks.congr rfl rfl) (fun hf => (hinv.balanced hf).openWallet d currency)
    (fun _ w hw => ⟨w, hw, .refl w⟩) fun _ w hw => ⟨w, hw, .refl w, Or.inl⟩⟩

theorem wpOk_getOrCreateWallet (hP : Tx opening earnedBefore i P) (d : UUID) (currency : String) :
    (protocol σ opening earnedBefore).wpOk i (getOrCreateWallet d currency)
      (fun _ => Extends opening earnedBefore i P) P := by
  refine wpOk_bind (Q := fun _ => Extends opening earnedBefore i P)
    (wpOk_select fun s hs => hP.extends hs) fun o P1 h1 => ?_
  cases o with
  | some w => exact wpOk_ret h1
  | none =>
    refine wpOk_bind (wpOk_openWallet h1.tx d currency) fun b P2 h2 => ?_
    refine wpOk_bind (Q := fun _ => Extends opening earnedBefore i P2)
      (wpOk_select fun s hs => h2.tx.extends hs) fun o P3 h3 => ?_
    cases o with
    | some w => exact wpOk_ret ((h1.trans h2).trans h3)
    | none => exact wpOk_raise

/-- The wallet is locked and has been seen as `w`. -/
structure WalletLocked (d : UUID) (w : DriverWallet) (P : Point σ.machine) : Prop where
  held : P.held (.wallet d)
  view : (P.pending P.shared.db).wallets.find? d = some w

theorem wpOk_selectWallet (hP : Tx opening earnedBefore i P) (d : UUID) :
    (protocol σ opening earnedBefore).wpOk i
      (Prog.selectForUpdate (S := sig) (.wallet d) fun db : PaymentDb => db.wallets.find? d)
      (fun o P' => Extends opening earnedBefore i P P' ∧ ∀ w, o = some w → WalletLocked d w P')
      P := by
  refine wpOk_selectForUpdate fun s hs => ?_
  exact ⟨⟨hP.hold hs (fun _ hr => Or.inr hr) rfl, fun _ hr => Or.inr hr, hs, fun _ => rfl,
    fun _ => rfl, fun _ => rfl⟩, fun w hw => ⟨Or.inl ⟨by rw [hw]; rfl, rfl⟩, hw⟩⟩

theorem wpOk_lockWallet (hP : Tx opening earnedBefore i P) (d : UUID) (currency : String) :
    (protocol σ opening earnedBefore).wpOk i (lockWallet d currency)
      (fun w P' => Extends opening earnedBefore i P P' ∧ WalletLocked d w P') P := by
  refine wpOk_bind (wpOk_selectWallet hP d) fun o P1 ⟨h1, hl1⟩ => ?_
  cases o with
  | some w => exact wpOk_ret ⟨h1, hl1 w rfl⟩
  | none =>
    refine wpOk_bind (wpOk_getOrCreateWallet h1.tx d currency) fun _ P2 h2 => ?_
    refine wpOk_bind (wpOk_selectWallet h2.tx d) fun o P3 ⟨h3, hl3⟩ => ?_
    cases o with
    | none => exact wpOk_raise
    | some w => exact wpOk_ret ⟨(h1.trans h2).trans h3, hl3 w rfl⟩

/-- A wallet that the transaction sees does not disappear. -/
theorem Tx.wallet_isSome (hP : Tx opening earnedBefore i P) {d : UUID}
    (hs : (protocol σ opening earnedBefore).Interferes i P s)
    (hd : ((P.pending P.shared.db).wallets.find? d).isSome) :
    ((P.pending s.db).wallets.find? d).isSome := by
  have hready := (hP.ready s hs).guar.wallets d
  cases h : P.shared.db.wallets.find? d with
  | some w => exact hready (hs.rely.wallets d (by rw [h]; rfl))
  | none =>
    cases h' : s.db.wallets.find? d with
    | some w => exact hready (by rw [h']; rfl)
    | none => rw [hP.isLocal.wallets s.db P.shared.db d (by rw [h, h'])]; exact hd

/-! ## Ledger -/

/-- After a point where it may commit the process has changed money by `g` and locked the key `k`, which
was free. -/
structure Entered (opening earnedBefore : UUID → Decimal) (i : Proc) (k : LedgerKey)
    (g : PaymentDb → PaymentDb) (P P' : Point σ.machine) : Prop where
  held : ∀ r, P.held r → P'.held r
  locked : P'.held (.ledgerEntry k)
  interferes : (protocol σ opening earnedBefore).Interferes i P P'.shared
  pending : P'.pending = g ∘ P.pending
  free : (P.pending P'.shared.db).ledger.find? k = none

section Entered

variable {k : LedgerKey} {g : PaymentDb → PaymentDb}

theorem Entered.withShared (h : Entered opening earnedBefore i k g P P')
    (hP : Tx opening earnedBefore i P)
    (hs : (protocol σ opening earnedBefore).Interferes i P' s) :
    Entered opening earnedBefore i k g P (P'.withShared s) where
  held := h.held
  locked := h.locked
  interferes := Interferes.weaken hs h.held h.interferes
  pending := h.pending
  free := by
    have hsame : P'.shared.db.ledger.find? k = s.db.ledger.find? k := hs.same _ h.locked
    exact (hP.isLocal.ledger _ _ k hsame).symm.trans h.free

end Entered

/-- The first statements of `record_ledger_entry_once` after the wallet is there. -/
theorem wpOk_insertEntry (hP : Tx opening earnedBefore i P) (e : DriverLedgerEntry) :
    (protocol σ opening earnedBefore).wpOk i
      (Prog.insertOnce (S := sig) (.ledgerEntry e.ledgerKey)
        (fun db : PaymentDb => (db.ledger.find? e.ledgerKey).isSome)
        fun db : PaymentDb => db.insertEntry e)
      (fun b P' => if b then Entered opening earnedBefore i e.ledgerKey (·.insertEntry e) P P'
        else Reaches opening earnedBefore i P P') P := by
  refine wpOk_insertOnce (fun s hs _ => hP.interferes hs) fun s hs hfree => ?_
  exact ⟨fun _ hr => Or.inr hr, Or.inl rfl, hs, rfl, by simpa using hfree⟩

/-- The new entry and the wallet that was read afresh. -/
theorem Tx.record (hP : Tx opening earnedBefore i P) {e : DriverLedgerEntry} {read : Decimal}
    (now : DateTime) (ht : e.entryType.isWithdrawal = false) (hs : e.status = .confirmed)
    (h : Entered opening earnedBefore i e.ledgerKey
      ((fun db => db.flushWallet e.driverId read (read + e.delta) now) ∘ (·.insertEntry e)) P P')
    (hheld : P'.held (.wallet e.driverId))
    (hsome : ((P.pending P'.shared.db).wallets.find? e.driverId).isSome)
    (hread : Fresh P'.shared.trace → (P.pending P'.shared.db).balance e.driverId = read) :
    Tx opening earnedBefore i P' := by
  refine hP.write h.interferes h.held h.pending
    ((local_flushWallet _ _ _ _).comp (local_insertEntry e)) (.of_withdrawals fun _ => rfl)
    fun s hs' hinv => ?_
  have hwal : (P.pending s.db).wallets.find? e.driverId =
      (P.pending P'.shared.db).wallets.find? e.driverId :=
    (hP.isLocal.wallets _ _ _ (hs'.same _ hheld)).symm
  have hfree := (h.withShared hP hs').free
  obtain ⟨w, hw⟩ := Option.isSome_iff_exists.mp hsome
  refine ⟨(writes_insertEntry e h.locked).trans (writes_flushWallet _ _ _ _ hheld), ?_⟩
  refine hinv.store_of_old ((hinv.books.insertEntry ht).congr rfl rfl)
    (hinv.quoteBooks.congr rfl rfl) (fun hf => ?_) (fun _ x hx => ⟨x, hx, .refl x⟩)
    fun _ x hx => ⟨x, hx, .refl x, Or.inl⟩
  have hb := hread (hf.along hs'.rely.trace)
  rw [balance_of_find? _ hw] at hb
  rw [← hb]
  exact (hinv.balanced hf).record now hfree (hwal.trans hw) ht hs

/-- A new entry that does not count yet. -/
theorem Tx.insertEntry (hP : Tx opening earnedBefore i P) {e : DriverLedgerEntry}
    (ht : e.entryType.isWithdrawal = false) (hs : e.status ≠ .confirmed)
    (h : Entered opening earnedBefore i e.ledgerKey (·.insertEntry e) P P') :
    Tx opening earnedBefore i P' := by
  refine hP.write h.interferes h.held h.pending (local_insertEntry e) (.of_withdrawals fun _ => rfl)
    fun s _ hinv => ?_
  refine ⟨writes_insertEntry e h.locked, hinv.store_of_old (hinv.books.insertEntry ht)
    (hinv.quoteBooks.congr rfl rfl) (fun hf => ?_) (fun _ x hx => ⟨x, hx, .refl x⟩)
    fun _ x hx => ⟨x, hx, .refl x, Or.inl⟩⟩
  exact (hinv.balanced hf).insertEntry (fun d => by simp [DriverLedgerEntry.counted, hs])
    fun d => by simp [DriverLedgerEntry.earned, hs]

theorem safe_recordLedgerEntryOnce {e : DriverLedgerEntry} (hrec : (σ.op i).records)
    (ht : e.entryType.isWithdrawal = false) (now : DateTime) :
    Safe σ opening earnedBefore i (recordLedgerEntryOnce e now) := by
  intro P hP
  refine wpOk_bind (wpOk_getOrCreateWallet hP _ _) fun _ P1 h1 => ?_
  refine wpOk_mono (Q := fun _ => Reaches opening earnedBefore i P1) ?_
    fun _ _ h => h1.reaches.trans h
  refine wpOk_bind (wpOk_insertEntry h1.tx e) fun b P2 h2 => ?_
  cases b with
  | false => exact wpOk_ret h2
  | true =>
    change Entered _ _ _ _ _ _ _ at h2
    simp only [Bool.not_true, Bool.false_eq_true, if_false]
    refine wpOk_bind (Q := fun o P3 => Entered opening earnedBefore i e.ledgerKey (·.insertEntry e)
        P1 P3 ∧ o = (P1.pending P3.shared.db).wallets.find? e.driverId)
      (wpOk_select fun s hs => ⟨h2.withShared h1.tx hs, by rw [h2.pending]; rfl⟩)
      fun o P3 ⟨h3, ho⟩ => ?_
    cases o with
    | none => exact wpOk_raise
    | some w =>
      rw [scalarOne_some, ret_bind]
      split_ifs with hs
      · refine wpOk_bind (Q := fun _ => Reaches opening earnedBefore i P1)
          (wpOk_updateAs fun s hs' => ⟨permits_note hs'.inv fun _ _ _ => hrec, ?_⟩)
          fun _ _ h => wpOk_ret h
        have hnote : (protocol σ opening earnedBefore).Interferes i P3
            (s.note i (some (.walletUpdate e.driverId w.balance)) (P3.pending s.db)) :=
          Interferes.note hs' fun _ _ _ => hrec
        have h4 := h3.withShared h1.tx hnote
        have hsome : ((P1.pending s.db).wallets.find? e.driverId).isSome :=
          (h1.tx.withShared h3.interferes).wallet_isSome
            (Interferes.weaken hs' h3.held (Interferes.refl h3.interferes.inv))
            (Option.isSome_iff_exists.mpr ⟨w, ho.symm⟩)
        refine ⟨h1.tx.record now ht hs ⟨fun r hr => Or.inr (h3.held r hr), Or.inr h3.locked,
          h4.interferes, by rw [h3.pending]; rfl, h4.free⟩ (Or.inl (by simp)) hsome fun hf => ?_,
          records_of_interferes h4.interferes⟩
        have hview := hf i e.driverId w.balance (P3.pending s.db)
          (List.mem_append_right _ (List.mem_singleton.mpr rfl))
        rw [h3.pending] at hview
        exact hview
      · exact wpOk_ret ⟨h1.tx.insertEntry ht hs h3, records_of_interferes h3.interferes⟩

end DiddiGo.Payments
