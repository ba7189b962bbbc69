import DiddiGo.Payments.Proofs.AccountsProofs
import DiddiGo.Payments.Calls

/-!
# Conservation over whole runs

Each wallet operation keeps the books in order and every balance equal to its entries, whatever branch it
takes; so does every run of them.
-/

namespace DiddiGo.Payments

open Data (Table)
open Transactions Prog

section Operations

variable {opening earnedBefore : UUID → Decimal}

theorem keeps_recordLedgerEntryOnce {e : DriverLedgerEntry} (now : DateTime)
    (ht : e.entryType.isWithdrawal = false) :
    Keeps (Accounts opening earnedBefore) (recordLedgerEntryOnce e now) := by
  intro ask base db hb hc
  rw [exec_recordLedgerEntryOnce]
  split_ifs with hk
  · exact ⟨hb, fun _ _ => hc.openWallet _ _⟩
  · have hk' : db.ledger.find? e.ledgerKey = none := by simpa using hk
    exact ⟨hb, fun _ _ => hc.post now hk' ht⟩

theorem keeps_recordRideSettlement (ride : Rides.Ride) (status : PaymentStatus) (now : DateTime) :
    Keeps (Accounts opening earnedBefore) (recordRideSettlement ride status now) := by
  unfold recordRideSettlement
  cases h : settlementEntry ride status now with
  | none => exact .ret ()
  | some e => exact (keeps_recordLedgerEntryOnce now (entryType_settlementEntry h)).bind fun _ => .ret ()

theorem keeps_creditTopup (t : DriverTopup) (now : DateTime) :
    Keeps (Accounts opening earnedBefore) (creditTopup t now) := by
  unfold creditTopup
  split_ifs
  · exact (keeps_recordLedgerEntryOnce now rfl).bind fun _ => .ret ()
  · exact .ret ()

theorem keeps_reserveWithdrawalFromQuote (w : DriverWithdrawal) (now : DateTime) :
    Keeps (Accounts opening earnedBefore) (reserveWithdrawalFromQuote w now) := by
  intro ask base db hb hc
  rcases exec_reserveWithdrawalFromQuote ask base db w now with
    ⟨e, cur, h⟩ | ⟨x, r, hx, h | h⟩ | ⟨q, -, -, -, htaken, -, h⟩ <;> rw [h]
  · exact ⟨hb, by simp⟩
  · exact ⟨hb, fun _ _ => hc⟩
  · exact ⟨hb, fun _ _ => hc.fillDestination _ (find?_of_withdrawalOfQuote hx).1⟩
  · refine ⟨hb, fun _ _ => ?_⟩
    have hid := find?_of_not_withdrawalTaken htaken
    exact (hc.openWallet w.driverId q.currency).reserve now rfl hid (find?_openWallet db _ _)

theorem keeps_markWithdrawalProviderState (id : UUID) (p : ProviderState) (now : DateTime) :
    Keeps (Accounts opening earnedBefore) (markWithdrawalProviderState id p now) := by
  intro ask base db hb hc
  rcases exec_markWithdrawalProviderState ask base db id p now with ⟨e, cur, h, -⟩ | ⟨w, hw, hcase⟩
  · rw [h]
    exact ⟨hb, by simp⟩
  rcases hcase with ⟨-, h⟩ | ⟨hold, -, ⟨hnew, h⟩ | ⟨hnew, h⟩ | ⟨-, hk, -⟩ | ⟨wal, hnew, hwal, h⟩⟩
  · rw [h]
    exact ⟨hb, fun _ _ => hc⟩
  · rw [h]
    exact ⟨hb, fun _ _ => hc.mark now hw hold hnew⟩
  · rw [h]
    exact ⟨hb, fun _ _ => hc.succeed now hw hold hnew⟩
  · rw [(hc.books.entry_none_of_status hw hold).1] at hk
    cases hk
  · rw [h]
    exact ⟨hb, fun _ _ => hc.release now hw hold hnew hwal⟩

/-- Every wallet operation keeps the accounts. -/
theorem keeps_walletOp (op : WalletOp) : op.request.prog.Keeps (Accounts opening earnedBefore) := by
  cases op with
  | settle ride status now => exact keeps_recordRideSettlement ride status now
  | credit topup now => exact keeps_creditTopup topup now
  | reserve w now => exact (keeps_reserveWithdrawalFromQuote w now).bind fun _ => .ret ()
  | mark id p now => exact (keeps_markWithdrawalProviderState id p now).bind fun _ => .ret ()

theorem runWalletOps_accounts (ops : List WalletOp) {db : PaymentDb}
    (h : Accounts opening earnedBefore db) : Accounts opening earnedBefore (runWalletOps ops db) := by
  refine runAll_inv (fun r hr => ?_) h
  obtain ⟨op, -, rfl⟩ := List.mem_map.mp hr
  exact keeps_walletOp op

end Operations

/-- Wallets without money and no history: the accounts agree. -/
theorem accounts_of_empty {db : PaymentDb} (hw : ∀ d, db.balance d = 0) (hl : db.ledger = .empty)
    (hwd : db.withdrawals = .empty) : Accounts 0 0 db where
  books := by
    constructor <;> simp [hl, hwd, Table.find?, Table.empty]
  balanced := by
    constructor <;> intro d <;>
      simp [hw d, PaymentDb.countedTotal, PaymentDb.earnedTotal, PaymentDb.withdrawnTotal, hl, hwd,
        Table.sum, Table.empty]

/-- A top-up of 5000, a withdrawal of 2000 from it, and its release. -/
def topupThenRelease : List WalletOp :=
  [.credit { id := 7, driverId := 1, amount := 5000, status := .succeeded, createdAt := 0 } 1,
    .reserve { id := 8, driverId := 1, quoteId := 9, amount := 0, fees := 0, netAmount := 0
               beneficiaryReference := "d", businessReference := "r", idempotencyKey := "k"
               createdAt := 2, reservedAt := 2, updatedAt := 2 } 2,
    .mark 8 ⟨.failed, none, "failed", .null, .null⟩ 3]

/-- A database with a quote of 2000 and no history. -/
def quotedDb : PaymentDb :=
  { quotes := Table.empty.insert
      { id := 9, driverId := 1, amount := 2000, fees := 0, netAmount := 2000, expiresAt := 100
        createdAt := 0 } }

example : (runWalletOps (topupThenRelease.take 2) quotedDb).balance 1 = 3000 := by decide +kernel

end DiddiGo.Payments
