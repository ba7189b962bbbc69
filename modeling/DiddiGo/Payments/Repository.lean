import DiddiGo.Payments.Database

/-!
# The payment repository

The statements that each repository method sends, in order. Instants that a method reads from the clock
are parameters.
-/

namespace DiddiGo.Payments

open Data (Json Keyed)
open Transactions

/-- `scalar_one_or_none()`: more than one row is an error. -/
def scalarOneOrNone {α : Type} : List α → Action (Option α)
  | [] => return none
  | [x] => return some x
  | _ => throw (.other "MultipleResultsFound")

/-- The value, or the exception `e` where there is none. -/
def getOrRaise {α : Type} (x : Option α) (e : Err) : Action α :=
  match x with
  | some a => return a
  | none => throw e

/-- `scalar_one()`. -/
def scalarOne {α : Type} (x : Option α) : Action α := getOrRaise x .noResult

/-! ## Wallets and ledger -/

/-- `get_or_create_wallet`. -/
def getOrCreateWallet (driverId : UUID) (currency : String := "XOF") : Action DriverWallet := do
  match ← Prog.select fun (db : PaymentDb) => db.wallets.find? driverId with
  | some row => return row
  | none =>
    let _ ← Prog.insertOnce (.wallet driverId)
      (fun (db : PaymentDb) => (db.wallets.find? driverId).isSome)
      fun (db : PaymentDb) => db.openWallet driverId currency
    let row ← Prog.select fun (db : PaymentDb) => db.wallets.find? driverId
    scalarOne row

/-- `record_ledger_entry_once`: the wallet is read without a lock after the insert. -/
def recordLedgerEntryOnce (entry : DriverLedgerEntry) (now : DateTime) :
    Action (Option DriverLedgerEntry) := do
  let _ ← getOrCreateWallet entry.driverId entry.currency
  let inserted ← Prog.insertOnce (.ledgerEntry entry.ledgerKey)
    (fun (db : PaymentDb) => (db.ledger.find? entry.ledgerKey).isSome)
    fun (db : PaymentDb) => db.insertEntry entry
  if !inserted then
    return none
  let row ← Prog.select fun (db : PaymentDb) => db.wallets.find? entry.driverId
  let wallet ← scalarOne row
  if entry.status = .confirmed then
    Prog.updateAs (.walletUpdate entry.driverId wallet.balance) [.wallet entry.driverId]
      fun (db : PaymentDb) =>
        db.flushWallet entry.driverId wallet.balance (wallet.balance + entry.delta) now
  return some entry

/-! ## Transactions of rides -/

/-- `save` of a new transaction. -/
def saveTransaction (t : Transaction) : Action Unit :=
  Prog.writeOrRaise
    ([.transaction t.id] ++ (t.paymentIntentId.map Row.transactionIntent).toList ++
      (t.idempotencyKey.map Row.transactionKey).toList)
    (fun (db : PaymentDb) => db.transactions.rows.any fun x =>
      x.id = t.id ∨ (x.paymentIntentId = t.paymentIntentId ∧ t.paymentIntentId.isSome) ∨
        (x.idempotencyKey = t.idempotencyKey ∧ t.idempotencyKey.isSome))
    (fun (db : PaymentDb) => { db with transactions := db.transactions.insert t })
    .integrity

/-- `find_by_ride_id`. -/
def findByRideId (rideId : UUID) : Action (Option Transaction) := do
  let rows ← Prog.select fun (db : PaymentDb) =>
    db.transactions.rows.filter fun t => t.rideId = rideId
  scalarOneOrNone rows

/-- `find_by_payment_intent_id`. -/
def findByPaymentIntentId (paymentIntentId : UUID) : Action (Option Transaction) := do
  let rows ← Prog.select fun (db : PaymentDb) =>
    db.transactions.rows.filter fun t => t.paymentIntentId = some paymentIntentId
  scalarOneOrNone rows

/-- Loads a transaction, changes it by `f` and flushes it. -/
def changeTransaction (id : UUID) (f : Transaction → Transaction)
    (hf : ∀ t, Keyed.key (f t) = Keyed.key t := by exact Keyed.kept fun _ => rfl) :
    Action Transaction := do
  match ← Prog.select fun (db : PaymentDb) => db.transactions.find? id with
  | none => throw (.lookup ("No transaction with id=" ++ UUID.str id))
  | some row =>
    Prog.update [.transaction id] fun (db : PaymentDb) =>
      { db with transactions := db.transactions.update id f hf }
    return f row

/-- `update_collected`. -/
def updateCollected (id collectedBy : UUID) (amount : Decimal) (collectedAt : DateTime) :
    Action Transaction :=
  changeTransaction id fun t =>
    { t with
      collectedBy := some collectedBy
      amount := amount
      collectedAt := some collectedAt
      method := .cash
      status := .collected }

/-- `prepare_cash_payment`: replace a terminal provider attempt with a local cash collection. -/
def prepareCashPayment (id : UUID) : Action Transaction :=
  changeTransaction id fun t =>
    { t with
      method := .cash
      status := .pending
      paymentIntentId := none
      businessReference := none
      idempotencyKey := none
      providerStatus := some "local"
      providerNextAction := none
      paidAt := none }

/-- `mark_external_status`; `nextAction = none` is `KEEP`. -/
def markExternalStatus (id : UUID) (status : PaymentStatus) (providerStatus : String)
    (paidAt : Option DateTime) (nextAction : Option (Option Json) := none) : Action Transaction :=
  changeTransaction id fun t =>
    { t with
      status := status
      providerStatus := some providerStatus
      paidAt := paidAt.or t.paidAt
      collectedAt := paidAt.or t.collectedAt
      providerNextAction := nextAction.getD t.providerNextAction }

/-- `replace_external_intent`. -/
def replaceExternalIntent (id paymentIntentId : UUID) (idempotencyKey : String)
    (method : PaymentMethod) (status : PaymentStatus) (providerStatus : String)
    (nextAction : Option Json) : Action Transaction := do
  match ← Prog.select fun (db : PaymentDb) => db.transactions.find? id with
  | none => throw (.lookup ("No transaction with id=" ++ UUID.str id))
  | some row =>
    let f := fun t : Transaction =>
      { t with
        paymentIntentId := some paymentIntentId
        idempotencyKey := some idempotencyKey
        method := method
        status := status
        providerStatus := some providerStatus
        providerNextAction := nextAction
        paidAt := none
        collectedAt := none }
    Prog.writeOrRaise
      [.transaction id, .transactionIntent paymentIntentId, .transactionKey idempotencyKey]
      (fun (db : PaymentDb) => db.transactions.rows.any fun x =>
        x.id ≠ id ∧ (x.paymentIntentId = some paymentIntentId ∨
          x.idempotencyKey = some idempotencyKey))
      (fun (db : PaymentDb) => { db with transactions := db.transactions.update id f })
      .integrity
    return f row

/-- `list_stale_transactions`. -/
def listStaleTransactions (createdBefore createdAfter : DateTime) (limit : Nat) :
    Action (List Transaction) :=
  Prog.select fun (db : PaymentDb) =>
    ((db.transactions.rows.filter fun t =>
      t.paymentIntentId.isSome ∧ t.status.isPending ∧ t.createdAt ≤ createdBefore ∧
        createdAfter ≤ t.createdAt).mergeSort fun a b => a.createdAt ≤ b.createdAt).take limit

/-- `record_webhook_event`: tells whether the event is new. -/
def recordWebhookEvent (event : WebhookEvent) : Action Bool :=
  Prog.insertOnce (.webhookEvent event.id)
    (fun (db : PaymentDb) => (db.webhookEvents.find? event.id).isSome)
    fun (db : PaymentDb) => { db with webhookEvents := db.webhookEvents.insert event }

/-! ## Passenger debts -/

/-- `find_debt_by_id`. -/
def findDebtById (id : UUID) : Action (Option PassengerDebt) :=
  Prog.select fun (db : PaymentDb) => db.debts.find? id

/-- What `update_debt_status` makes of a row: the ORM writes the status only if it is not the one of the
loaded object. -/
def PassengerDebt.restated (loaded : PassengerDebt) (status : PassengerDebtStatus)
    (settlement : Option (DateTime × UUID)) (now : DateTime) (row : PassengerDebt) : PassengerDebt :=
  { row with
    status := if status = loaded.status then row.status else status
    updatedAt := some now
    settledAt := (settlement.map (·.1)).or row.settledAt
    settledBy := (settlement.map (·.2)).or row.settledBy }

/-- `update_debt_status` of a debt that the session has loaded: no second `SELECT` is sent. -/
def updateDebtStatus (debt : PassengerDebt) (status : PassengerDebtStatus)
    (settlement : Option (DateTime × UUID)) (now : DateTime) : Action PassengerDebt := do
  Prog.update [.debt debt.id] fun (db : PaymentDb) =>
    { db with debts := db.debts.update debt.id (debt.restated status settlement now) }
  return debt.restated status settlement now debt

/-! ## Top-ups -/

/-- `save_topup` of a new top-up. -/
def saveTopup (t : DriverTopup) : Action Unit :=
  Prog.writeOrRaise
    ([.topup t.id] ++ (t.paymentIntentId.map Row.topupIntent).toList ++
      (t.idempotencyKey.map Row.topupKey).toList)
    (fun (db : PaymentDb) => db.topups.rows.any fun x =>
      x.id = t.id ∨ (x.paymentIntentId = t.paymentIntentId ∧ t.paymentIntentId.isSome) ∨
        (x.idempotencyKey = t.idempotencyKey ∧ t.idempotencyKey.isSome))
    (fun (db : PaymentDb) => { db with topups := db.topups.insert t })
    .integrity

/-- `find_topup_by_id`. -/
def findTopupById (id : UUID) : Action (Option DriverTopup) :=
  Prog.select fun (db : PaymentDb) => db.topups.find? id

/-- `find_topup_by_payment_intent_id`. -/
def findTopupByPaymentIntentId (paymentIntentId : UUID) : Action (Option DriverTopup) := do
  let rows ← Prog.select fun (db : PaymentDb) =>
    db.topups.rows.filter fun t => t.paymentIntentId = some paymentIntentId
  scalarOneOrNone rows

/-- What `mark_topup_status` writes into the row. -/
def DriverTopup.marked (t : DriverTopup) (status : TopupStatus) (providerStatus : String)
    (paidAt : Option DateTime) (nextAction : Option (Option Json)) : DriverTopup :=
  { t with
    status := status
    providerStatus := some providerStatus
    paidAt := paidAt.or t.paidAt
    providerNextAction := nextAction.getD t.providerNextAction }

/-- `mark_topup_status`; `nextAction = none` is `KEEP`. -/
def markTopupStatus (id : UUID) (status : TopupStatus) (providerStatus : String)
    (paidAt : Option DateTime) (nextAction : Option (Option Json) := none) : Action DriverTopup := do
  match ← Prog.select fun (db : PaymentDb) => db.topups.find? id with
  | none => throw (.lookup ("No topup with id=" ++ UUID.str id))
  | some row =>
    Prog.update [.topup id] fun (db : PaymentDb) =>
      { db with topups := db.topups.update id fun t =>
          t.marked status providerStatus paidAt nextAction }
    return row.marked status providerStatus paidAt nextAction

/-- `list_stale_topups`. -/
def listStaleTopups (createdBefore createdAfter : DateTime) (limit : Nat) :
    Action (List DriverTopup) :=
  Prog.select fun (db : PaymentDb) =>
    ((db.topups.rows.filter fun t =>
      t.paymentIntentId.isSome ∧ t.status.isPending ∧ t.createdAt ≤ createdBefore ∧
        createdAfter ≤ t.createdAt).mergeSort fun a b => a.createdAt ≤ b.createdAt).take limit

/-! ## Withdrawals -/

/-- `save_withdrawal_quote`. -/
def saveWithdrawalQuote (q : DriverWithdrawalQuote) : Action Unit :=
  Prog.writeOrRaise [.quote q.id] (fun (db : PaymentDb) => (db.quotes.find? q.id).isSome)
    (fun (db : PaymentDb) => { db with quotes := db.quotes.insert q }) .integrity

/-- `consume_withdrawal_verification`. -/
def consumeWithdrawalVerification (verificationId driverId : UUID) (beneficiaryDestination : Json)
    (codeHash : String) (maxAttempts : Nat) (now : DateTime) :
    Action DriverWithdrawalVerification := do
  match ← Prog.selectForUpdate (.verification verificationId)
      fun (db : PaymentDb) => db.verifications.find? verificationId with
  | none => throw (.lookup "WITHDRAWAL_VERIFICATION_NOT_FOUND")
  | some row =>
    Prog.raiseIf (row.driverId ≠ driverId) (.lookup "WITHDRAWAL_VERIFICATION_NOT_FOUND")
    Prog.raiseIf (row.consumedAt ≠ none) (.lookup "WITHDRAWAL_VERIFICATION_USED")
    Prog.raiseIf (row.expiresAt ≤ now) (.lookup "WITHDRAWAL_VERIFICATION_EXPIRED")
    Prog.raiseIf (row.attemptCount ≥ maxAttempts) (.lookup "WITHDRAWAL_VERIFICATION_LOCKED")
    if row.beneficiaryDestination ≠ beneficiaryDestination ∨ row.codeHash ≠ codeHash then
      Prog.update [.verification verificationId] fun (db : PaymentDb) =>
        { db with verifications := db.verifications.update verificationId fun v =>
            { v with attemptCount := row.attemptCount + 1 } }
      Prog.raiseIf (row.attemptCount + 1 ≥ maxAttempts) (.lookup "WITHDRAWAL_VERIFICATION_LOCKED")
      throw (.lookup "WITHDRAWAL_VERIFICATION_INVALID")
    Prog.update [.verification verificationId] fun (db : PaymentDb) =>
      { db with verifications := db.verifications.update verificationId fun v =>
          { v with consumedAt := some now } }
    return { row with consumedAt := some now }

/-- The entry that `reserve_withdrawal_from_quote` writes. -/
def reservedEntry (w : DriverWithdrawal) (now : DateTime) : DriverLedgerEntry where
  driverId := w.driverId
  amount := w.amount
  currency := w.currency
  direction := .debit
  entryType := .withdrawalReserved
  status := .confirmed
  referenceType := .driverWithdrawal
  referenceId := w.id
  description := some "Montant reserve pour retrait chauffeur"
  createdAt := now

/-- The row that `reserve_withdrawal_from_quote` inserts: the money comes from the quote. -/
def reservedRow (w : DriverWithdrawal) (quote : DriverWithdrawalQuote) (now : DateTime) :
    DriverWithdrawal :=
  { w with
    amount := quote.amount
    fees := quote.fees
    netAmount := quote.netAmount
    currency := quote.currency
    status := .reserved
    payoutId := none
    providerStatus := none
    failureCode := .null
    failureMessage := .null
    createdAt := now
    reservedAt := now
    succeededAt := none
    releasedAt := none
    updatedAt := now }

/-- A unique key of the new withdrawal is visibly taken. -/
def withdrawalTaken (w : DriverWithdrawal) (db : PaymentDb) : Bool :=
  db.withdrawals.rows.any fun x =>
    x.id = w.id ∨ x.quoteId = w.quoteId ∨ x.idempotencyKey = w.idempotencyKey

/-- The wallet row of the driver, locked; it is created if there is none. -/
def lockWallet (driverId : UUID) (currency : String) : Action DriverWallet := do
  match ← Prog.selectForUpdate (.wallet driverId)
      fun (db : PaymentDb) => db.wallets.find? driverId with
  | some wallet => return wallet
  | none =>
    let _ ← getOrCreateWallet driverId currency
    let row ← Prog.selectForUpdate (.wallet driverId)
      fun (db : PaymentDb) => db.wallets.find? driverId
    scalarOne row

/-- A missing destination is filled in. -/
def PaymentDb.fillDestination (db : PaymentDb) (id : UUID) (destination : Option Json) :
    PaymentDb :=
  { db with withdrawals := db.withdrawals.update id fun x =>
      { x with beneficiaryDestination := destination } }

/-- The withdrawal of a quote that is already consumed; a missing destination is filled in. -/
def reuseWithdrawal (w : DriverWithdrawal) : Action DriverWithdrawal := do
  match ← Prog.selectAs (.quoteReused w.quoteId)
      fun (db : PaymentDb) => db.withdrawalOfQuote w.quoteId with
  | none => throw (.lookup "WITHDRAWAL_QUOTE_ALREADY_USED")
  | some row =>
    if row.beneficiaryDestination = none ∧ w.beneficiaryDestination ≠ none then
      Prog.update [.withdrawal row.id] fun (db : PaymentDb) =>
        db.fillDestination row.id w.beneficiaryDestination
      return { row with beneficiaryDestination := w.beneficiaryDestination }
    return row

/-- `reserve_withdrawal_from_quote`: the quote row is locked first, then the wallet row. -/
def reserveWithdrawalFromQuote (w : DriverWithdrawal) (now : DateTime) :
    Action DriverWithdrawal := do
  match ← Prog.selectForUpdate (.quote w.quoteId)
      fun (db : PaymentDb) => db.quotes.find? w.quoteId with
  | none => throw (.lookup "WITHDRAWAL_QUOTE_NOT_FOUND")
  | some quote =>
    Prog.raiseIf (quote.driverId ≠ w.driverId) (.lookup "WITHDRAWAL_QUOTE_NOT_FOUND")
    if quote.consumedAt ≠ none then
      return ← reuseWithdrawal w
    Prog.raiseIf (quote.expiresAt ≤ now) (.lookup "WITHDRAWAL_QUOTE_EXPIRED")
    let row := reservedRow w quote now
    let wallet ← lockWallet w.driverId quote.currency
    Prog.raiseIf (wallet.balance < row.amount) (.lookup "WITHDRAWAL_BALANCE_INSUFFICIENT")
    Prog.writeOrRaise
      [.withdrawal row.id, .withdrawalQuote row.quoteId, .withdrawalKey row.idempotencyKey]
      (withdrawalTaken row) (fun (db : PaymentDb) => db.insertWithdrawal row) .integrity
    Prog.update [.quote w.quoteId] fun (db : PaymentDb) => db.consumeQuote w.quoteId now
    Prog.update [.wallet w.driverId] fun (db : PaymentDb) =>
      db.flushWallet w.driverId wallet.balance (wallet.balance - row.amount) now
    Prog.writeOrRaise [.ledgerEntry (reservedEntry row now).ledgerKey]
      (fun (db : PaymentDb) => (db.ledger.find? (reservedEntry row now).ledgerKey).isSome)
      (fun (db : PaymentDb) => db.insertEntry (reservedEntry row now)) .integrity
    return row

/-- `find_withdrawal_by_id`. -/
def findWithdrawalById (id : UUID) : Action (Option DriverWithdrawal) :=
  Prog.select fun (db : PaymentDb) => db.withdrawals.find? id

/-- `find_withdrawal_by_quote_id`. -/
def findWithdrawalByQuoteId (quoteId : UUID) : Action (Option DriverWithdrawal) :=
  Prog.select fun (db : PaymentDb) => db.withdrawalOfQuote quoteId

/-- `find_withdrawal_by_payout_id`. -/
def findWithdrawalByPayoutId (payoutId : UUID) : Action (Option DriverWithdrawal) :=
  Prog.select fun (db : PaymentDb) => db.withdrawalOfPayout payoutId

/-- `find_withdrawal_by_business_reference`. -/
def findWithdrawalByBusinessReference (businessReference : String) :
    Action (Option DriverWithdrawal) := do
  let rows ← Prog.select fun (db : PaymentDb) =>
    db.withdrawals.rows.filter fun w => w.businessReference = businessReference
  scalarOneOrNone rows

/-- `list_stale_withdrawals`. -/
def listStaleWithdrawals (updatedBefore : DateTime) (limit : Nat) :
    Action (List DriverWithdrawal) :=
  Prog.select fun (db : PaymentDb) =>
    ((db.withdrawals.rows.filter fun w =>
      (w.status = .reserved ∨ w.status = .processing) ∧ w.updatedAt ≤ updatedBefore).mergeSort
        fun a b => a.updatedAt ≤ b.updatedAt).take limit

/-- The entry that `_insert_withdrawal_ledger_once` writes. -/
def withdrawalEntry (w : DriverWithdrawal) (entryType : WalletEntryType)
    (direction : WalletEntryDirection) (now : DateTime) : DriverLedgerEntry where
  driverId := w.driverId
  amount := w.amount
  currency := w.currency
  direction := direction
  entryType := entryType
  status := .confirmed
  referenceType := .driverWithdrawal
  referenceId := w.id
  description := some entryType.value
  createdAt := now

/-- `_insert_withdrawal_ledger_once`. -/
def insertWithdrawalLedgerOnce (w : DriverWithdrawal) (entryType : WalletEntryType)
    (direction : WalletEntryDirection) (now : DateTime) : Action Bool :=
  let entry := withdrawalEntry w entryType direction now
  Prog.insertOnce (.ledgerEntry entry.ledgerKey)
    (fun (db : PaymentDb) => (db.ledger.find? entry.ledgerKey).isSome)
    fun (db : PaymentDb) => db.insertEntry entry

/-- What a provider state says about a payout. -/
structure ProviderState where
  status : WithdrawalStatus
  payoutId : Option UUID
  providerStatus : String
  failureCode : Json
  failureMessage : Json
  deriving DecidableEq, Repr

/-- The status stored for a target: a failed payout is a released withdrawal. -/
def storedStatus : WithdrawalStatus → WithdrawalStatus
  | .failed => .released
  | s => s

/-- What `mark_withdrawal_provider_state` writes into the row. -/
def DriverWithdrawal.marked (w : DriverWithdrawal) (p : ProviderState) (now : DateTime) :
    DriverWithdrawal :=
  { w with
    payoutId := p.payoutId.or w.payoutId
    providerStatus := some p.providerStatus
    failureCode := p.failureCode
    failureMessage := p.failureMessage
    updatedAt := now
    status := storedStatus p.status
    succeededAt := if storedStatus p.status = .succeeded then some now else w.succeededAt
    releasedAt := if storedStatus p.status = .released then some now else w.releasedAt }

/-- The payout is visibly that of another withdrawal. -/
def payoutTaken (w : DriverWithdrawal) (p : ProviderState) (db : PaymentDb) : Bool :=
  db.withdrawals.rows.any fun x => x.id ≠ w.id ∧ x.payoutId = p.payoutId ∧ p.payoutId.isSome

/-- The row of the withdrawal is written. -/
def PaymentDb.markWithdrawal (db : PaymentDb) (id : UUID) (p : ProviderState) (now : DateTime) :
    PaymentDb :=
  { db with withdrawals := db.withdrawals.update id fun x => x.marked p now }

/-- `mark_withdrawal_provider_state`. -/
def markWithdrawalProviderState (withdrawalId : UUID) (p : ProviderState) (now : DateTime) :
    Action DriverWithdrawal := do
  match ← Prog.selectForUpdate (.withdrawal withdrawalId)
      fun (db : PaymentDb) => db.withdrawals.find? withdrawalId with
  | none => throw .noResult
  | some row =>
    if row.status = .succeeded ∨ row.status = .released then
      return row
    Prog.writeOrRaise
      ([.withdrawal withdrawalId] ++ (p.payoutId.map Row.withdrawalPayout).toList)
      (payoutTaken row p) (fun (db : PaymentDb) => db.markWithdrawal withdrawalId p now) .integrity
    if storedStatus p.status = .succeeded then
      let _ ← insertWithdrawalLedgerOnce row .withdrawalSucceeded .debit now
    else if storedStatus p.status = .released then
      let inserted ← insertWithdrawalLedgerOnce row .withdrawalReleased .credit now
      if inserted then
        let found ← Prog.selectForUpdate (.wallet row.driverId)
          fun (db : PaymentDb) => db.wallets.find? row.driverId
        let wallet ← scalarOne found
        Prog.update [.wallet row.driverId] fun (db : PaymentDb) =>
          db.flushWallet row.driverId wallet.balance (wallet.balance + row.amount) now
    return row.marked p now

end DiddiGo.Payments
