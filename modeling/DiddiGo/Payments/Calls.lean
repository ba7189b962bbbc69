import DiddiGo.Payments.Books
import DiddiGo.Payments.Interleaving
import DiddiGo.Payments.PaymentService
import DiddiGo.Transactions.Sequential

/-!
# Histories of the payment component

Complete requests one after the other, with any answers of the services they ask, while the ride module
writes its own table in between.
-/

namespace DiddiGo.Payments

open Data (Json Table)
open Transactions

/-- The request is about withdrawals only. -/
def Op.aboutWithdrawals : Op → Bool
  | sweepWithdrawals .. | withdraw .. | reconcileWithdrawal .. | quote .. => true
  | _ => false

/-- The request may write transactions of rides. -/
def Op.touchesTransactions : Op → Bool
  | confirmCash .. | prepare .. | webhook .. | sweep .. | reconcileTransaction .. => true
  | _ => false

/-- The request may write top-ups. -/
def Op.touchesTopups : Op → Bool
  | topup .. | webhook .. | sweep .. | reconcileTopup .. => true
  | _ => false

/-- One step of a history. -/
inductive Call
  /-- A request to the backend, with the answers it gets. -/
  | request (op : Op) (isRequest : op.isRequest) (ask : Query → Answer)
  /-- The ride module leaves `rides` behind. -/
  | rides (rides : Table Rides.Ride)

/-- A callback. -/
abbrev Call.callback (call : WebhookCall) (ask : Query → Answer) : Call := .request (.webhook call) rfl ask

/-- The step as a request of its own. -/
def Call.toRequest : Call → Request sig Unit
  | request op _ ask => ⟨op.action, ask⟩
  | rides t => ⟨Prog.update [] fun db : PaymentDb => { db with rides := t }, fun _ => .ok .null⟩

/-- The database after one step. -/
def Call.after (c : Call) (db : PaymentDb) : PaymentDb := c.toRequest.after db

/-- The database after a history. -/
def runCalls (cs : List Call) (db : PaymentDb) : PaymentDb := cs.foldl (fun db c => c.after db) db

/-- The databases that a history goes through, the first one included. -/
def statesOf : List Call → PaymentDb → List PaymentDb
  | [], db => [db]
  | c :: cs, db => db :: statesOf cs (c.after db)

/-- Every step of the history satisfies `P` at the database it finds. -/
def EveryStep (P : Call → PaymentDb → Prop) : List Call → PaymentDb → Prop
  | [], _ => True
  | c :: cs, db => P c db ∧ EveryStep P cs (c.after db)

/-- The event identifier that a callback body carries. -/
def eventIdOf (payload : Json) : String := ((payload.get "id").or (.str "")).toStr

/-- The event identifier of a callback. -/
def WebhookCall.eventId (call : WebhookCall) : Option String := call.body.map eventIdOf

/-- The step delivers a callback with the event identifier. -/
def Call.delivers (eventId : String) : Call → Prop
  | .request (.webhook _) _ ask => ∃ body, ask .callback = .ok body ∧ eventIdOf body = eventId
  | _ => False

/-!
## Runs of wallet operations

The complete operations that move a driver's money, and runs of them one after the other.
-/

/-- A complete operation on wallets. -/
inductive WalletOp
  /-- A ride's transaction reached `status`. -/
  | settle (ride : Rides.Ride) (status : PaymentStatus) (now : DateTime)
  /-- A top-up is credited. -/
  | credit (topup : DriverTopup) (now : DateTime)
  /-- A withdrawal is reserved from its quote. -/
  | reserve (w : DriverWithdrawal) (now : DateTime)
  /-- The provider state of a withdrawal is marked. -/
  | mark (id : UUID) (p : ProviderState) (now : DateTime)

/-- The program of an operation. -/
def WalletOp.action : WalletOp → Action Unit
  | settle ride status now => recordRideSettlement ride status now
  | credit topup now => creditTopup topup now
  | reserve w now => Prog.ignore (reserveWithdrawalFromQuote w now)
  | mark id p now => Prog.ignore (markWithdrawalProviderState id p now)

/-- The operation as a request; it asks no external service. -/
def WalletOp.request (op : WalletOp) : Request sig Unit where
  prog := op.action
  ask := fun _ => .ok .null

/-- The database after a run of wallet operations. -/
def runWalletOps (ops : List WalletOp) (db : PaymentDb) : PaymentDb :=
  runAll (ops.map WalletOp.request) db

/-!
## Guessing withdrawal codes

What it means that the code of a withdrawal cannot be found by trying: how many wrong codes or
destinations a history compares with one verification, and what happens to later requests.
-/

namespace WithdrawalRequest

/-- The verification that a request presents, if the request gets as far as the check of the attempts. -/
def presented (r : WithdrawalRequest) (db : PaymentDb) : Option DriverWithdrawalVerification :=
  match db.driverProfiles.find? r.driverUserId with
  | none => none
  | some profile =>
    if Data.strip r.beneficiaryReference = "" ∨ r.profilePhone = "" ∨
        (db.withdrawalOfQuote r.quoteId).isSome then none
    else (db.verifications.find? r.verificationId).filter fun v =>
      v.driverId = profile.id ∧ v.consumedAt = none ∧ r.now < v.expiresAt

/-- The code or the destination is not that of the verification. -/
def Mismatches (r : WithdrawalRequest) (v : DriverWithdrawalVerification) : Prop :=
  v.beneficiaryDestination ≠ r.beneficiaryDestination ∨ v.codeHash ≠ r.codeHash

instance (r : WithdrawalRequest) (v : DriverWithdrawalVerification) : Decidable (r.Mismatches v) := by
  unfold Mismatches
  infer_instance

end WithdrawalRequest

/-- The part of `request_withdrawal` after the verification. -/
def withdrawVerified (r : WithdrawalRequest) (driverId : UUID) : Action DriverWithdrawal := do
  let w ← lookupAsApiError (reserveWithdrawalFromQuote (requestedWithdrawal r driverId) r.now)
    reservationErrorStatus "Impossible de reserver ce retrait."
  Prog.commitNow
  sendPayout w r.later

/-- The refusal of a request. -/
def refusal (code : String) : Err :=
  .api { statusCode := verificationErrorStatus code, code := code
         message := "Verification du retrait impossible." }

/-- Whatever DiddiPay would say, the request is refused because the verification is locked. -/
def RefusedAsLocked (cfg : Settings) (r : WithdrawalRequest) (db : PaymentDb) : Prop :=
  ∀ ask, (requestWithdrawal cfg r).run ask db = (.error (refusal "WITHDRAWAL_VERIFICATION_LOCKED"), db)

/-! ## Histories -/

/-- The step is a request under the verification, and gets as far as the check of the attempts. -/
def Call.presents (id : UUID) (c : Call) (db : PaymentDb) : Bool :=
  match c with
  | .request (.withdraw _ r) _ _ => r.verificationId = id ∧ (r.presented db).isSome
  | _ => false

/-- The step has a wrong code or a wrong destination compared with the verification. -/
def Call.guessesWrong (id : UUID) (c : Call) (db : PaymentDb) : Bool :=
  match c with
  | .request (.withdraw cfg r) _ _ => r.verificationId = id ∧
    (r.presented db).any fun v => v.attemptCount < cfg.driverWithdrawalOtpMaxAttempts ∧ r.Mismatches v
  | _ => false

/-- How many wrong codes or destinations a history has compared with the verification. -/
def wrongGuesses (id : UUID) : List Call → PaymentDb → Nat
  | [], _ => 0
  | c :: cs, db => (if c.guessesWrong id db then 1 else 0) + wrongGuesses id cs (c.after db)

/-- Every request under the verification is made with the same maximum of attempts. -/
def SameMaximum (id : UUID) (maxAttempts : Nat) (cs : List Call) : Prop :=
  ∀ cfg r h ask, Call.request (.withdraw cfg r) h ask ∈ cs → r.verificationId = id →
    cfg.driverWithdrawalOtpMaxAttempts = maxAttempts

/-- At most `maxAttempts` wrong codes or destinations are ever compared with the verification, and every
request that presents it after that many is refused. -/
structure GuessesBounded (id : UUID) (maxAttempts : Nat) (cs : List Call) (db : PaymentDb) : Prop where
  bounded : wrongGuesses id cs db ≤ maxAttempts
  locked : ∀ before cfg r h ask later, cs = before ++ .request (.withdraw cfg r) h ask :: later →
    r.verificationId = id → (r.presented (runCalls before db)).isSome →
    maxAttempts ≤ wrongGuesses id before db → RefusedAsLocked cfg r (runCalls before db)

/-- No step presents the verification after `maxAttempts` wrong codes or destinations. -/
def GivesUp (id : UUID) (maxAttempts : Nat) (cs : List Call) (db : PaymentDb) : Prop :=
  ∀ before c later, cs = before ++ c :: later → maxAttempts ≤ wrongGuesses id before db →
    c.presents id (runCalls before db) = false

/-- What is left of the verifications of `start`: those that are not consumed are as they were. -/
def VerificationsKept (start db : PaymentDb) : Prop :=
  ∀ id v, db.verifications.find? id = some v → v.consumedAt = none →
    start.verifications.find? id = some v

end DiddiGo.Payments
