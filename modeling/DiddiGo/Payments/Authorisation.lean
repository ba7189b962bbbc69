import DiddiGo.Payments.Interleaving
import DiddiGo.Transactions.Stages

/-!
# Authorised withdrawals

What a verification is for: the reservation that consumes it is the only one, and is made by the driver,
for the destination, with the code and in the time that the verification says.
-/

namespace DiddiGo.Payments

open Data (Keyed)
open Transactions

/-- The request passes the checks of the verification `v` for the driver. -/
structure WithdrawalRequest.Verified (r : WithdrawalRequest) (driverId : UUID)
    (v : DriverWithdrawalVerification) : Prop where
  unused : v.consumedAt = none
  driver : v.driverId = driverId
  destination : v.beneficiaryDestination = r.beneficiaryDestination
  code : v.codeHash = r.codeHash
  inTime : r.now < v.expiresAt

/-- The withdrawal `w` is one that the request may reserve under the verification `v`. -/
structure WithdrawalRequest.Authorised (r : WithdrawalRequest) (v : DriverWithdrawalVerification)
    (w : DriverWithdrawal) : Prop where
  id : w.id = r.withdrawalId
  unused : v.consumedAt = none
  driver : w.driverId = v.driverId
  destination : w.beneficiaryDestination = some v.beneficiaryDestination
  code : r.codeHash = v.codeHash
  inTime : w.reservedAt < v.expiresAt

/-- From `db` to `db'` the withdrawal `w` is made. -/
def Reserves (db db' : PaymentDb) (id : UUID) (w : DriverWithdrawal) : Prop :=
  db.withdrawals.find? id = none ∧ db'.withdrawals.find? id = some w

/-- From `db` to `db'` the request consumes its verification `v`. -/
def WithdrawalRequest.Consumes (r : WithdrawalRequest) (v : DriverWithdrawalVerification)
    (db db' : PaymentDb) : Prop :=
  db.verifications.find? r.verificationId = some v ∧
    db'.verifications.find? r.verificationId = some { v with consumedAt := some r.now }

/-- The verification is stored and consumed. -/
def Consumed (id : UUID) (db : PaymentDb) : Prop :=
  ∃ v, db.verifications.find? id = some v ∧ v.consumedAt.isSome

variable {Proc World : Type}

/-- Every process is a request to withdraw. -/
def Scenario.Withdraws (σ : Scenario Proc World) (cfg : Proc → Settings)
    (r : Proc → WithdrawalRequest) : Prop := ∀ i, σ.op i = .withdraw (cfg i) (r i)

/-! ## The discipline -/

/-- What a request may do in one step: whatever it reserves, it consumes its verification for it. -/
structure WithdrawalRequest.Authorises (r : WithdrawalRequest) (db db' : PaymentDb) : Prop where
  consumed : ∀ id, Consumed id db → Consumed id db'
  reserved : ∀ id w, Reserves db db' id w → ∃ v, r.Authorised v w ∧ r.Consumes v db db'

/-- The lock on a verification protects its row. -/
def sameVerification : Row → PaymentDb → PaymentDb → Prop
  | .verification id, db, db' => db.verifications.find? id = db'.verifications.find? id
  | _, _, _ => True

/-- The changes touch no verification and make no withdrawal. -/
structure Harmless (f : PaymentDb → PaymentDb) : Prop where
  verifications : ∀ db, (f db).verifications = db.verifications
  withdrawals : ∀ db id, db.withdrawals.find? id = none → (f db).withdrawals.find? id = none

/-- The changes touch neither verifications nor withdrawals. -/
structure Apart (f : PaymentDb → PaymentDb) : Prop where
  verifications : ∀ db, (f db).verifications = db.verifications
  withdrawals : ∀ db, (f db).withdrawals = db.withdrawals

variable {σ : Scenario Proc World}

/-- The process has no change of a verification to commit, and no new withdrawal. -/
def Idle (P : Point σ.machine) : Prop := Harmless P.pending

/-- The process has consumed the verification `v` of its request and holds it locked; the withdrawals it
has made are in `made`. -/
structure Holding (r : WithdrawalRequest) (driverId : UUID) (v : DriverWithdrawalVerification)
    (made : DriverWithdrawal → Prop) (P : Point σ.machine) : Prop where
  verified : r.Verified driverId v
  held : P.held (.verification r.verificationId)
  found : P.shared.db.verifications.find? r.verificationId = some v
  consumed : ∀ db, (P.pending db).verifications =
    db.verifications.update r.verificationId fun v => { v with consumedAt := some r.now }
  reserved : ∀ db id w, Reserves db (P.pending db) id w → made w

/-- The discipline. -/
def authorisation (σ : Scenario Proc World) (r : Proc → WithdrawalRequest) :
    RelyGuarantee σ.machine where
  inv _ := True
  rely _ _ _ := True
  guar i s s' := (r i).Authorises s.db s'.db
  same := sameVerification
  rely_refl _ _ := trivial
  rely_trans _ _ _ _ _ _ := trivial
  rely_of_guar _ _ _ _ _ _ := trivial
  same_refl k db := by cases k <;> simp [sameVerification]
  same_trans k db db' db'' h h' := by
    cases k with
    | verification id => exact Eq.trans h h'
    | _ => trivial

end DiddiGo.Payments
