import DiddiGo.Auth.Otp
import DiddiGo.Transactions.Accumulation
import DiddiGo.Transactions.Timeliness

/-!
# Single use of login codes

Calls of `request_otp` and `verify_otp` run at once. A code is honoured if it yields tokens once, and only as long
as no later code has been issued to its phone.
-/

namespace DiddiGo.Auth

open Data (Keyed Table)
open Transactions

namespace AuthDb

/-- No code was issued to the phone of `otp` later. -/
def IsLatestIssued (db : AuthDb) (otp : OtpCode) : Prop :=
  ∀ other ∈ db.issuedTo otp.phone, other.createdAt ≤ otp.createdAt

instance (db : AuthDb) (otp : OtpCode) : Decidable (db.IsLatestIssued otp) :=
  inferInstanceAs (Decidable (∀ other ∈ db.issuedTo otp.phone, other.createdAt ≤ otp.createdAt))

/-- The latest code of the phone is not consumed: every one that is has been followed by one that is not. -/
def LatestIsOpen (db : AuthDb) (phone : String) : Prop :=
  ∀ other ∈ db.issuedTo phone, other.consumedAt.isSome = true →
    ∃ otp ∈ db.issuedTo phone, otp.consumedAt = none ∧ other.createdAt ≤ otp.createdAt

instance (db : AuthDb) (phone : String) : Decidable (db.LatestIsOpen phone) :=
  inferInstanceAs (Decidable (∀ other ∈ db.issuedTo phone, other.consumedAt.isSome = true →
    ∃ otp ∈ db.issuedTo phone, otp.consumedAt = none ∧ other.createdAt ≤ otp.createdAt))

/-- A code is stored and consumed. -/
def Spent (db : AuthDb) (otpId : UUID) : Prop := ∃ otp, db.codes.find? otpId = some otp ∧ otp.consumedAt.isSome = true

end AuthDb

/-! ## Runs -/

/-- The calls `calls` at once. -/
abbrev machine (Proc : Type) : Machine sig where
  Proc := Proc
  World := Unit
  Out := Response
  receives w _ _ := w
  answers _ _ _ _ := none

variable {Proc : Type}

/-- None of the calls has started. -/
def initial (settings : Settings) (calls : Proc → AuthCall) (db : AuthDb) : Config (machine Proc) :=
  Config.initial db () fun i => (calls i).action settings

/-- The codes that have yielded tokens, one entry for each pair. -/
def redeemed (c : Config (machine Proc)) : List UUID :=
  c.shared.log.filterMap fun
    | (_, .ok (.verified login)) => some login.otp.id
    | _ => none

/-- The login that the process publishes next. -/
def redeeming : Task (machine Proc) → Option Login
  | .running (.commit (.ret (.verified login))) _ => some login
  | _ => none

variable [DecidableEq Proc]

/-- In the run `ms` from `c₀` every code is used once and while it is the latest. -/
structure CodesHonoured (c₀ : Config (machine Proc)) (ms : List (Move (machine Proc))) : Prop where
  /-- No code yields two pairs of tokens. -/
  once : ∀ c, c₀.run ms = some c → (redeemed c).Nodup
  /-- The code of a login that is published is the latest that was issued to its phone. -/
  fresh : EveryMove (fun c m _ => ∀ login ∈ redeeming (c.task (RelyGuarantee.mover m)),
    c.shared.db.IsLatestIssued login.otp) c₀ ms

/-- The phone whose codes the call compares with. -/
def AuthCall.watched : AuthCall → Option String
  | .request _ => none
  | .verify call => (validatePhone call.phone).toOption

/-- The codes that the call watches in `db` are those in `db'`, and the latest is not consumed. -/
def AuthCall.Undisturbed (call : AuthCall) (db db' : AuthDb) : Prop :=
  ∀ phone ∈ call.watched, db.issuedTo phone = db'.issuedTo phone ∧ db'.LatestIsOpen phone

instance (call : AuthCall) (db db' : AuthDb) : Decidable (call.Undisturbed db db') :=
  inferInstanceAs (Decidable (∀ phone ∈ call.watched, db.issuedTo phone = db'.issuedTo phone ∧ db'.LatestIsOpen phone))

end DiddiGo.Auth
