import DiddiGo.Basic
import DiddiGo.Data.Sha256
import DiddiGo.Data.Table
import DiddiGo.Rides.Repository
import Mathlib.Data.List.MinMax

/-!
# Login with one-time codes

`AuthService.request_otp` stores the hash of a code that it has drawn for a phone, `verify_otp` compares a code with
the latest one of the phone that is not consumed, consumes it and issues tokens.

Tokens are given by their claims; signing them is left out.
-/

namespace DiddiGo.Auth

open Data (Json Keyed Table)
open Rides (column)
open Transactions

/-! ## Phones -/

/-- The zeros of the scripts that have decimal digits. -/
def decimalZeros : List Nat :=
  [0x0030, 0x0660, 0x06F0, 0x07C0, 0x0966, 0x09E6, 0x0A66, 0x0AE6, 0x0B66, 0x0BE6, 0x0C66, 0x0CE6, 0x0D66, 0x0DE6,
   0x0E50, 0x0ED0, 0x0F20, 0x1040, 0x1090, 0x17E0, 0x1810, 0x1946, 0x19D0, 0x1A80, 0x1A90, 0x1B50, 0x1BB0, 0x1C40,
   0x1C50, 0xA620, 0xA8D0, 0xA900, 0xA9D0, 0xA9F0, 0xAA50, 0xABF0, 0xFF10, 0x104A0, 0x10D30, 0x11066, 0x110F0,
   0x11136, 0x111D0, 0x112F0, 0x11450, 0x114D0, 0x11650, 0x116C0, 0x11730, 0x118E0, 0x11950, 0x11C50, 0x11D50,
   0x11DA0, 0x16A60, 0x16AC0, 0x16B50, 0x1D7CE, 0x1D7D8, 0x1D7E2, 0x1D7EC, 0x1D7F6, 0x1E140, 0x1E2F0, 0x1E950,
   0x1FBF0]

/-- `\d`. -/
def isDecimal (c : Char) : Bool := decimalZeros.any fun first => first ≤ c.toNat && c.toNat < first + 10

/-- `^\+[1-9]\d{7,14}$`. -/
def isE164 : List Char → Bool
  | '+' :: c :: cs => ('1' ≤ c && c ≤ '9') && (7 ≤ cs.length && cs.length ≤ 14) && cs.all isDecimal
  | _ => false

/-- `_validate_phone`. -/
def validatePhone (phone : String) : Except ApiError String :=
  let normalised := phone.toList.filter fun c => !Data.isSpace c
  if isE164 normalised then .ok (String.ofList normalised)
  else .error
    { statusCode := 422, code := "INVALID_PHONE_FORMAT"
      message := "Le numéro doit être au format international, ex. +2250700000000."
      details := Json.ofMembers [("field", .str "phone")] }

/-! ## Rows -/

/-- `UserRole`. -/
inductive UserRole
  | passenger
  | driver
  | admin
  deriving DecidableEq, Repr

/-- The text of a role. -/
def UserRole.value : UserRole → String
  | passenger => "passenger"
  | driver => "driver"
  | admin => "admin"

/-- `UserStatus`. -/
inductive UserStatus
  | active
  | suspended
  | pendingVerification
  deriving DecidableEq, Repr

/-- The text of a status. -/
def UserStatus.value : UserStatus → String
  | active => "active"
  | suspended => "suspended"
  | pendingVerification => "pending_verification"

/-- A row of `users`. -/
structure User where
  id : UUID
  phone : String
  fullName : Option String
  role : UserRole
  status : UserStatus
  isReviewAccount : Bool := false
  createdAt : DateTime
  updatedAt : DateTime
  deriving DecidableEq, Repr

instance : Keyed User UUID := ⟨fun user => user.id⟩

/-- A row of `otp_codes`. -/
structure OtpCode where
  id : UUID
  phone : String
  codeHash : String
  expiresAt : DateTime
  createdAt : DateTime
  consumedAt : Option DateTime := none
  deriving DecidableEq, Repr

instance : Keyed OtpCode UUID := ⟨fun otp => otp.id⟩

/-- The tables of the module. -/
structure AuthDb where
  users : Table User := .empty
  codes : Table OtpCode := .empty

/-- The rows and unique keys that a statement can lock. -/
inductive Row
  | user (id : UUID)
  /-- The unique key of `users.phone`. -/
  | phone (phone : String)
  | otp (id : UUID)
  deriving DecidableEq, Repr

/-- The module asks nobody. -/
abbrev sig : Signature where
  State := AuthDb
  Row := Row
  Label := Empty
  Query := Empty
  Answer := Empty
  Err := Err

/-- A program of the module. -/
abbrev Action := Prog sig

/-! ## Repositories -/

namespace AuthDb

/-- The codes that were issued to a phone. -/
def issuedTo (db : AuthDb) (phone : String) : List OtpCode := db.codes.rows.filter fun otp => otp.phone = phone

/-- The latest of the codes of a phone that are not consumed. -/
def latestUnconsumed (db : AuthDb) (phone : String) : Option OtpCode :=
  let _ : Preorder DateTime := Int.instLinearOrder.toPreorder
  ((db.issuedTo phone).filter fun otp => otp.consumedAt.isNone).argmax OtpCode.createdAt

/-- The user with a phone. -/
def userOf (db : AuthDb) (phone : String) : Option User := db.users.rows.find? fun user => user.phone = phone

/-- The phone or the identifier of a new user is taken. -/
def userTaken (db : AuthDb) (user : User) : Bool :=
  db.users.rows.any fun other => decide (other.id = user.id) || decide (other.phone = user.phone)

end AuthDb

/-- `otp_repo.find_latest_unconsumed`. -/
def findLatestUnconsumed (phone : String) : Action (Option OtpCode) := Prog.select fun db => db.latestUnconsumed phone

/-- `otp_repo.save`. -/
def saveOtp (otp : OtpCode) : Action Unit :=
  Prog.writeOrRaise [.otp otp.id] (fun db => (db.codes.find? otp.id).isSome)
    (fun db => { db with codes := db.codes.insert otp }) .integrity

/-- `row.consumed_at = datetime.now(UTC)`. -/
def OtpCode.consumed (now : DateTime) (otp : OtpCode) : OtpCode := { otp with consumedAt := some now }

/-- `otp_repo.mark_consumed`. -/
def markConsumed (otpId : UUID) (now : DateTime) : Action Unit := do
  match ← Prog.select fun db => db.codes.find? otpId with
  | some row =>
    if row.consumedAt.isSome then return ()
    Prog.update [.otp otpId] fun db => { db with codes := db.codes.update otpId (OtpCode.consumed now) }
  | none => return ()

/-- `user_repo.find_by_phone`. -/
def findUserByPhone (phone : String) : Action (Option User) := Prog.select fun db => db.userOf phone

/-- The row `current` after the user `new`, whose row was loaded as `loaded`, is flushed. -/
def User.flush (loaded new current : User) : User :=
  { current with
    fullName := column loaded.fullName new.fullName current.fullName
    role := column loaded.role new.role current.role
    status := column loaded.status new.status current.status
    isReviewAccount := column loaded.isReviewAccount new.isReviewAccount current.isReviewAccount
    updatedAt := new.updatedAt }

/-- `user_repo.save`. -/
def saveUser (user : User) (now : DateTime) : Action Unit := do
  match ← Prog.select fun db => db.users.find? user.id with
  | some loaded =>
    Prog.update [.user user.id] fun db =>
      { db with users := db.users.update user.id fun row => loaded.flush { user with updatedAt := now } row }
  | none =>
    Prog.writeOrRaise [.user user.id, .phone user.phone] (fun db => db.userTaken user)
      (fun db => { db with users := db.users.insert user }) .integrity

/-! ## Calls -/

/-- The settings of the module. -/
structure Settings where
  otpRateLimitSeconds : Nat := 60
  otpCodeLifetimeSeconds : Nat := 300
  jwtAccessLifetimeMinutes : Nat := 15
  jwtRefreshLifetimeDays : Nat := 30

/-- The payload of a token. -/
structure Claims where
  sub : String
  role : Option String
  typ : String
  iat : DateTime
  exp : DateTime
  deriving DecidableEq, Repr

/-- `issue_access_token`. -/
def issueAccessToken (settings : Settings) (user : User) (now : DateTime) : Claims where
  sub := UUID.str user.id
  role := some user.role.value
  typ := "access"
  iat := now
  exp := now + seconds (60 * settings.jwtAccessLifetimeMinutes)

/-- `issue_refresh_token`. -/
def issueRefreshToken (settings : Settings) (user : User) (now : DateTime) : Claims where
  sub := UUID.str user.id
  role := none
  typ := "refresh"
  iat := now
  exp := now + seconds (86400 * settings.jwtRefreshLifetimeDays)

/-- `_user_payload`. -/
def userPayload (user : User) : Json :=
  .ofMembers [("id", .str (UUID.str user.id)), ("phone", .str user.phone),
    ("full_name", match user.fullName with
      | some name => .str name
      | none => .null),
    ("role", .str user.role.value), ("status", .str user.status.value)]

/-- A call of `request_otp`, with the code, the identifier and the time that it draws. -/
structure RequestCall where
  phone : String
  /-- `randbelow(1_000_000)`. -/
  drawn : Fin 1000000
  otpId : UUID
  now : DateTime
  deriving DecidableEq, Repr

/-- A call of `verify_otp`, with the identifier and the times that it draws. -/
structure VerifyCall where
  phone : String
  code : String
  testOverrideCode : Option String := none
  now : DateTime
  consumedAt : DateTime
  userId : UUID
  savedAt : DateTime
  issuedAt : DateTime
  deriving DecidableEq, Repr

/-- What `verify_otp` returns. -/
structure Login where
  accessToken : Claims
  refreshToken : Claims
  user : Json
  /-- The code that was redeemed; the response does not show it. -/
  otp : OtpCode
  deriving DecidableEq, Repr

/-- What a call returns. -/
inductive Response
  | requested (expiresInSeconds retryAfterSeconds : Nat)
  | verified (login : Login)
  deriving DecidableEq, Repr

/-- `f"{n:06d}"`. -/
def sixDigits (n : Nat) : String := String.ofList (List.leftpad 6 '0' (Nat.repr n).toList)

/-- `sha256(code.encode()).hexdigest()`. -/
def hashCode (code : String) : String := Data.hexdigest (Data.sha256 (Data.utf8 code))

/-- The code that the call makes. -/
def RequestCall.otp (settings : Settings) (call : RequestCall) (phone : String) : OtpCode where
  id := call.otpId
  phone := phone
  codeHash := hashCode (sixDigits call.drawn)
  expiresAt := call.now + seconds settings.otpCodeLifetimeSeconds
  createdAt := call.now

/-- The latest code is too young for another one. -/
def RequestCall.isLimited (settings : Settings) (call : RequestCall) (latest : OtpCode) : Bool :=
  latest.consumedAt.isNone && decide (call.now < latest.expiresAt) &&
    decide (call.now - latest.createdAt < seconds settings.otpRateLimitSeconds)

/-- `phone = _validate_phone(phone)`. -/
def validPhone (phone : String) : Action String :=
  match validatePhone phone with
  | .ok phone => return phone
  | .error e => throw (.api e)

/-- `request_otp`. -/
def requestOtp (settings : Settings) (call : RequestCall) : Action Response := do
  let phone ← validPhone call.phone
  let latest ← findLatestUnconsumed phone
  Prog.raiseIf (latest.any (call.isLimited settings) = true)
    (.api
      { statusCode := 429, code := "OTP_RATE_LIMITED", message := "Veuillez attendre avant de redemander un OTP."
        details := Json.ofMembers [("retry_after_seconds", .int settings.otpRateLimitSeconds)] })
  saveOtp (call.otp settings phone)
  Prog.commitNow
  return .requested settings.otpCodeLifetimeSeconds settings.otpRateLimitSeconds

/-- `OTP_INVALID`. -/
def otpInvalid : Err :=
  .api { statusCode := 400, code := "OTP_INVALID", message := "Le code OTP est invalide." }

/-- `OTP_EXPIRED`. -/
def otpExpired : Err := .api { statusCode := 410, code := "OTP_EXPIRED", message := "Le code OTP a expiré." }

/-- The code of the call is that of the row. -/
def VerifyCall.matchesCode (call : VerifyCall) (otp : OtpCode) : Bool :=
  match call.testOverrideCode with
  | some code => decide (call.code = code)
  | none => decide (hashCode call.code = otp.codeHash)

/-- The user who logs in: a new one, or the one that has the phone, activated if he was not verified. -/
def activateUser (call : VerifyCall) (phone : String) : Action User := do
  match ← findUserByPhone phone with
  | none =>
    let user : User :=
      { id := call.userId, phone := phone, fullName := none, role := .passenger, status := .active
        createdAt := call.now, updatedAt := call.savedAt }
    saveUser user call.savedAt
    return user
  | some user =>
    if user.status = .pendingVerification then
      let user := { user with status := .active }
      saveUser user call.savedAt
      return user
    return user

/-- `verify_otp`. -/
def verifyOtp (settings : Settings) (call : VerifyCall) : Action Response := do
  let phone ← validPhone call.phone
  match ← findLatestUnconsumed phone with
  | none => throw otpInvalid
  | some otp =>
    Prog.raiseIf (otp.expiresAt ≤ call.now) otpExpired
    Prog.raiseIf (call.matchesCode otp = false) otpInvalid
    markConsumed otp.id call.consumedAt
    let user ← activateUser call phone
    Prog.commitNow
    return .verified
      { accessToken := issueAccessToken settings user call.issuedAt
        refreshToken := issueRefreshToken settings user call.issuedAt
        user := userPayload user
        otp := otp }

/-- A call. -/
inductive AuthCall
  | request (call : RequestCall)
  | verify (call : VerifyCall)
  deriving DecidableEq, Repr

/-- The program of a call. -/
def AuthCall.action (settings : Settings) : AuthCall → Action Response
  | request call => requestOtp settings call
  | verify call => verifyOtp settings call

end DiddiGo.Auth
