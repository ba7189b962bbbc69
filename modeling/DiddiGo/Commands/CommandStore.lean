import DiddiGo.Basic
import DiddiGo.Data.JsonText
import DiddiGo.Data.Sha256
import Mathlib.Logic.Function.Basic

/-!
# The command store

`S2SCommandStore` remembers in Redis which commands of other services are running and what the finished
ones answered. A value is read back as it was written, so a key holds the JSON value and not its text.
Keys do not expire here.

Several callers use the store at once; each of their moves is one command to Redis.
-/

namespace DiddiGo.Commands

open Data (Json)

/-- What Redis holds. -/
abbrev Redis := String → Option Json

/-- The arguments of `reserve`. -/
structure S2SCommand where
  clientId : String
  idempotencyKey : String
  payload : Json
  deriving DecidableEq, Repr

/-- What `reserve` returns. -/
structure S2SCommandReservation where
  redisKey : String
  fingerprint : String
  cachedResponse : Option Json := none
  deriving DecidableEq, Repr

/-- The text that stands for a payload. -/
def fingerprint (payload : Json) : String := Data.hexdigest (Data.sha256 (Data.utf8 payload.dumps))

/-- `namespace` of a store. -/
structure S2SCommandStore where
  prefixName : String

/-- The key of a command. -/
def S2SCommandStore.redisKey (store : S2SCommandStore) (c : S2SCommand) : String :=
  "diddigo:" ++ store.prefixName ++ ":" ++ c.clientId ++ ":" ++ c.idempotencyKey

/-- The value of a command that is running. -/
def pendingValue (fp : String) : Json :=
  .ofMembers [("fingerprint", .str fp), ("state", .str "pending")]

/-- The value of a command that is done. -/
def doneValue (fp : String) (response : Json) : Json :=
  .ofMembers [("fingerprint", .str fp), ("state", .str "done"), ("response", response)]

/-- The key belongs to another command. -/
def idempotencyConflict : ApiError where
  statusCode := 409
  code := "IDEMPOTENCY_CONFLICT"
  message := "Cette cle d'idempotence designe une autre commande."

/-- The command is running. -/
def idempotencyInProgress : ApiError where
  statusCode := 409
  code := "IDEMPOTENCY_IN_PROGRESS"
  message := "Cette commande S2S est deja en cours."

/-- What `reserve` makes of the value that the key holds. -/
def readExisting (redisKey fp : String) (existing : Json) : Except ApiError S2SCommandReservation :=
  if existing.get "fingerprint" ≠ .str fp then .error idempotencyConflict
  else if existing.get "state" = .str "done" ∧ (existing.get "response").isObject then
    .ok { redisKey := redisKey, fingerprint := fp, cachedResponse := some (existing.get "response") }
  else .error idempotencyInProgress

/-- A response: a `dict`. -/
abbrev Response := { response : Json // response.isObject = true }

/-! ## Callers -/

/-- Where a caller is. -/
inductive Phase
  | idle
  /-- `reserve` sends `SET NX` next. -/
  | setting (c : S2SCommand)
  /-- `reserve` has found the key set and sends `GET` next. -/
  | getting (c : S2SCommand)
  /-- It has a fresh reservation, and will complete or release it. -/
  | holding (r : S2SCommandReservation)

/-- A call of `reserve` that has ended. -/
structure Return where
  command : S2SCommand
  result : Except ApiError S2SCommandReservation

/-- Redis, the callers, and the calls of `reserve` that have ended, oldest first. -/
structure State (Caller : Type) where
  redis : Redis
  phase : Caller → Phase
  returns : List Return

/-- What a caller does next. -/
inductive Move (Caller : Type)
  /-- It calls `reserve`. -/
  | call (i : Caller) (c : S2SCommand)
  /-- `reserve` sends its next command. -/
  | go (i : Caller)
  /-- It calls `complete`. -/
  | complete (i : Caller) (response : Response)
  /-- It calls `release`. -/
  | release (i : Caller)

variable {Caller : Type} [DecidableEq Caller]

namespace State

/-- Nobody has called yet, and no key is set. -/
def initial : State Caller where
  redis := fun _ => none
  phase := fun _ => .idle
  returns := []

/-- The caller is in another phase. -/
def enter (s : State Caller) (i : Caller) (phase : Phase) : State Caller :=
  { s with phase := Function.update s.phase i phase }

/-- A call of `reserve` ends. -/
def note (s : State Caller) (c : S2SCommand) (result : Except ApiError S2SCommandReservation) :
    State Caller :=
  { s with returns := s.returns ++ [⟨c, result⟩] }

/-- `SET key value`, or `DEL key`. -/
def put (s : State Caller) (key : String) (value : Option Json) : State Caller :=
  { s with redis := Function.update s.redis key value }

variable (store : S2SCommandStore)

/-- `SET key pending NX`. -/
def trySet (s : State Caller) (i : Caller) (c : S2SCommand) : State Caller :=
  match s.redis (store.redisKey c) with
  | none =>
    let r : S2SCommandReservation := { redisKey := store.redisKey c, fingerprint := fingerprint c.payload }
    ((s.put r.redisKey (some (pendingValue r.fingerprint))).note c (.ok r)).enter i (.holding r)
  | some _ => s.enter i (.getting c)

/-- `GET key`. -/
def tryGet (s : State Caller) (i : Caller) (c : S2SCommand) : State Caller :=
  match s.redis (store.redisKey c) with
  -- `reserve` calls itself.
  | none => s.enter i (.setting c)
  | some existing =>
    (s.note c (readExisting (store.redisKey c) (fingerprint c.payload) existing)).enter i .idle

/-- One move; `none` when it is not possible. -/
def step (s : State Caller) : Move Caller → Option (State Caller)
  | .call i c =>
    match s.phase i with
    | .idle => some (s.enter i (.setting c))
    | _ => none
  | .go i =>
    match s.phase i with
    | .setting c => some (s.trySet store i c)
    | .getting c => some (s.tryGet store i c)
    | _ => none
  | .complete i response =>
    match s.phase i with
    | .holding r => some ((s.put r.redisKey (some (doneValue r.fingerprint response))).enter i .idle)
    | _ => none
  | .release i =>
    match s.phase i with
    | .holding r => some ((s.put r.redisKey none).enter i .idle)
    | _ => none

/-- The state after several moves; `none` when one of them is not possible. -/
def run (s : State Caller) : List (Move Caller) → Option (State Caller)
  | [] => some s
  | m :: ms => (s.step store m).bind fun s' => s'.run ms

/-- The move releases the key. -/
def Releases (s : State Caller) (key : String) (m : Move Caller) : Prop :=
  ∃ i r, m = .release i ∧ s.phase i = .holding r ∧ r.redisKey = key

/-- The caller makes no move, and nobody releases the key. -/
def Undisturbed (s : State Caller) (i : Caller) (key : String) (ms : List (Move Caller)) : Prop :=
  ∀ before m later s', ms = before ++ m :: later → s.run store before = some s' →
    m ≠ .go i ∧ ¬ s'.Releases key m

/-- The laws of the store, in a state `s`. -/
structure Lawful (s : State Caller) : Prop where
  /-- At most one fresh reservation of a key is outstanding. -/
  oneFresh : ∀ i j r r', s.phase i = .holding r → s.phase j = .holding r' → r.redisKey = r'.redisKey →
    i = j
  /-- After a completion every call for the key returns the response, or refuses another payload. -/
  replays : ∀ i r response s' ms s'', s.phase i = .holding r →
    s.step store (.complete i response) = some s' → s'.run store ms = some s'' →
    ∃ new, s''.returns = s'.returns ++ new ∧ ∀ x ∈ new, store.redisKey x.command = r.redisKey →
      x.result = if fingerprint x.command.payload = r.fingerprint then
        .ok { redisKey := r.redisKey, fingerprint := r.fingerprint, cachedResponse := some response }
      else .error idempotencyConflict
  /-- A call that ends while the key holds another fingerprint is refused. -/
  refuses : ∀ i c v s', s.phase i = .setting c ∨ s.phase i = .getting c →
    s.redis (store.redisKey c) = some v → v.get "fingerprint" ≠ .str (fingerprint c.payload) →
    s.step store (.go i) = some s' →
    (s'.phase i = .getting c ∧ s'.returns = s.returns) ∨
      (s'.phase i = .idle ∧ s'.returns = s.returns ++ [⟨c, .error idempotencyConflict⟩])
  /-- After a release the key can be reserved again, until it is. -/
  reopens : ∀ i r s' ms s'', s.phase i = .holding r → s.step store (.release i) = some s' →
    s'.run store ms = some s'' →
    (∃ new, s''.returns = s'.returns ++ new ∧
      ∃ x ∈ new, store.redisKey x.command = r.redisKey ∧
        x.result = .ok { redisKey := r.redisKey, fingerprint := fingerprint x.command.payload }) ∨
    ∀ j c, s''.phase j = .setting c → store.redisKey c = r.redisKey →
      ∃ s₃, s''.step store (.go j) = some s₃ ∧
        s₃.phase j = .holding { redisKey := r.redisKey, fingerprint := fingerprint c.payload }
  /-- If nobody releases the key between the two commands of a call, the call ends. -/
  ends : ∀ i c s' ms s'', s.phase i = .setting c → s.step store (.go i) = some s' →
    s'.phase i = .getting c → s'.run store ms = some s'' → s'.Undisturbed store i (store.redisKey c) ms →
    ∃ s₃ result, s''.step store (.go i) = some s₃ ∧ s₃.phase i = .idle ∧
      s₃.returns = s''.returns ++ [⟨c, result⟩]

end State

end DiddiGo.Commands
