import DiddiGo.Data.Json
import Mathlib.Logic.Function.Basic

/-!
# Tokens for the services that DiddiGo calls

`_service_token` of the clients of DiddiPay, DiddiFiles and DiddiFreeID, and `_service_access_token` of the client of
DiddiMap. A token is cached for its scope until half a minute before it expires, and coroutines that find none ask for a
new one under a lock. Coroutines run one at a time and change places only where they wait. Time is in milliseconds.
-/

namespace DiddiGo.Services

open Data (Json)

/-! ## The answer of DiddiFreeID -/

/-- What a bad answer raises. -/
inductive TokenError
  | keyError | typeError | valueError
  deriving DecidableEq, Repr

/-- `payload[k]`. -/
def member : Json → String → Except TokenError Json
  | .objNil, _ => .error .keyError
  | .objCons k v rest, k' => if k = k' then .ok v else member rest k'
  | _, _ => .error .typeError

/-- `isinstance(token, str)`, and it is not empty. -/
def tokenText : Json → Except TokenError String
  | .str s => if s = "" then .error .valueError else .ok s
  | _ => .error .valueError

/-- `int(value)`. -/
def intOf (value : Json) : Except TokenError Int :=
  match value.toInt? with
  | some n => .ok n
  | none =>
    match value with
    | .str _ => .error .valueError
    | _ => .error .typeError

/-- The token and its life in seconds. -/
def tokenOf (payload : Json) : Except TokenError (String × Nat) := do
  let token ← tokenText (← member payload "access_token")
  let expiresIn ← intOf ((member payload "expires_in").toOption.getD (.int 600))
  return (token, (max expiresIn 1).toNat)

/-! ## The cache -/

/-- Where a coroutine is. -/
inductive TokenPhase (S : Type)
  | idle
  /-- In front of `async with self._token_lock`. -/
  | waiting (scope : S)
  /-- Inside the lock, until the answer arrives. -/
  | asking (scope : S) (sentAt : Nat)
  deriving DecidableEq, Repr

/-- A token that was received. -/
structure TokenGrant (S : Type) where
  scope : S
  token : String
  sentAt : Nat
  /-- When DiddiFreeID issued the token. -/
  issuedAt : Nat
  receivedAt : Nat
  /-- The life of the token in seconds. -/
  expiresIn : Nat
  deriving DecidableEq, Repr

namespace TokenGrant

variable {S : Type} (g : TokenGrant S)

/-- `time.monotonic() + max(expires_in - 30, 1)`. -/
def cachedUntil : Nat := g.receivedAt + max (g.expiresIn - 30) 1 * 1000

/-- From then on the token is refused. -/
def expiry : Nat := g.issuedAt + g.expiresIn * 1000

/-- The answer took half a minute at most, and left the token a second to live. -/
def Prompt : Prop := g.receivedAt ≤ g.issuedAt + 30000 ∧ g.receivedAt + 1000 ≤ g.expiry

end TokenGrant

/-- A token that `_service_token` returned. -/
structure HandedToken (S : Type) where
  scope : S
  token : String
  time : Nat
  deriving DecidableEq, Repr

/-- A client with the coroutines that use it. -/
structure TokenClient (ρ S : Type) where
  now : Nat
  /-- `_scope_tokens`; a client with one scope has `_access_token` and `_token_expires_at`. -/
  scopeTokens : S → Option (String × Nat)
  /-- `_token_lock.locked()`. -/
  locked : Bool
  phase : ρ → TokenPhase S
  /-- The tokens that were received, the last one first. -/
  grants : List (TokenGrant S)
  handed : List (HandedToken S)

/-- The next thing that happens. -/
inductive TokenMove (ρ S : Type)
  /-- Time passes. -/
  | tick (elapsed : Nat)
  /-- `_service_token(scope)` is called. -/
  | call (r : ρ) (scope : S)
  /-- The coroutine gets the lock. -/
  | enter (r : ρ)
  /-- The answer arrives, with a token that was issued at `issuedAt` if there is one in it. -/
  | answer (r : ρ) (issuedAt : Nat) (payload : Json)
  /-- The request fails, or is refused. -/
  | fail (r : ρ)
  /-- The coroutine is cancelled. -/
  | cancel (r : ρ)

namespace TokenClient

variable {ρ S : Type} [DecidableEq ρ] [DecidableEq S]

/-- Coroutine `r` goes to the phase. -/
def goTo (c : TokenClient ρ S) (r : ρ) (phase : TokenPhase S) : TokenClient ρ S :=
  { c with phase := Function.update c.phase r phase }

/-- The token in the cache, unless it is too old. -/
def lookup (c : TokenClient ρ S) (scope : S) : Option String :=
  match c.scopeTokens scope with
  | some (token, expiresAt) => if c.now < expiresAt then some token else none
  | none => none

/-- `r` returns the token. -/
def hand (c : TokenClient ρ S) (r : ρ) (scope : S) (token : String) : TokenClient ρ S :=
  { c.goTo r .idle with handed := { scope := scope, token := token, time := c.now } :: c.handed }

/-- The token of the grant is cached. -/
def store (c : TokenClient ρ S) (g : TokenGrant S) : TokenClient ρ S :=
  { c with
    scopeTokens := Function.update c.scopeTokens g.scope (some (g.token, g.cachedUntil))
    grants := g :: c.grants }

/-- The lock is given back. -/
def unlock (c : TokenClient ρ S) : TokenClient ρ S := { c with locked := false }

/-- One move; `none` when it is not possible. -/
def step (c : TokenClient ρ S) : TokenMove ρ S → Option (TokenClient ρ S)
  | .tick elapsed => some { c with now := c.now + elapsed }
  | .call r scope =>
    match c.phase r with
    | .idle =>
      match c.lookup scope with
      | some token => some (c.hand r scope token)
      | none => some (c.goTo r (.waiting scope))
    | _ => none
  | .enter r =>
    match c.phase r with
    | .waiting scope =>
      if c.locked then none
      else
        match c.lookup scope with
        | some token => some (c.hand r scope token)
        | none => some { c.goTo r (.asking scope c.now) with locked := true }
    | _ => none
  | .answer r issuedAt payload =>
    match c.phase r with
    | .asking scope sentAt =>
      if issuedAt < sentAt ∨ c.now < issuedAt then none
      else
        match tokenOf payload with
        | .ok (token, expiresIn) =>
          let g : TokenGrant S :=
            { scope := scope, token := token, sentAt := sentAt, issuedAt := issuedAt, receivedAt := c.now
              expiresIn := expiresIn }
          some ((c.store g).unlock.hand r scope token)
        | .error _ => some (c.unlock.goTo r .idle)
    | _ => none
  | .fail r =>
    match c.phase r with
    | .asking _ _ => some (c.unlock.goTo r .idle)
    | _ => none
  | .cancel r =>
    match c.phase r with
    | .idle => none
    | .waiting _ => some (c.goTo r .idle)
    | .asking _ _ => some (c.unlock.goTo r .idle)

/-- The client after a whole schedule; `none` when one of its moves is not possible. -/
def run (c : TokenClient ρ S) : List (TokenMove ρ S) → Option (TokenClient ρ S)
  | [] => some c
  | m :: ms => (c.step m).bind fun c' => c'.run ms

/-- A client that has not asked for a token yet. -/
def initial (now : Nat) : TokenClient ρ S where
  now := now
  scopeTokens := fun _ => none
  locked := false
  phase := fun _ => .idle
  grants := []
  handed := []

/-! ## What the cache is for -/

/-- The coroutine waits for the answer of DiddiFreeID. -/
def Asking (c : TokenClient ρ S) (r : ρ) : Prop := ∃ scope sentAt, c.phase r = .asking scope sentAt

/-- One request at a time, and nobody has the lock without one. -/
structure Serial (c : TokenClient ρ S) : Prop where
  one : ∀ r r', c.Asking r → c.Asking r' → r = r'
  locked : c.locked = true ↔ ∃ r, c.Asking r

/-- Whatever was handed out had been received for its scope, and had not expired unless its answer had been slow. -/
def Backed (c : TokenClient ρ S) : Prop :=
  ∀ h ∈ c.handed, ∃ g ∈ c.grants, g.scope = h.scope ∧ g.token = h.token ∧ g.receivedAt ≤ h.time ∧
    h.time < g.cachedUntil ∧ (g.Prompt → h.time < g.expiry)

/-- Nobody asks for a token while there is one in the cache. -/
structure Sparing (c : TokenClient ρ S) : Prop where
  grants : c.grants.Pairwise fun newer older => newer.scope = older.scope → older.cachedUntil ≤ newer.sentAt
  asking : ∀ r scope sentAt, c.phase r = .asking scope sentAt → ∀ g ∈ c.grants, g.scope = scope → g.cachedUntil ≤ sentAt

end TokenClient

end DiddiGo.Services
