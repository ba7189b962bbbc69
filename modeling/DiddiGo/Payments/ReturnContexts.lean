import DiddiGo.Basic
import DiddiGo.Data.Text

/-!
# Return contexts

`PaymentReturnContextStore` keeps in Redis, for a short time and under a secret token, where a browser returns
to after a payment. A value is read back as it was written, so a key holds the JSON value and not its text.

The calls for one token run at once; each move is one command to Redis, or time passes.
-/

namespace DiddiGo.Payments

open Data (Json)

/-- `payload[k] = v`. -/
def putMember : Json → String → Json → Json
  | .objCons k v rest, k', v' => if k = k' then .objCons k v' rest else .objCons k v (putMember rest k' v')
  | .objNil, k', v' => .objCons k' v' .objNil
  | j, _, _ => j

/-- `UUID(value)`; `none` is an exception. -/
def uuidOfJson : Json → Option UUID
  | .str text => UUID.ofString text
  | _ => none

/-- What a return is about. -/
structure PaymentReturnContext where
  flow : String
  surface : String
  userId : UUID
  resourceId : UUID
  paymentIntentId : UUID
  deriving DecidableEq, Repr

/-- The arguments of `create` and `bind_payment_intent` for one token. -/
structure ReturnFlow where
  token : String
  ttlSeconds : Nat
  flow : String
  surface : String
  userId : UUID
  resourceId : UUID
  paymentIntentId : UUID
  deriving DecidableEq, Repr

namespace ReturnFlow

/-- `_key`. -/
def key (f : ReturnFlow) : String := "diddigo:payment-return:" ++ f.token

/-- The value that `create` stores. -/
def payload (f : ReturnFlow) : Json :=
  .ofMembers [("flow", .str f.flow), ("surface", .str f.surface), ("user_id", .str (UUID.str f.userId)),
    ("resource_id", .str (UUID.str f.resourceId)), ("payment_intent_id", .null)]

/-- The value that `bind_payment_intent` makes of what it has read. -/
def bound (f : ReturnFlow) (payload : Json) : Json :=
  putMember payload "payment_intent_id" (.str (UUID.str f.paymentIntentId))

/-- The context that was created and bound. -/
def context (f : ReturnFlow) : PaymentReturnContext :=
  ⟨f.flow, f.surface, f.userId, f.resourceId, f.paymentIntentId⟩

end ReturnFlow

/-- What `consume` makes of the value that it has taken. -/
def readContext (payload : Json) (expectedSurface : String) : Option PaymentReturnContext :=
  if payload.get "surface" ≠ .str expectedSurface ∨ (payload.get "payment_intent_id").truthy = false then none
  else do
    let userId ← uuidOfJson (payload.get "user_id")
    let resourceId ← uuidOfJson (payload.get "resource_id")
    let paymentIntentId ← uuidOfJson (payload.get "payment_intent_id")
    return ⟨(payload.get "flow").toStr, expectedSurface, userId, resourceId, paymentIntentId⟩

/-! ## Moves -/

/-- Where `bind_payment_intent` is. -/
inductive Binding
  | idle
  /-- It has read the value and asks for its time to live next. -/
  | read (payload : Json)
  /-- It writes the value next. -/
  | timed (payload : Json) (ttl : Int)
  | done

/-- Redis, the time, `create` and `bind_payment_intent` for the token, and what the calls of `consume` have
returned, with their surfaces. -/
structure ReturnState where
  /-- The values, and the instants from which they are gone. -/
  redis : String → Option (Json × DateTime)
  now : DateTime
  created : Bool
  binding : Binding
  results : List (String × Option PaymentReturnContext)

/-- What happens next. -/
inductive ReturnMove
  | create
  /-- `bind_payment_intent` sends its next command. -/
  | bind
  | consume (expectedSurface : String)
  | elapse (span : Nat)
  deriving DecidableEq, Repr

namespace ReturnState

/-- The token has just been drawn. -/
def initial (now : DateTime) : ReturnState where
  redis := fun _ => none
  now := now
  created := false
  binding := .idle
  results := []

/-- `GET key`. -/
def get (s : ReturnState) (key : String) : Option Json :=
  (s.redis key).bind fun entry => if s.now < entry.2 then some entry.1 else none

/-- `TTL key`: the seconds that are left, rounded, or -2. -/
def ttl (s : ReturnState) (key : String) : Int :=
  match (s.redis key).filter fun entry => s.now < entry.2 with
  | some entry => (entry.2 - s.now + 500000) / 1000000
  | none => -2

/-- `SET key value EX ttl`. -/
def set (s : ReturnState) (key : String) (value : Json) (ttl : Int) : ReturnState :=
  { s with redis := fun k => if k = key then some (value, s.now + seconds ttl) else s.redis k }

/-- `DEL key`. -/
def del (s : ReturnState) (key : String) : ReturnState :=
  { s with redis := fun k => if k = key then none else s.redis k }

variable (f : ReturnFlow)

/-- The next command of `bind_payment_intent`; `none` when it has ended. -/
def bindNext (s : ReturnState) : Option ReturnState :=
  match s.binding with
  | .idle =>
    match s.get f.key with
    | none => some { s with binding := .done }
    | some payload => some { s with binding := .read payload }
  | .read payload =>
    if 0 < s.ttl f.key then some { s with binding := .timed payload (s.ttl f.key) }
    else some { s with binding := .done }
  | .timed payload ttl => some { s.set f.key (f.bound payload) ttl with binding := .done }
  | .done => none

/-- `consume`: `GETDEL`, and what it makes of the value. -/
def consume (s : ReturnState) (expectedSurface : String) : ReturnState :=
  { s.del f.key with
    results := s.results ++
      [(expectedSurface, (s.get f.key).bind fun payload => readContext payload expectedSurface)] }

/-- One move; `none` when it is not possible. `create` is called once. -/
def step (s : ReturnState) : ReturnMove → Option ReturnState
  | .create =>
    if s.created then none else some { s.set f.key f.payload f.ttlSeconds with created := true }
  | .bind => s.bindNext f
  | .consume expectedSurface => some (s.consume f expectedSurface)
  | .elapse span => some { s with now := s.now + span }

/-- The state after several moves; `none` when one of them is not possible. -/
def run (s : ReturnState) : List ReturnMove → Option ReturnState
  | [] => some s
  | m :: ms => (s.step f m).bind fun s' => s'.run ms

/-- The contexts that were returned, with the surfaces that were expected. -/
def returned (s : ReturnState) : List (String × PaymentReturnContext) :=
  s.results.filterMap fun result => result.2.map fun context => (result.1, context)

/-- What holds of the calls of `consume` after the moves `ms`. -/
structure OneTime (ms : List ReturnMove) (s : ReturnState) : Prop where
  /-- At most one call returns a context. -/
  once : s.returned.length ≤ 1
  /-- It is the context that was created and bound, and the surface is the one it was created for. -/
  faithful : ∀ result ∈ s.returned, result = (f.surface, f.context)
  /-- Without `bind_payment_intent` no call returns a context. -/
  bound : .bind ∉ ms → s.returned = []

end ReturnState

end DiddiGo.Payments
