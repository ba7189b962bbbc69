import DiddiGo.Data.Json

/-!
# Shared kernel

Identifiers, amounts, instants and exceptions of the backend.
-/

namespace DiddiGo

open Data (Json)

/-- Identifiers. Only their identity and their text matter. -/
abbrev UUID := Nat

/-- Amounts: exact decimals. -/
abbrev Decimal := ℚ

/-- Instants, in microseconds. -/
abbrev DateTime := Int

/-- `str(id)`. -/
def UUID.str (id : UUID) : String := Nat.repr id

/-- `UUID(text)`; `none` is a `ValueError`. -/
def UUID.ofString (text : String) : Option UUID :=
  (Data.natOfChars text.toList).filter fun n => UUID.str n = text

/-- `int(x)` of a decimal: rounds towards zero. -/
def Decimal.toInt (x : Decimal) : Int := if 0 ≤ x then ⌊x⌋ else ⌈x⌉

/-- `round(x)` and `x.quantize(Decimal("1"))`: the nearest integer, and the even one of two. -/
def Decimal.roundHalfEven (x : Decimal) : Int :=
  if x - ⌊x⌋ < 1 / 2 ∨ (x - ⌊x⌋ = 1 / 2 ∧ ⌊x⌋ % 2 = 0) then ⌊x⌋ else ⌊x⌋ + 1

/-- A time span of `n` seconds. -/
def seconds (n : Int) : Int := n * 1000000

/-- `int(span.total_seconds())`: rounds towards zero. -/
def wholeSeconds (span : Int) : Int := span.tdiv 1000000

/-- `math.ceil(n / d)`. -/
def ceilDiv (n d : Int) : Int := -(-n / d)

/-- `math.ceil(span.total_seconds())`. -/
def ceilSeconds (span : Int) : Int := ceilDiv span 1000000

/-- An error that reaches the client as an HTTP response. -/
structure ApiError where
  statusCode : Nat
  code : String
  message : String
  details : Json := .null
  deriving DecidableEq, Repr

/-- The exceptions a request can end with. -/
inductive Err
  /-- `ApiError`. -/
  | api (e : ApiError)
  /-- `LookupError(text)`, raised by the repositories. -/
  | lookup (text : String)
  /-- A unique constraint was violated. -/
  | integrity
  /-- `scalar_one()` found no row. -/
  | noResult
  /-- A conversion failed: `ValueError`, `KeyError`, `TypeError`, `InvalidOperation`. -/
  | conversion
  /-- Anything else. -/
  | other (name : String)
  deriving DecidableEq, Repr

end DiddiGo
