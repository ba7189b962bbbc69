import DiddiGo.Data.Text
import Mathlib.Data.Rat.Floor
import Mathlib.Algebra.Order.Ring.Rat

/-!
# JSON values and the conversions Python code applies to them

Arrays and objects are chains, so equality of values is decidable by structure. `get`, `truthy`, `or`,
`str`, `toInt?` and `toDecimal?` are `dict.get`, truth value testing, `or`, `str()`, `int()` and
`Decimal(str())`.
-/

namespace DiddiGo.Data

/-- A JSON value. -/
inductive Json
  | null
  | bool (b : Bool)
  | int (n : Int)
  /-- A number with a fraction or an exponent, and its text. -/
  | float (q : ℚ) (text : String)
  | str (s : String)
  | arrNil
  | arrCons (x xs : Json)
  | objNil
  | objCons (k : String) (v rest : Json)
  deriving DecidableEq, Repr, Inhabited

namespace Json

/-- The object with the given members. -/
def ofMembers : List (String × Json) → Json
  | [] => objNil
  | (k, v) :: rest => objCons k v (ofMembers rest)

/-- `j.get(k)`: the member `k`, or `null`. -/
def get : Json → String → Json
  | objCons k v rest, k' => if k = k' then v else rest.get k'
  | _, _ => null

/-- `isinstance(j, dict)`. -/
def isObject : Json → Bool
  | objNil => true
  | objCons _ _ _ => true
  | _ => false

/-- `bool(j)`. -/
def truthy : Json → Bool
  | null => false
  | bool b => b
  | int n => n ≠ 0
  | float q _ => q ≠ 0
  | str s => s ≠ ""
  | arrNil => false
  | objNil => false
  | _ => true

/-- `j or d`. -/
def or (j d : Json) : Json := if j.truthy then j else d

/-- `str(j)`; containers print as a fixed text. -/
def toStr : Json → String
  | null => "None"
  | bool true => "True"
  | bool false => "False"
  | int n => toString n
  | float _ text => text
  | str s => s
  | arrNil => "[]"
  | arrCons _ _ => "[...]"
  | objNil => "{}"
  | objCons _ _ _ => "{...}"

/-- `int(j)`; `none` is a `TypeError` or a `ValueError`. -/
def toInt? : Json → Option Int
  | bool b => some (if b then 1 else 0)
  | int n => some n
  | float q _ => some (if 0 ≤ q then ⌊q⌋ else ⌈q⌉)
  | str s => intOfString s
  | _ => none

/-- `Decimal(str(j))`; `none` is an `InvalidOperation`. -/
def toDecimal? : Json → Option ℚ
  | int n => some n
  | float q _ => some q
  | str s => decimalOfString s
  | _ => none

end Json

end DiddiGo.Data
