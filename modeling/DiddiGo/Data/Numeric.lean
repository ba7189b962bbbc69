import Mathlib.Algebra.Order.Floor.Ring
import Mathlib.Data.Rat.Floor

/-!
# Numeric columns

`NUMERIC(precision, scale)`: a value is rounded to `scale` decimals when it is stored, a half away from
zero, and does not fit if it then has more than `precision` digits.
-/

namespace DiddiGo.Data

/-- The nearest integer; a half is rounded away from zero. -/
def roundHalfUp (x : ℚ) : Int := if 0 ≤ x then ⌊x + 1 / 2⌋ else ⌈x - 1 / 2⌉

/-- The value of a column with `scale` decimals. -/
def rescale (scale : Nat) (x : ℚ) : ℚ := roundHalfUp (x * 10 ^ scale) / 10 ^ scale

/-- What a column stores; `none` is a numeric field overflow. -/
def numeric (precision scale : Nat) (x : ℚ) : Option ℚ :=
  if |rescale scale x| < 10 ^ (precision - scale) then some (rescale scale x) else none

/-- The value has at most `scale` decimals. -/
def HasDecimals (scale : Nat) (x : ℚ) : Prop := ∃ n : Int, x * 10 ^ scale = n

end DiddiGo.Data
