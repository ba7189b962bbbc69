import DiddiGo.Data.Text
import Mathlib.Algebra.Order.Ring.Rat

/-!
# Decimals and their texts

A finite `decimal.Decimal` is a coefficient with an exponent, so `4500.50` and `4500.5` are different texts of one
number. Negative zeros are left out, and so is the rounding of sums with more than 28 digits.
-/

namespace DiddiGo.Data

/-- `coefficient * 10 ^ exponent`. -/
structure FiniteDecimal where
  coefficient : Int
  exponent : Int
  deriving DecidableEq, Repr

namespace FiniteDecimal

/-- The number. -/
def toRat (d : FiniteDecimal) : ℚ := d.coefficient * 10 ^ d.exponent

/-- `Decimal(n)`. -/
def ofInt (n : Int) : FiniteDecimal := ⟨n, 0⟩

instance : Neg FiniteDecimal := ⟨fun d => ⟨-d.coefficient, d.exponent⟩⟩

/-- The coefficient at a smaller exponent. -/
def scaled (d : FiniteDecimal) (exponent : Int) : Int := d.coefficient * 10 ^ (d.exponent - exponent).toNat

/-- The exponent of a sum is the smaller one. -/
instance : Add FiniteDecimal := ⟨fun d e =>
  let exponent := min d.exponent e.exponent
  ⟨d.scaled exponent + e.scaled exponent, exponent⟩⟩

/-- `sum(ds, Decimal("0"))`. -/
def sum (ds : List FiniteDecimal) : FiniteDecimal := ds.foldl (· + ·) (ofInt 0)

/-! ## Texts -/

/-- A number with its sign: `"%+d" % n`. -/
def signedText (n : Int) : List Char := (if n < 0 then '-' else '+') :: Nat.toDigits 10 n.natAbs

/-- The exponent, unless it is zero. -/
def exponentText (n : Int) : List Char := if n = 0 then [] else 'E' :: signedText n

/-- The text of a coefficient of `digits` with an exponent. -/
def unsignedText (digits : List Char) (exponent : Int) : List Char :=
  let leftdigits := exponent + digits.length
  let dotplace := if exponent ≤ 0 ∧ -6 < leftdigits then leftdigits else 1
  (if dotplace ≤ 0 then '0' :: '.' :: (List.replicate (-dotplace).toNat '0' ++ digits)
    else if digits.length ≤ dotplace then digits ++ List.replicate (dotplace - digits.length).toNat '0'
    else digits.take dotplace.toNat ++ '.' :: digits.drop dotplace.toNat) ++ exponentText (leftdigits - dotplace)

/-- `str(d)`. -/
def text (d : FiniteDecimal) : String :=
  let digits := Nat.toDigits 10 d.coefficient.natAbs
  String.ofList ((if d.coefficient < 0 then ['-'] else []) ++ unsignedText digits d.exponent)

/-- The exponent behind the digits; `none` is an `InvalidOperation`. -/
def readExponent : List Char → Option Int
  | [] => some 0
  | c :: cs => if c = 'E' ∨ c = 'e' then signed (fun cs => (natOfChars cs).map Int.ofNat) cs else none

/-- The digits behind a point, and the rest. -/
def readFraction : List Char → List Char × List Char
  | '.' :: cs => (cs.takeWhile Char.isDigit, cs.dropWhile Char.isDigit)
  | cs => ([], cs)

/-- A decimal without a sign. -/
def readUnsigned (cs : List Char) : Option FiniteDecimal := do
  let intpart := cs.takeWhile Char.isDigit
  let (fracpart, rest) := readFraction (cs.dropWhile Char.isDigit)
  let coefficient ← natOfChars (intpart ++ fracpart)
  let exponent ← readExponent rest
  return ⟨coefficient, exponent - fracpart.length⟩

/-- `Decimal(text)`; `none` is an `InvalidOperation`. -/
def ofString (text : String) : Option FiniteDecimal := signed readUnsigned ((strip text).toList.filter (· ≠ '_'))

example : (⟨450050, -2⟩ : FiniteDecimal).text = "4500.50" := by decide +kernel

end FiniteDecimal

end DiddiGo.Data
