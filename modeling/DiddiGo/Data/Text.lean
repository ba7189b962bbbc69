import Mathlib.Data.Rat.Init

/-!
# Texts and numbers

Python's `str.strip`, and its `str.lower`, `int(text)` and `Decimal(text)` on ASCII text, as recursions on
the list of characters.
-/

namespace DiddiGo.Data

/-- `c.isspace()`. -/
def isSpace (c : Char) : Bool :=
  let n := c.toNat
  (9 ≤ n && n ≤ 13) || (28 ≤ n && n ≤ 32) || (0x2000 ≤ n && n ≤ 0x200A) ||
    [0x85, 0xA0, 0x1680, 0x2028, 0x2029, 0x202F, 0x205F, 0x3000].contains n

/-- `text.strip()`. -/
def strip (text : String) : String :=
  String.ofList ((text.toList.dropWhile isSpace).reverse.dropWhile isSpace).reverse

/-- `text.lower()` for ASCII letters. Whether the result is a given ASCII text without `k` does not depend on
other letters: none but the Kelvin sign becomes ASCII text. -/
def lower (text : String) : String := String.ofList (text.toList.map Char.toLower)

/-- Decimal digits, continuing the number `n`; a single underscore may stand between two digits. -/
def digits (n : Nat) : List Char → Option Nat
  | [] => some n
  | '_' :: c :: cs => if c.isDigit then digits (10 * n + (c.toNat - '0'.toNat)) cs else none
  | c :: cs => if c.isDigit then digits (10 * n + (c.toNat - '0'.toNat)) cs else none

/-- One or more decimal digits. -/
def natOfChars : List Char → Option Nat
  | c :: cs => if c.isDigit then digits 0 (c :: cs) else none
  | [] => none

/-- An optional sign in front of what `f` reads. -/
def signed {α : Type} [Neg α] (f : List Char → Option α) : List Char → Option α
  | '-' :: cs => (f cs).map (-·)
  | '+' :: cs => f cs
  | cs => f cs

/-- `int(text)`; `none` is a `ValueError`. -/
def intOfString (text : String) : Option Int :=
  signed (fun cs => (natOfChars cs).map Int.ofNat) (strip text).toList

/-- `Decimal(text)` without an exponent; `none` is an `InvalidOperation`. -/
def decimalOfString (text : String) : Option ℚ :=
  signed (fun cs =>
    let whole := cs.takeWhile (· ≠ '.')
    match cs.dropWhile (· ≠ '.') with
    | [] => (natOfChars whole).map fun n => (n : ℚ)
    | _ :: frac => do
      let n ← natOfChars whole
      let f ← natOfChars frac
      return (n : ℚ) + (f : ℚ) / (10 : ℚ) ^ frac.length) (strip text).toList

end DiddiGo.Data
