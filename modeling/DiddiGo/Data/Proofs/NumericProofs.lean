import DiddiGo.Basic
import DiddiGo.Data.Numeric
import Mathlib.Algebra.Order.Floor.Ring
import Mathlib.Data.Rat.Floor
import Mathlib.Tactic.FieldSimp
import Mathlib.Tactic.Linarith
import Mathlib.Tactic.Ring

/-!
# What numeric columns keep

A column stores the values that have no more decimals than itself, and changes all others.
-/

namespace DiddiGo.Data

variable {precision scale : Nat} {x y : ℚ}

theorem roundHalfUp_int (n : Int) : roundHalfUp n = n := by
  unfold roundHalfUp
  split_ifs
  · rw [Int.floor_eq_iff]
    constructor <;> linarith
  · rw [Int.ceil_eq_iff]
    constructor <;> linarith

theorem rescale_eq_iff : rescale scale x = x ↔ HasDecimals scale x := by
  have hpos : (10 : ℚ) ^ scale ≠ 0 := pow_ne_zero _ (by decide)
  unfold rescale HasDecimals
  rw [div_eq_iff hpos]
  constructor
  · intro h
    exact ⟨_, h.symm⟩
  · rintro ⟨n, hn⟩
    rw [hn, roundHalfUp_int]

theorem HasDecimals.mono {scale' : Nat} (hle : scale ≤ scale') (h : HasDecimals scale x) :
    HasDecimals scale' x := by
  obtain ⟨n, hn⟩ := h
  obtain ⟨k, rfl⟩ := Nat.exists_eq_add_of_le hle
  refine ⟨n * 10 ^ k, ?_⟩
  rw [pow_add, ← mul_assoc, hn]
  push_cast
  ring

theorem numeric_eq_some (h : numeric precision scale x = some y) : y = rescale scale x := by
  unfold numeric at h
  split_ifs at h
  exact (Option.some.inj h).symm

/-- A stored value is the original one exactly if the column has room for its decimals. -/
theorem numeric_eq_iff (h : numeric precision scale x = some y) : y = x ↔ HasDecimals scale x := by
  rw [numeric_eq_some h, rescale_eq_iff]

theorem hasDecimals_rescale (scale : Nat) (x : ℚ) : HasDecimals scale (rescale scale x) := by
  have hpos : (10 : ℚ) ^ scale ≠ 0 := pow_ne_zero _ (by decide)
  refine ⟨roundHalfUp (x * 10 ^ scale), ?_⟩
  unfold rescale
  rw [div_mul_cancel₀ _ hpos]

/-- What is stored can be stored again. -/
theorem numeric_idem (h : numeric precision scale x = some y) : numeric precision scale y = some y := by
  have hsame : rescale scale y = y := rescale_eq_iff.mpr (numeric_eq_some h ▸ hasDecimals_rescale scale x)
  unfold numeric at h ⊢
  split_ifs at h with hfits
  rw [hsame, ← Option.some.inj h, if_pos hfits]

theorem rescale_nonneg (scale : Nat) (h : 0 ≤ x) : 0 ≤ rescale scale x := by
  have hpos : (0 : ℚ) ≤ 10 ^ scale := pow_nonneg (by decide) _
  have hscaled : 0 ≤ x * 10 ^ scale := mul_nonneg h hpos
  unfold rescale roundHalfUp
  rw [if_pos hscaled]
  refine div_nonneg (Int.cast_nonneg (Int.floor_nonneg.mpr ?_)) hpos
  linarith

theorem rescale_le_one (scale : Nat) (h : 0 ≤ x) (h1 : x ≤ 1) : rescale scale x ≤ 1 := by
  have hpos : (0 : ℚ) < 10 ^ scale := pow_pos (by decide) _
  have hscaled : 0 ≤ x * 10 ^ scale := mul_nonneg h hpos.le
  have hle : x * 10 ^ scale ≤ ((10 ^ scale : Int) : ℚ) := by
    push_cast
    exact mul_le_of_le_one_left hpos.le h1
  have hfloor : ⌊x * 10 ^ scale + 1 / 2⌋ ≤ (10 ^ scale : Int) := by
    refine Int.floor_le_iff.mpr ?_
    linarith
  unfold rescale roundHalfUp
  rw [if_pos hscaled, div_le_one hpos]
  exact_mod_cast hfloor

theorem hasDecimals_of_numeric (h : numeric precision scale x = some x) : HasDecimals scale x :=
  (numeric_eq_iff h).mp rfl

end DiddiGo.Data

/-!
# Rounding to the nearest integer

A value rounds to `n` or more from `n - 1/2` on, and at a half only if `n` is even. Everything else follows.
-/

namespace DiddiGo.Decimal

variable {x y : Decimal} {n : Int}

/-- `toInt` leaves integers alone. -/
theorem toInt_intCast (n : Int) : toInt (n : Decimal) = n := by
  unfold toInt
  split_ifs
  · exact Int.floor_intCast n
  · exact Int.ceil_intCast n

theorem toInt_nonneg (h : 0 ≤ x) : 0 ≤ toInt x := by
  unfold toInt
  rw [if_pos h]
  exact Int.floor_nonneg.mpr h

theorem toInt_le (h : 0 ≤ x) : (toInt x : Decimal) ≤ x := by
  unfold toInt
  rw [if_pos h]
  exact Int.floor_le x

/-- The values that round to `n` or more. -/
theorem le_roundHalfEven_iff : n ≤ roundHalfEven x ↔ (n : Decimal) - 1 / 2 < x ∨ x = (n : Decimal) - 1 / 2 ∧ n % 2 = 0 := by
  have hle := Int.floor_le x
  have hlt := Int.lt_floor_add_one x
  unfold roundHalfEven
  split_ifs with hdown
  · constructor
    · intro hn
      have hcast : (n : Decimal) ≤ ⌊x⌋ := Int.cast_le.mpr hn
      exact Or.inl (by linarith)
    · intro hx
      by_contra hn
      have hn : ⌊x⌋ + 1 ≤ n := by omega
      have hcast : (⌊x⌋ : Decimal) + 1 ≤ n := by exact_mod_cast hn
      rcases hx with hx | ⟨hx, heven⟩
      · rcases hdown with hdown | ⟨hdown, -⟩ <;> linarith
      · rcases hdown with hdown | ⟨hdown, hfloor⟩
        · linarith
        · have hnext : n = ⌊x⌋ + 1 := by
            have hcast' : (n : Decimal) = ⌊x⌋ + 1 := by linarith
            exact_mod_cast hcast'
          omega
  · push Not at hdown
    obtain ⟨hhalf, hodd⟩ := hdown
    constructor
    · intro hn
      have hcast : (n : Decimal) ≤ ⌊x⌋ + 1 := by exact_mod_cast hn
      rcases lt_or_eq_of_le hhalf with hmore | heq
      · exact Or.inl (by linarith)
      · rcases lt_or_eq_of_le hcast with hless | hsame
        · exact Or.inl (by linarith)
        · refine Or.inr ⟨by linarith, ?_⟩
          have hn' : n = ⌊x⌋ + 1 := by exact_mod_cast hsame
          have hfloor := hodd heq.symm
          omega
    · intro hx
      have hcast : (n : Decimal) < ⌊x⌋ + 2 := by
        rcases hx with hx | ⟨hx, -⟩ <;> linarith
      have hn : n < ⌊x⌋ + 2 := by exact_mod_cast hcast
      omega

/-- Rounding is monotone. -/
theorem roundHalfEven_mono (h : x ≤ y) : roundHalfEven x ≤ roundHalfEven y := by
  have hx := le_roundHalfEven_iff.mp (le_refl (roundHalfEven x))
  refine le_roundHalfEven_iff.mpr ?_
  rcases hx with hx | ⟨hx, heven⟩
  · exact Or.inl (hx.trans_le h)
  · rcases lt_or_eq_of_le h with hlt | heq
    · exact Or.inl (hx ▸ hlt)
    · exact Or.inr ⟨heq ▸ hx, heven⟩

theorem le_roundHalfEven_of_le (h : (n : Decimal) ≤ x) : n ≤ roundHalfEven x :=
  le_roundHalfEven_iff.mpr (Or.inl (by linarith))

theorem roundHalfEven_le_of_le (h : x ≤ (n : Decimal)) : roundHalfEven x ≤ n := by
  by_contra hn
  have hn : n + 1 ≤ roundHalfEven x := by omega
  rcases le_roundHalfEven_iff.mp hn with hx | ⟨hx, -⟩ <;>
    · push_cast at hx
      linarith

theorem roundHalfEven_intCast (n : Int) : roundHalfEven (n : Decimal) = n :=
  le_antisymm (roundHalfEven_le_of_le le_rfl) (le_roundHalfEven_of_le le_rfl)

/-- Rounding is off by a half at most. -/
theorem roundHalfEven_le_add (x : Decimal) : (roundHalfEven x : Decimal) ≤ x + 1 / 2 := by
  rcases le_roundHalfEven_iff.mp (le_refl (roundHalfEven x)) with h | ⟨h, -⟩ <;> linarith

theorem sub_le_roundHalfEven (x : Decimal) : x - 1 / 2 ≤ (roundHalfEven x : Decimal) := by
  by_contra h
  have hn : ¬ (roundHalfEven x + 1 ≤ roundHalfEven x) := by omega
  refine hn (le_roundHalfEven_iff.mpr (Or.inl ?_))
  push_cast
  linarith

theorem roundHalfEven_nonneg (h : 0 ≤ x) : 0 ≤ roundHalfEven x :=
  le_roundHalfEven_of_le (by exact_mod_cast h)

end DiddiGo.Decimal
