import DiddiGo.Basic
import Mathlib.Tactic.IntervalCases

/-!
# Numbers and their texts

The decimal text of a number is read back as the number.
-/

namespace DiddiGo

namespace Data

theorem digits_cons_digit {n : Nat} {c : Char} (cs : List Char) (hc : c.isDigit) :
    digits n (c :: cs) = digits (10 * n + (c.toNat - '0'.toNat)) cs := by
  have hne : c ≠ '_' := by
    rintro rfl
    exact absurd hc (by decide)
  rw [digits.eq_3 _ _ _ (by rintro _ _ rfl; exact (hne rfl).elim), if_pos hc]

theorem digits_digitChar {n d : Nat} (hd : d < 10) : digits n [Nat.digitChar d] = some (10 * n + d) := by
  interval_cases d <;> rfl

/-- One more digit at the end. -/
theorem digits_append_digit {n m d : Nat} {cs : List Char} (hcs : ∀ c ∈ cs, c.isDigit) (hd : d < 10)
    (h : digits n cs = some m) : digits n (cs ++ [Nat.digitChar d]) = some (10 * m + d) := by
  induction cs generalizing n with
  | nil =>
    obtain rfl := Option.some.inj h
    exact digits_digitChar hd
  | cons c cs ih =>
    have hc : c.isDigit := hcs c List.mem_cons_self
    rw [digits_cons_digit _ hc] at h
    rw [List.cons_append, digits_cons_digit _ hc]
    exact ih (fun c hc => hcs c (List.mem_cons_of_mem _ hc)) h

theorem digits_toDigits (n : Nat) : digits 0 (Nat.toDigits 10 n) = some n := by
  induction n using Nat.strongRecOn with
  | ind n ih =>
    by_cases hn : n < 10
    · rw [Nat.toDigits_of_lt_base hn, digits_digitChar hn, Nat.mul_zero, Nat.zero_add]
    · rw [Nat.toDigits_of_base_le (by decide) (by omega),
        digits_append_digit (fun c hc => Nat.isDigit_of_mem_toDigits (by decide) (by decide) hc)
          (Nat.mod_lt n (by decide)) (ih (n / 10) (by omega)), Nat.div_add_mod]

theorem natOfChars_repr (n : Nat) : natOfChars (Nat.repr n).toList = some n := by
  rw [Nat.toList_repr]
  have hread := digits_toDigits n
  cases htext : Nat.toDigits 10 n with
  | nil => exact absurd htext Nat.toDigits_ne_nil
  | cons c cs =>
    have hmem : c ∈ Nat.toDigits 10 n := by
      rw [htext]
      exact List.mem_cons_self
    have hc : c.isDigit := Nat.isDigit_of_mem_toDigits (by decide) (by decide) hmem
    rw [htext] at hread
    exact (if_pos hc).trans hread

end Data

/-- The text of an identifier is read back as the identifier. -/
theorem UUID.ofString_str (id : UUID) : UUID.ofString (UUID.str id) = some id := by
  unfold UUID.ofString UUID.str
  rw [Data.natOfChars_repr]
  exact if_pos (decide_eq_true rfl)

theorem UUID.str_of_ofString {text : String} {id : UUID} (h : UUID.ofString text = some id) :
    UUID.str id = text := of_decide_eq_true (Option.filter_eq_some_iff.mp h).2

/-- Different identifiers have different texts. -/
theorem UUID.str_injective : Function.Injective UUID.str := by
  intro m n h
  have hread := UUID.ofString_str m
  rw [h, UUID.ofString_str] at hread
  exact (Option.some.inj hread).symm

end DiddiGo
