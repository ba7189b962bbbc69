import DiddiGo.Data.FiniteDecimal
import DiddiGo.Data.Proofs.CalendarProofs
import Mathlib.Algebra.Order.Field.Rat
import Mathlib.Tactic.Ring
import Mathlib.Tactic.Linarith
import Mathlib.Tactic.IntervalCases

/-!
# Decimals and their texts

The text of a decimal is read back as the decimal, and sums are sums of numbers.
-/

namespace DiddiGo.Data.FiniteDecimal

/-! ## Sums -/

variable {d e : FiniteDecimal}

theorem toRat_ofInt (n : Int) : (ofInt n).toRat = n := by
  unfold ofInt toRat
  simp

theorem scaled_toRat {exponent : Int} (h : exponent ≤ d.exponent) :
    (d.scaled exponent : ℚ) * 10 ^ exponent = d.toRat := by
  have hexponent : ((d.exponent - exponent).toNat : Int) + exponent = d.exponent := by omega
  unfold scaled toRat
  push_cast
  rw [mul_assoc, ← zpow_natCast, ← zpow_add₀ (by norm_num), hexponent]

theorem toRat_add (d e : FiniteDecimal) : (d + e).toRat = d.toRat + e.toRat := by
  rw [← scaled_toRat (min_le_left d.exponent e.exponent), ← scaled_toRat (min_le_right d.exponent e.exponent),
    ← add_mul, ← Int.cast_add]
  rfl

theorem toRat_sum (ds : List FiniteDecimal) : (sum ds).toRat = (ds.map toRat).sum := by
  have hfold (acc : FiniteDecimal) : (ds.foldl (· + ·) acc).toRat = acc.toRat + (ds.map toRat).sum := by
    induction ds generalizing acc with
    | nil => simp
    | cons d ds ih =>
      rw [List.foldl_cons, ih, toRat_add, List.map_cons, List.sum_cons, add_assoc]
  unfold sum
  rw [hfold, toRat_ofInt, Int.cast_zero, zero_add]

/-! ## Texts -/

section

variable {α : Type} [Neg α] {f : List Char → Option α} {intpart fracpart rest cs ds : List Char} {n : Nat}
  {exponent : Int} {c : Char}

theorem isSpace_of_isDigit (h : c.isDigit = true) : isSpace c = false := by
  have hbounds : 48 ≤ c.toNat ∧ c.toNat ≤ 57 := by
    unfold Char.isDigit at h
    simp only [ge_iff_le, Bool.and_eq_true, decide_eq_true_eq, UInt32.le_iff_toNat_le] at h
    exact h
  unfold isSpace
  generalize c.toNat = m at hbounds
  obtain ⟨h1, h2⟩ := hbounds
  interval_cases m <;> rfl

theorem strip_of_notSpace {text : String} (h : ∀ c ∈ text.toList, isSpace c = false) : strip text = text := by
  have hdrop : ∀ cs : List Char, (∀ c ∈ cs, isSpace c = false) → cs.dropWhile isSpace = cs := by
    intro cs hcs
    cases cs with
    | nil => rfl
    | cons c cs => rw [List.dropWhile_cons_of_neg (by rw [hcs c List.mem_cons_self]; decide)]
  unfold strip
  rw [hdrop _ h, hdrop _ fun c hc => h c (List.mem_reverse.mp hc), List.reverse_reverse, String.ofList_toList]

/-- A text that starts with a digit has no sign. -/
theorem signed_of_isDigit (h : c.isDigit = true) : signed f (c :: cs) = f (c :: cs) := by
  unfold signed
  split
  · next heq =>
    obtain ⟨rfl, -⟩ := List.cons.inj heq
    exact absurd h (by decide)
  · next heq =>
    obtain ⟨rfl, -⟩ := List.cons.inj heq
    exact absurd h (by decide)
  · rfl

theorem natOfChars_of_isDigit (h : ∀ c ∈ cs, c.isDigit = true) (hne : cs ≠ []) : natOfChars cs = digits 0 cs := by
  cases cs with
  | nil => exact absurd rfl hne
  | cons c cs => exact if_pos (h c List.mem_cons_self)

theorem signed_signedText (m : Int) :
    signed (fun cs => (natOfChars cs).map Int.ofNat) (signedText m) = some m := by
  have hread : natOfChars (Nat.toDigits 10 m.natAbs) = some m.natAbs := by
    rw [natOfChars_of_isDigit (fun c hc => Nat.isDigit_of_mem_toDigits (by decide) (by decide) hc)
      Nat.toDigits_ne_nil, digits_toDigits]
  unfold signedText
  by_cases hm : m < 0
  · rw [if_pos hm, signed.eq_1, hread]
    change some (-(m.natAbs : Int)) = some m
    congr 1
    omega
  · rw [if_neg hm, signed.eq_2, hread]
    change some (m.natAbs : Int) = some m
    congr 1
    omega

theorem readExponent_exponentText (m : Int) : readExponent (exponentText m) = some m := by
  unfold exponentText
  by_cases hm : m = 0
  · rw [if_pos hm, hm]
    rfl
  · rw [if_neg hm, readExponent, if_pos (Or.inl rfl)]
    exact signed_signedText m

theorem head?_exponentText {m : Int} (h : (exponentText m).head? = some c) : c = 'E' := by
  unfold exponentText at h
  split_ifs at h with hm
  · cases h
  · exact (Option.some.inj h).symm

/-- The digits at the front of a text. -/
theorem span_isDigit (rest : List Char) (h : ∀ c ∈ ds, c.isDigit = true)
    (hrest : ∀ c, rest.head? = some c → c.isDigit = false) :
    (ds ++ rest).takeWhile Char.isDigit = ds ∧ (ds ++ rest).dropWhile Char.isDigit = rest := by
  rw [List.takeWhile_append_of_pos h, List.dropWhile_append_of_pos h]
  cases rest with
  | nil => exact ⟨List.append_nil ds, rfl⟩
  | cons c cs =>
    have hc : ¬ c.isDigit = true := by rw [hrest c rfl]; decide
    rw [List.takeWhile_cons_of_neg hc, List.dropWhile_cons_of_neg hc, List.append_nil]
    exact ⟨rfl, rfl⟩

theorem readUnsigned_whole {m : Int} (h : ∀ c ∈ intpart, c.isDigit = true) (hn : natOfChars intpart = some n) :
    readUnsigned (intpart ++ exponentText m) = some ⟨n, m⟩ := by
  obtain ⟨htake, hdrop⟩ := span_isDigit (exponentText m) h fun c hc => by
    rw [head?_exponentText hc]
    decide
  have hfraction : readFraction (exponentText m) = ([], exponentText m) := by
    unfold readFraction
    split
    · next heq =>
      have hhead := head?_exponentText (m := m) (c := '.') (by rw [heq]; rfl)
      exact absurd hhead (by decide)
    · rfl
  unfold readUnsigned
  rw [htake, hdrop, hfraction]
  dsimp only
  rw [List.append_nil, hn, readExponent_exponentText]
  simp

theorem readUnsigned_fraction {m : Int} (hint : ∀ c ∈ intpart, c.isDigit = true)
    (hfrac : ∀ c ∈ fracpart, c.isDigit = true) (hn : natOfChars (intpart ++ fracpart) = some n) :
    readUnsigned (intpart ++ '.' :: (fracpart ++ exponentText m)) = some ⟨n, m - fracpart.length⟩ := by
  obtain ⟨htake, hdrop⟩ := span_isDigit ('.' :: (fracpart ++ exponentText m)) hint fun c hc => by
    rw [← Option.some.inj hc]
    decide
  obtain ⟨htake', hdrop'⟩ := span_isDigit (exponentText m) hfrac fun c hc => by
    rw [head?_exponentText hc]
    decide
  have hfraction : readFraction ('.' :: (fracpart ++ exponentText m)) = (fracpart, exponentText m) :=
    Prod.ext htake' hdrop'
  unfold readUnsigned
  rw [htake, hdrop, hfraction]
  dsimp only
  rw [hn, readExponent_exponentText]
  rfl

theorem readUnsigned_unsignedText (hds : ∀ c ∈ ds, c.isDigit = true) (hne : ds ≠ []) (hn : digits 0 ds = some n)
    (exponent : Int) : readUnsigned (unsignedText ds exponent) = some ⟨n, exponent⟩ := by
  have hlength : 0 < ds.length := List.length_pos_iff.mpr hne
  have hread : natOfChars ds = some n := (natOfChars_of_isDigit hds hne).trans hn
  have hzero (k : Nat) : ∀ c ∈ List.replicate k '0', c.isDigit = true := by
    intro c hc
    rw [(List.mem_replicate.mp hc).2]
    decide
  have hsplit (k : Nat) : natOfChars (ds.take k ++ ds.drop k) = some n := by rw [List.take_append_drop, hread]
  unfold unsignedText
  dsimp only
  by_cases hplain : exponent ≤ 0 ∧ -6 < exponent + ds.length
  · rw [if_pos hplain]
    by_cases hsmall : exponent + (ds.length : Int) ≤ 0
    · -- `0.00123`
      have hall : ∀ c ∈ List.replicate (-(exponent + (ds.length : Int))).toNat '0' ++ ds, c.isDigit = true := by
        intro c hc
        rcases List.mem_append.mp hc with hc | hc
        · exact hzero _ c hc
        · exact hds c hc
      have hzeros : ∀ c ∈ '0' :: (List.replicate (-(exponent + (ds.length : Int))).toNat '0' ++ ds), c.isDigit = true :=
        List.forall_mem_cons.mpr ⟨by decide, hall⟩
      have hvalue : natOfChars ('0' :: (List.replicate (-(exponent + (ds.length : Int))).toNat '0' ++ ds)) = some n := by
        rw [natOfChars_of_isDigit hzeros (List.cons_ne_nil _ _), digits_cons_digit _ (by decide)]
        exact (digits_replicate_zero _ _).trans hn
      have hzero' : ∀ c ∈ ['0'], c.isDigit = true := fun c hc => by
        rw [List.mem_singleton.mp hc]
        rfl
      have hresult := readUnsigned_fraction (m := exponent + (ds.length : Int) - (exponent + ds.length)) hzero' hall hvalue
      rw [if_pos hsmall]
      refine hresult.trans ?_
      rw [List.length_append, List.length_replicate]
      congr 2
      push_cast
      omega
    · rw [if_neg hsmall]
      by_cases hwhole : (ds.length : Int) ≤ exponent + ds.length
      · -- `123`
        have hexponent : exponent = 0 := by omega
        rw [if_pos hwhole, hexponent]
        have hnone : (0 + (ds.length : Int) - ds.length).toNat = 0 := by omega
        rw [hnone, List.replicate_zero, List.append_nil, Int.sub_self]
        exact readUnsigned_whole hds hread
      · -- `1.23`
        rw [if_neg hwhole, List.append_assoc, List.cons_append]
        refine (readUnsigned_fraction (fun c hc => hds c (List.mem_of_mem_take hc))
          (fun c hc => hds c (List.mem_of_mem_drop hc)) (hsplit _)).trans ?_
        rw [List.length_drop]
        congr 2
        omega
  · rw [if_neg hplain, if_neg (by decide)]
    by_cases hone : (ds.length : Int) ≤ 1
    · -- `1E+5`
      have hnone : (1 - (ds.length : Int)).toNat = 0 := by omega
      rw [if_pos hone, hnone, List.replicate_zero, List.append_nil]
      refine (readUnsigned_whole hds hread).trans ?_
      congr 2
      omega
    · -- `1.23E+5`
      rw [if_neg hone, List.append_assoc, List.cons_append]
      refine (readUnsigned_fraction (fun c hc => hds c (List.mem_of_mem_take hc))
        (fun c hc => hds c (List.mem_of_mem_drop hc)) (hsplit _)).trans ?_
      rw [List.length_drop]
      congr 2
      omega

/-- The first character is a digit. -/
theorem unsignedText_eq_cons (hds : ∀ c ∈ ds, c.isDigit = true) (hne : ds ≠ []) (exponent : Int) :
    ∃ c cs, unsignedText ds exponent = c :: cs ∧ c.isDigit = true := by
  obtain ⟨d, ds', rfl⟩ := List.exists_cons_of_ne_nil hne
  have hd : d.isDigit = true := hds d List.mem_cons_self
  unfold unsignedText
  dsimp only
  generalize (if exponent ≤ 0 ∧ -6 < exponent + ((d :: ds').length : Int) then exponent + ((d :: ds').length : Int) else 1)
    = dotplace
  split_ifs with hsmall hwhole
  · exact ⟨'0', _, rfl, by decide⟩
  · exact ⟨d, _, rfl, hd⟩
  · obtain ⟨k, hk⟩ : ∃ k, dotplace.toNat = k + 1 := ⟨dotplace.toNat - 1, by omega⟩
    rw [hk]
    exact ⟨d, _, rfl, hd⟩

end

/-- The characters of a text. -/
theorem isChar_text {c : Char} (h : c ∈ d.text.toList) : c.isDigit = true ∨ c ∈ ['-', '+', '.', 'E'] := by
  have hdigits : ∀ m : Nat, ∀ c ∈ Nat.toDigits 10 m, c.isDigit = true :=
    fun m c hc => Nat.isDigit_of_mem_toDigits (by decide) (by decide) hc
  have hexponent : ∀ m, ∀ c ∈ exponentText m, c.isDigit = true ∨ c ∈ ['-', '+', '.', 'E'] := by
    intro m c hc
    unfold exponentText signedText at hc
    split_ifs at hc
    · cases hc
    · rcases List.mem_cons.mp hc with rfl | hc
      · exact Or.inr (by decide)
      · rcases List.mem_cons.mp hc with rfl | hc
        · exact Or.inr (by decide)
        · exact Or.inl (hdigits _ c hc)
    · rcases List.mem_cons.mp hc with rfl | hc
      · exact Or.inr (by decide)
      · rcases List.mem_cons.mp hc with rfl | hc
        · exact Or.inr (by decide)
        · exact Or.inl (hdigits _ c hc)
  have hzeros : ∀ (k : Nat), ∀ c ∈ List.replicate k '0', c.isDigit = true := by
    intro k c hc
    rw [(List.mem_replicate.mp hc).2]
    decide
  unfold text at h
  rw [String.toList_ofList] at h
  rcases List.mem_append.mp h with h | h
  · split_ifs at h
    · rw [List.mem_singleton.mp h]
      exact Or.inr (by decide)
    · cases h
  · unfold unsignedText at h
    dsimp only at h
    generalize (if d.exponent ≤ 0 ∧ -6 < d.exponent + ((Nat.toDigits 10 d.coefficient.natAbs).length : Int) then
      d.exponent + ((Nat.toDigits 10 d.coefficient.natAbs).length : Int) else 1) = dotplace at h
    rcases List.mem_append.mp h with h | h
    · split_ifs at h
      all_goals
        simp only [List.mem_cons, List.mem_append] at h
      · rcases h with rfl | rfl | h | h
        · exact Or.inl (by decide)
        · exact Or.inr (by decide)
        · exact Or.inl (hzeros _ c h)
        · exact Or.inl (hdigits _ c h)
      · rcases h with h | h
        · exact Or.inl (hdigits _ c h)
        · exact Or.inl (hzeros _ c h)
      · rcases h with h | rfl | h
        · exact Or.inl (hdigits _ c (List.mem_of_mem_take h))
        · exact Or.inr (by decide)
        · exact Or.inl (hdigits _ c (List.mem_of_mem_drop h))
    · exact hexponent _ c h

/-- The text of a decimal is read back as the decimal, with its exponent. -/
theorem ofString_text (d : FiniteDecimal) : ofString d.text = some d := by
  have hds : ∀ c ∈ Nat.toDigits 10 d.coefficient.natAbs, c.isDigit = true :=
    fun c hc => Nat.isDigit_of_mem_toDigits (by decide) (by decide) hc
  have hread := readUnsigned_unsignedText hds Nat.toDigits_ne_nil (digits_toDigits _) d.exponent
  obtain ⟨c, cs, hcons, hc⟩ := unsignedText_eq_cons hds Nat.toDigits_ne_nil d.exponent
  have hspace : ∀ c ∈ d.text.toList, isSpace c = false := by
    intro c hc
    rcases isChar_text hc with hc | hc
    · exact isSpace_of_isDigit hc
    · simp only [List.mem_cons, List.not_mem_nil, or_false] at hc
      rcases hc with rfl | rfl | rfl | rfl <;> rfl
  have hfilter : d.text.toList.filter (· ≠ '_') = d.text.toList := by
    refine List.filter_eq_self.mpr fun c hc => decide_eq_true ?_
    rintro rfl
    rcases isChar_text hc with hc | hc <;> exact absurd hc (by decide)
  unfold ofString
  rw [strip_of_notSpace hspace, hfilter]
  unfold text
  rw [String.toList_ofList]
  by_cases hneg : d.coefficient < 0
  · rw [if_pos hneg, List.singleton_append, signed.eq_1, hread]
    change some (⟨-(d.coefficient.natAbs : Int), d.exponent⟩ : FiniteDecimal) = some d
    have habs : -(d.coefficient.natAbs : Int) = d.coefficient := by omega
    rw [habs]
  · rw [if_neg hneg, List.nil_append, hcons, signed_of_isDigit hc, ← hcons, hread]
    have habs : (d.coefficient.natAbs : Int) = d.coefficient := by omega
    rw [habs]

end DiddiGo.Data.FiniteDecimal
