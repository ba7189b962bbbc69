import DiddiGo.Data.JsonText
import Mathlib.Tactic.SplitIfs

/-!
# JSON texts can be read back

The escape of a character ends where it ends, so a quoted text followed by anything determines the text.
-/

namespace DiddiGo.Data.Json

/-! ## Escapes -/

/-- The value of a hexadecimal digit. -/
def hexValue (c : Char) : Nat := if c.toNat < 58 then c.toNat - 48 else c.toNat - 87

/-- The value of four hexadecimal digits. -/
def hexValue4 (cs : List Char) : Nat := (cs.take 4).foldl (fun n c => 16 * n + hexValue c) 0

/-- Reads the character in front, if it is not the quote at the end. -/
def readChar : List Char → Option (Char × List Char)
  | [] => none
  | c :: rest =>
    if c.toNat = 34 then none
    else if c.toNat = 92 then
      match rest with
      | [] => none
      | 'b' :: rest => some (Char.ofNat 8, rest)
      | 't' :: rest => some (Char.ofNat 9, rest)
      | 'n' :: rest => some (Char.ofNat 10, rest)
      | 'f' :: rest => some (Char.ofNat 12, rest)
      | 'r' :: rest => some (Char.ofNat 13, rest)
      | 'u' :: rest =>
        let unit := hexValue4 rest
        if 55296 ≤ unit ∧ unit < 56320 then
          some (Char.ofNat (65536 + (unit - 55296) * 1024 + (hexValue4 (rest.drop 6) - 56320)), rest.drop 10)
        else some (Char.ofNat unit, rest.drop 4)
      | c :: rest => some (c, rest)
    else some (c, rest)

theorem hexValue_digit : ∀ k < 16, hexValue ("0123456789abcdef".toList.getD k '0') = k := by decide

theorem hexValue4_hex4 {n : Nat} (h : n < 65536) (rest : List Char) : hexValue4 ((hex4 n).toList ++ rest) = n := by
  have hdigit (p : Nat) : hexValue ("0123456789abcdef".toList.getD (n / p % 16) '0') = n / p % 16 :=
    hexValue_digit _ (Nat.mod_lt _ (by decide))
  unfold hexValue4 hex4
  simp only [String.toList_ofList, List.map_cons, List.map_nil, List.cons_append, List.nil_append, List.take_succ_cons,
    List.take_zero, List.foldl_cons, List.foldl_nil, hdigit]
  omega

theorem length_hex4 (n : Nat) : (hex4 n).toList.length = 4 := by simp [hex4]

theorem drop_hex4 (n : Nat) (rest : List Char) : ((hex4 n).toList ++ rest).drop 4 = rest :=
  List.drop_left' (length_hex4 n)

theorem eq_ofNat {c : Char} {n : Nat} (h : c.toNat = n) : Char.ofNat n = c := by
  rw [← h]
  exact Char.ofNat_toNat c

theorem readChar_unicode (rest : List Char) : readChar (Char.ofNat 92 :: 'u' :: rest) =
    if 55296 ≤ hexValue4 rest ∧ hexValue4 rest < 56320 then
      some (Char.ofNat (65536 + (hexValue4 rest - 55296) * 1024 + (hexValue4 (rest.drop 6) - 56320)), rest.drop 10)
    else some (Char.ofNat (hexValue4 rest), rest.drop 4) := rfl

/-- A character of the first plane, which is no surrogate. -/
theorem readChar_unicodeEscape {c : Char} (h : c.toNat < 65536) (rest : List Char) :
    readChar (unicodeEscape c.toNat ++ rest) = some (c, rest) := by
  have hvalid : ¬ (55296 ≤ c.toNat ∧ c.toNat < 56320) := by
    rintro ⟨hlow, hhigh⟩
    rcases c.valid with hc | hc
    · exact absurd hc (by simp only [Char.toNat] at hlow; omega)
    · simp only [Char.toNat] at hhigh
      omega
  change readChar (Char.ofNat 92 :: 'u' :: ((hex4 c.toNat).toList ++ rest)) = _
  rw [readChar_unicode, hexValue4_hex4 h, if_neg hvalid, drop_hex4, Char.ofNat_toNat]

theorem readChar_pair {high low : Nat} (hfrom : 55296 ≤ high) (hhigh : high < 56320) (hlow : low < 65536)
    (rest : List Char) : readChar (unicodeEscape high ++ unicodeEscape low ++ rest) =
      some (Char.ofNat (65536 + (high - 55296) * 1024 + (low - 56320)), rest) := by
  have hsix : ((hex4 high).toList ++ (Char.ofNat 92 :: 'u' :: ((hex4 low).toList ++ rest))).drop 6 =
      (hex4 low).toList ++ rest := by
    change List.drop (4 + 2) _ = _
    rw [← List.drop_drop, drop_hex4]
    rfl
  have hten : ((hex4 high).toList ++ (Char.ofNat 92 :: 'u' :: ((hex4 low).toList ++ rest))).drop 10 = rest := by
    change List.drop (6 + 4) _ = _
    rw [← List.drop_drop, hsix, drop_hex4]
  have htext : unicodeEscape high ++ unicodeEscape low ++ rest =
      Char.ofNat 92 :: 'u' :: ((hex4 high).toList ++ (Char.ofNat 92 :: 'u' :: ((hex4 low).toList ++ rest))) := by
    unfold unicodeEscape
    simp
  rw [htext, readChar_unicode, hexValue4_hex4 (by omega), if_pos ⟨hfrom, hhigh⟩, hsix, hexValue4_hex4 hlow, hten]

/-- A character beyond the first plane, written as two surrogates. -/
theorem readChar_surrogates {c : Char} (h : 65536 ≤ c.toNat) (rest : List Char) :
    readChar (unicodeEscape (55296 + (c.toNat - 65536) / 1024) ++
      unicodeEscape (56320 + (c.toNat - 65536) % 1024) ++ rest) = some (c, rest) := by
  have hmax : c.toNat < 1114112 := by
    rcases c.valid with hc | hc
    · simp only [Char.toNat] at h
      omega
    · exact hc.2
  have hcode : 65536 + (55296 + (c.toNat - 65536) / 1024 - 55296) * 1024 +
      (56320 + (c.toNat - 65536) % 1024 - 56320) = c.toNat := by omega
  have hhigh : 55296 + (c.toNat - 65536) / 1024 < 56320 := by omega
  have hlow : 56320 + (c.toNat - 65536) % 1024 < 65536 := by omega
  rw [readChar_pair (Nat.le_add_right ..) hhigh hlow, hcode, Char.ofNat_toNat]

/-- The escape of a character can be read, whatever follows. -/
theorem readChar_escape (c : Char) (rest : List Char) : readChar (escape c ++ rest) = some (c, rest) := by
  unfold escape
  split
  · rename_i h
    rw [← eq_ofNat h]
    rfl
  · rename_i h
    rw [← eq_ofNat h]
    rfl
  · rename_i h
    rw [← eq_ofNat h]
    rfl
  · rename_i h
    rw [← eq_ofNat h]
    rfl
  · rename_i h
    rw [← eq_ofNat h]
    rfl
  · rename_i h
    rw [← eq_ofNat h]
    rfl
  · rename_i h
    rw [← eq_ofNat h]
    rfl
  · rename_i hquote hbackslash _ _ _ _ _
    split_ifs with hprintable hplane
    · change readChar (c :: rest) = _
      unfold readChar
      dsimp only
      rw [if_neg hquote, if_neg hbackslash]
    · exact readChar_unicodeEscape hplane rest
    · exact readChar_surrogates (Nat.le_of_not_lt hplane) rest

/-! ## Quoted texts -/

/-- The quote ends a text. -/
theorem readChar_quote (rest : List Char) : readChar (Char.ofNat 34 :: rest) = none := rfl

/-- Two escaped texts that start the same text are equal. -/
theorem escaped_inj {cs cs' rest rest' : List Char}
    (h : cs.flatMap escape ++ Char.ofNat 34 :: rest = cs'.flatMap escape ++ Char.ofNat 34 :: rest') :
    cs = cs' ∧ rest = rest' := by
  induction cs generalizing cs' with
  | nil =>
    cases cs' with
    | nil => exact ⟨rfl, List.tail_eq_of_cons_eq h⟩
    | cons c' cs' =>
      have hread := congrArg readChar h
      rw [List.flatMap_nil, List.nil_append, List.flatMap_cons, List.append_assoc, readChar_quote,
        readChar_escape] at hread
      cases hread
  | cons c cs ih =>
    cases cs' with
    | nil =>
      have hread := congrArg readChar h
      rw [List.flatMap_nil, List.nil_append, List.flatMap_cons, List.append_assoc, readChar_quote,
        readChar_escape] at hread
      cases hread
    | cons c' cs' =>
      have hread := congrArg readChar h
      rw [List.flatMap_cons, List.flatMap_cons, List.append_assoc, List.append_assoc, readChar_escape,
        readChar_escape] at hread
      obtain ⟨rfl, htail⟩ := Prod.mk.inj (Option.some.inj hread)
      obtain ⟨rfl, hrest⟩ := ih htail
      exact ⟨rfl, hrest⟩

/-- A quoted text ends where it ends. -/
theorem quote_inj {s s' : String} {rest rest' : List Char}
    (h : (quote s).toList ++ rest = (quote s').toList ++ rest') : s = s' ∧ rest = rest' := by
  unfold quote at h
  rw [String.toList_ofList, String.toList_ofList, List.cons_append, List.cons_append, List.append_assoc,
    List.append_assoc] at h
  obtain ⟨hs, hrest⟩ := escaped_inj (List.tail_eq_of_cons_eq h)
  exact ⟨String.toList_inj.mp hs, hrest⟩

end DiddiGo.Data.Json
