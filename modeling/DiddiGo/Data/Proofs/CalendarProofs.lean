import DiddiGo.Data.Calendar
import DiddiGo.Data.Proofs.TextProofs
import Mathlib.Tactic.SplitIfs

/-!
# Calendar dates and the texts of instants

A day is the day of its date, and the text of an instant is read back as the instant.
-/

namespace DiddiGo.Data

/-! ## Days -/

/-- The year of a day of an era of 400 years. -/
theorem yearOfEra_bounds {day : Int} (h0 : 0 ≤ day) (h1 : day ≤ 146096) :
    0 ≤ (day - day / 1460 + day / 36524 - day / 146096) / 365 ∧
      (day - day / 1460 + day / 36524 - day / 146096) / 365 ≤ 399 := by
  by_cases hlast : day = 146096
  · subst hlast
    decide
  · have hzero : day / 146096 = 0 := by omega
    rw [hzero]
    omega

/-- The day of a year that starts in March. -/
theorem dayOfYear_bounds {day year : Int} (h0 : 0 ≤ day) (h1 : day ≤ 146096)
    (hyear : year = (day - day / 1460 + day / 36524 - day / 146096) / 365) :
    0 ≤ day - (365 * year + year / 4 - year / 100) ∧ day - (365 * year + year / 4 - year / 100) ≤ 366 := by
  have hleap : year / 4 ≤ day / 1460 := by omega
  have hcentury : day / 36524 = 0 ∨ day / 36524 = 1 ∨ day / 36524 = 2 ∨ day / 36524 = 3 ∨ day / 36524 = 4 := by
    omega
  -- In the last days of a century the year before it has not ended.
  by_cases hlast : year / 100 < day / 36524
  · rcases hcentury with h | h | h | h | h <;> omega
  · rcases hcentury with h | h | h | h | h <;> omega

namespace CivilDate

variable {d : CivilDate}

theorem toDays_ofDays (n : Int) : (ofDays n).toDays = n := by
  have h0 : 0 ≤ (n + 719468) % 146097 := by omega
  have h1 : (n + 719468) % 146097 ≤ 146096 := by omega
  have hyears := yearOfEra_bounds h0 h1
  have hdays := dayOfYear_bounds h0 h1 rfl
  unfold ofDays toDays
  dsimp only
  split_ifs
  all_goals
    generalize hday : (n + 719468) % 146097 = day at *
    generalize hera : (n + 719468) / 146097 = era at *
    generalize hyear : (day - day / 1460 + day / 36524 - day / 146096) / 365 = year at *
    generalize hdayOfYear : day - (365 * year + year / 4 - year / 100) = dayOfYear at *
    have hmonths : 0 ≤ (5 * dayOfYear + 2) / 153 ∧ (5 * dayOfYear + 2) / 153 ≤ 11 := by omega
    generalize hmonth : (5 * dayOfYear + 2) / 153 = month at *
    have hn : n = era * 146097 + day - 719468 := by omega
  · omega
  · have hera' : (era * 400 + year + 0) / 400 = era := by omega
    have hyear' : (era * 400 + year + 0) % 400 = year := by omega
    have hmonth' : (month + 3 - 12 * 0 + 9) % 12 = month := by omega
    rw [hera', hyear', hmonth']
    omega
  · have hera' : (era * 400 + year + 1 - 1) / 400 = era := by omega
    have hyear' : (era * 400 + year + 1 - 1) % 400 = year := by omega
    have hmonth' : (month + 3 - 12 * 1 + 9) % 12 = month := by omega
    rw [hera', hyear', hmonth']
    omega
  · omega

/-- The months and days of a year. -/
theorem month_day_bounds (n : Int) :
    1 ≤ (ofDays n).month ∧ (ofDays n).month ≤ 12 ∧ 1 ≤ (ofDays n).day ∧ (ofDays n).day ≤ 31 := by
  have h0 : 0 ≤ (n + 719468) % 146097 := by omega
  have h1 : (n + 719468) % 146097 ≤ 146096 := by omega
  unfold ofDays
  dsimp only
  generalize (n + 719468) % 146097 = dayOfEra at h0 h1 ⊢
  generalize hyear : (dayOfEra - dayOfEra / 1460 + dayOfEra / 36524 - dayOfEra / 146096) / 365 = year
  have hday := dayOfYear_bounds h0 h1 hyear.symm
  generalize dayOfEra - (365 * year + year / 4 - year / 100) = dayOfYear at hday ⊢
  split_ifs <;> omega

theorem Exists.month_day (h : d.Exists) : 1 ≤ d.month ∧ d.month ≤ 12 ∧ 1 ≤ d.day ∧ d.day ≤ 31 := by
  have hbounds := month_day_bounds d.toDays
  rw [h.2.2] at hbounds
  exact hbounds

end CivilDate

/-! ## Numbers of a fixed width -/

section

variable {width n : Nat} {c : Char} {cs rest : List Char}

theorem digits_replicate_zero (k : Nat) (cs : List Char) : digits 0 (List.replicate k '0' ++ cs) = digits 0 cs := by
  induction k with
  | zero => rfl
  | succ k ih =>
    rw [List.replicate_succ, List.cons_append, digits_cons_digit _ (by decide)]
    exact ih

theorem isDigit_of_mem_padded (h : c ∈ padded width n) : c.isDigit = true := by
  rcases List.mem_append.mp h with h | h
  · rw [(List.mem_replicate.mp h).2]
    decide
  · exact Nat.isDigit_of_mem_toDigits (by decide) (by decide) h

theorem digits_padded (width n : Nat) : digits 0 (padded width n) = some n := by
  unfold padded
  rw [digits_replicate_zero]
  exact digits_toDigits n

theorem length_padded (hwidth : 0 < width) (hn : n < 10 ^ width) : (padded width n).length = width := by
  have hle : (Nat.toDigits 10 n).length ≤ width := (Nat.length_toDigits_le_iff (by decide) hwidth).mpr hn
  unfold padded
  rw [List.length_append, List.length_replicate]
  omega

end

/-! ## Reading -/

namespace Reader

variable {α β : Type} {r : Reader α} {f : α → Reader β} {a : α} {n width bound : Nat} {cs rest : List Char}

theorem bind_of_some {s : List Char} (h : r cs = some (a, s)) : (r >>= f) cs = f a s := by
  change (r cs >>= fun p => f p.1 p.2) = f a s
  rw [h]
  rfl

theorem number_padded (hwidth : 0 < width) (hn : n < 10 ^ width) :
    number width (padded width n ++ rest) = some (n, rest) := by
  have hlength := length_padded hwidth hn
  have htake : (padded width n ++ rest).take width = padded width n := by
    rw [List.take_append_of_le_length (by omega), List.take_of_length_le (by omega)]
  have hdrop : (padded width n ++ rest).drop width = rest := by
    rw [List.drop_append_of_le_length (by omega), List.drop_eq_nil_of_le (by omega), List.nil_append]
  have hall : (padded width n).all Char.isDigit = true := List.all_eq_true.mpr fun _ => isDigit_of_mem_padded
  unfold number
  simp only [htake, hdrop]
  rw [if_pos ⟨hlength, hall⟩, digits_padded]
  rfl

theorem char_self (c : Char) (rest : List Char) : char c (c :: rest) = some ((), rest) := if_pos rfl

theorem below_padded (hn : n < bound) (hbound : bound ≤ 100) : below bound (padded 2 n ++ rest) = some (n, rest) := by
  unfold below
  rw [bind_of_some (number_padded (by decide) (by omega)), if_pos hn]
  rfl

theorem date_isoFormat {d : CivilDate} (h : d.Exists) (rest : List Char) :
    date (d.isoFormat ++ rest) = some (d, rest) := by
  obtain ⟨hmonth1, hmonth2, hday1, hday2⟩ := h.month_day
  have hyear1 := h.1
  have hyear2 := h.2.1
  have hd : (⟨d.year.toNat, d.month.toNat, d.day.toNat⟩ : CivilDate) = ⟨d.year, d.month, d.day⟩ := by
    rw [Int.toNat_of_nonneg (by omega), Int.toNat_of_nonneg (by omega), Int.toNat_of_nonneg (by omega)]
  unfold CivilDate.isoFormat date
  rw [List.append_assoc, List.cons_append, List.append_assoc, List.cons_append]
  rw [bind_of_some (number_padded (by decide) (by omega)), bind_of_some (char_self ..),
    bind_of_some (number_padded (by decide) (by omega)), bind_of_some (char_self ..),
    bind_of_some (number_padded (by decide) (by omega))]
  rw [hd, if_pos h]
  rfl

/-- A fraction is read unless it is left out. -/
theorem fraction_isoTime {micros : Nat} (hmicros : micros < 1000000) (hrest : rest.head? ≠ some '.') :
    fraction ((if (micros : Int) = 0 then [] else '.' :: padded 6 micros) ++ rest) = some (micros, rest) := by
  by_cases hzero : (micros : Int) = 0
  · rw [if_pos hzero, List.nil_append]
    have hmicros0 : micros = 0 := by omega
    cases rest with
    | nil => rw [hmicros0]; rfl
    | cons c cs =>
      have hc : c ≠ '.' := fun hc => hrest (by rw [hc]; rfl)
      unfold fraction
      split
      · next heq => exact absurd (List.cons.inj heq).1 hc
      · rw [hmicros0]
  · rw [if_neg hzero, List.cons_append]
    exact number_padded (by decide) (by omega)

theorem time_isoTime {t : Int} (h0 : 0 ≤ t) (h1 : t < microsOfDay) (hrest : rest.head? ≠ some '.') :
    time (isoTime t ++ rest) = some (t.toNat, rest) := by
  unfold microsOfDay at h1
  have hmicros : t % 1000000 = ((t % 1000000).toNat : Int) := by omega
  unfold isoTime time minutes
  rw [List.append_assoc, List.cons_append, List.append_assoc, List.cons_append, List.append_assoc]
  rw [bind_of_some (a := 60 * (t / 3600000000).toNat + (t / 60000000 % 60).toNat)
    (s := ':' :: (padded 2 (t / 1000000 % 60).toNat ++
      ((if t % 1000000 = 0 then [] else '.' :: padded 6 (t % 1000000).toNat) ++ rest)))]
  · rw [bind_of_some (char_self ..), bind_of_some (below_padded (by omega) (by decide)), hmicros,
      Int.toNat_natCast, bind_of_some (fraction_isoTime (by omega) hrest)]
    change some (_, rest) = some (_, rest)
    congr 2
    omega
  · rw [bind_of_some (below_padded (by omega) (by decide)), bind_of_some (char_self ..),
      bind_of_some (below_padded (by omega) (by decide))]
    rfl

end Reader

theorem fromIsoFormat_isoFormat (t : Instant) : fromIsoFormat (isoFormat t) = some t := by
  have h0 : 0 ≤ t.micros % microsOfDay := by unfold microsOfDay; omega
  have h1 : t.micros % microsOfDay < microsOfDay := by unfold microsOfDay; omega
  have hread : Reader.datetime (isoBody t.micros ++ utcOffset) = some (t.micros, []) := by
    unfold isoBody Reader.datetime
    rw [List.append_assoc, List.cons_append, Reader.bind_of_some (Reader.date_isoFormat t.inRange _),
      Reader.bind_of_some (Reader.char_self ..),
      Reader.bind_of_some (Reader.time_isoTime h0 h1 (by decide)), CivilDate.toDays_ofDays]
    change some (_, []) = some (_, [])
    congr 2
    unfold microsOfDay at *
    omega
  unfold fromIsoFormat isoFormat Reader.whole
  rw [String.toList_ofList, hread]
  exact dif_pos t.inRange

/-! ## The offset as a letter -/

section

variable {old new xs ys : List Char} {c : Char} {t : Int}

/-- Nothing is replaced before the first character of `old`. -/
theorem replaceFrom_append (hold : ∀ c ∈ xs, old.head? ≠ some c) (hne : old ≠ []) :
    replaceFrom old new 0 (xs ++ ys) = xs ++ replaceFrom old new 0 ys := by
  induction xs with
  | nil => rfl
  | cons x xs ih =>
    obtain ⟨hx, hxs⟩ := List.forall_mem_cons.mp hold
    have hnot : ¬ old.isPrefixOf (x :: (xs ++ ys)) = true := by
      cases old with
      | nil => exact absurd rfl hne
      | cons o old =>
        rw [List.isPrefixOf_cons_cons, Bool.and_eq_true]
        rintro ⟨hox, -⟩
        exact hx (by rw [eq_of_beq hox]; rfl)
    rw [List.cons_append, replaceFrom, if_neg hnot, ih hxs, List.cons_append]

/-- The characters in front of the offset. -/
theorem isChar_isoBody (h : c ∈ isoBody t) : c.isDigit = true ∨ c ∈ ['-', ':', 'T', '.'] := by
  have hpadded {width n : Nat} (hc : c ∈ padded width n) : c.isDigit = true ∨ c ∈ ['-', ':', 'T', '.'] :=
    Or.inl (isDigit_of_mem_padded hc)
  unfold isoBody CivilDate.isoFormat isoTime at h
  simp only [List.mem_append, List.mem_cons] at h
  rcases h with (h | rfl | h | rfl | h) | rfl | (h | rfl | h | rfl | h | h)
  · exact hpadded h
  · exact Or.inr (by decide)
  · exact hpadded h
  · exact Or.inr (by decide)
  · exact hpadded h
  · exact Or.inr (by decide)
  · exact hpadded h
  · exact Or.inr (by decide)
  · exact hpadded h
  · exact Or.inr (by decide)
  · exact hpadded h
  · split_ifs at h
    · cases h
    · rcases List.mem_cons.mp h with rfl | h
      · exact Or.inr (by decide)
      · exact hpadded h

theorem ne_of_mem_isoBody (h : c ∈ isoBody t) : c ≠ '+' ∧ c ≠ 'Z' := by
  constructor <;> rintro rfl <;> rcases isChar_isoBody h with h | h <;> exact absurd h (by decide)

/-- The offset of an instant is written as a letter and read as an offset. -/
theorem replace_isoFormat (t : Instant) : replace (isoFormat t) "+00:00" "Z" = String.ofList (isoBody t.micros ++ ['Z']) := by
  have hplus : ∀ c ∈ isoBody t.micros, utcOffset.head? ≠ some c := by
    intro c hc heq
    exact (ne_of_mem_isoBody hc).1 (Option.some.inj heq).symm
  change String.ofList (replaceFrom utcOffset ['Z'] 0 (String.ofList (isoBody t.micros ++ utcOffset)).toList) = _
  rw [String.toList_ofList, replaceFrom_append hplus (by decide)]
  rfl

theorem replace_isoFormatZ (t : Instant) :
    replace (String.ofList (isoBody t.micros ++ ['Z'])) "Z" "+00:00" = isoFormat t := by
  have hletter : ∀ c ∈ isoBody t.micros, ['Z'].head? ≠ some c := by
    intro c hc heq
    exact (ne_of_mem_isoBody hc).2 (Option.some.inj heq).symm
  change String.ofList (replaceFrom ['Z'] utcOffset 0 (String.ofList (isoBody t.micros ++ ['Z'])).toList) = _
  rw [String.toList_ofList, replaceFrom_append hletter (by decide)]
  rfl

end

end DiddiGo.Data
