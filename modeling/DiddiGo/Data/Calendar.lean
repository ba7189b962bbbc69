import DiddiGo.Data.Text

/-!
# Calendar dates and the texts of instants

Days are counted from 1 January 1970 in the Gregorian calendar, and instants in microseconds. An instant is a
`datetime` in UTC; `isoFormat` and `fromIsoFormat` are `t.isoformat()` and `datetime.fromisoformat(text)`.
-/

namespace DiddiGo.Data

/-! ## Dates -/

/-- A calendar date. -/
structure CivilDate where
  year : Int
  month : Int
  day : Int
  deriving DecidableEq, Repr

namespace CivilDate

/-- The days to a date. The years of an era of 400 start in March, so that the leap day is the last one. -/
def toDays (d : CivilDate) : Int :=
  let year := if d.month ≤ 2 then d.year - 1 else d.year
  let yearOfEra := year % 400
  let dayOfYear := (153 * ((d.month + 9) % 12) + 2) / 5 + d.day - 1
  year / 400 * 146097 + (yearOfEra * 365 + yearOfEra / 4 - yearOfEra / 100 + dayOfYear) - 719468

/-- The date of a day. -/
def ofDays (n : Int) : CivilDate :=
  let dayOfEra := (n + 719468) % 146097
  let yearOfEra := (dayOfEra - dayOfEra / 1460 + dayOfEra / 36524 - dayOfEra / 146096) / 365
  let dayOfYear := dayOfEra - (365 * yearOfEra + yearOfEra / 4 - yearOfEra / 100)
  let monthOfYear := (5 * dayOfYear + 2) / 153
  let january := if monthOfYear < 10 then 0 else 1
  { year := (n + 719468) / 146097 * 400 + yearOfEra + january
    month := monthOfYear + 3 - 12 * january
    day := dayOfYear - (153 * monthOfYear + 2) / 5 + 1 }

/-- The date exists, in the years that `date` has. -/
def Exists (d : CivilDate) : Prop := 1 ≤ d.year ∧ d.year ≤ 9999 ∧ ofDays d.toDays = d

instance (d : CivilDate) : Decidable d.Exists := by unfold Exists; infer_instance

end CivilDate

/-- Microseconds in a day. -/
def microsOfDay : Int := 86400000000

/-- A `datetime` in UTC: an instant in the years from 1 to 9999. -/
structure Instant where
  micros : Int
  inRange : (CivilDate.ofDays (micros / microsOfDay)).Exists
  deriving DecidableEq

/-! ## Writing -/

/-- A number in decimal, with zeros in front of it up to a width. -/
def padded (width n : Nat) : List Char :=
  List.replicate (width - (Nat.toDigits 10 n).length) '0' ++ Nat.toDigits 10 n

/-- `d.isoformat()` of a date. -/
def CivilDate.isoFormat (d : CivilDate) : List Char :=
  padded 4 d.year.toNat ++ '-' :: (padded 2 d.month.toNat ++ '-' :: padded 2 d.day.toNat)

/-- `t.isoformat()` of a time of day. -/
def isoTime (t : Int) : List Char :=
  padded 2 (t / 3600000000).toNat ++ ':' :: (padded 2 (t / 60000000 % 60).toNat ++ ':' ::
    (padded 2 (t / 1000000 % 60).toNat ++
      if t % 1000000 = 0 then [] else '.' :: padded 6 (t % 1000000).toNat))

/-- The offset of UTC. -/
def utcOffset : List Char := ['+', '0', '0', ':', '0', '0']

/-- `t.isoformat()` in UTC, without the offset. -/
def isoBody (t : Int) : List Char :=
  (CivilDate.ofDays (t / microsOfDay)).isoFormat ++ 'T' :: isoTime (t % microsOfDay)

/-- `t.isoformat()` in UTC. -/
def isoFormat (t : Instant) : String := String.ofList (isoBody t.micros ++ utcOffset)

/-! ## Reading -/

/-- What reads the front of a text; `none` is a `ValueError`. -/
abbrev Reader := StateT (List Char) Option

namespace Reader

/-- A number of `width` digits. -/
def number (width : Nat) : Reader Nat := fun cs =>
  let field := cs.take width
  if field.length = width ∧ field.all Char.isDigit then (digits 0 field).map fun n => (n, cs.drop width) else none

/-- The character `c`. -/
def char (c : Char) : Reader Unit
  | c' :: cs => if c' = c then some ((), cs) else none
  | [] => none

/-- Microseconds behind a point, if there is one. -/
def fraction : Reader Nat
  | '.' :: cs => number 6 cs
  | cs => some (0, cs)

/-- A sign. -/
def sign : Reader Int
  | '+' :: cs => some (1, cs)
  | '-' :: cs => some (-1, cs)
  | _ => none

/-- A date that exists. -/
def date : Reader CivilDate := do
  let year ← number 4
  char '-'
  let month ← number 2
  char '-'
  let day ← number 2
  let d : CivilDate := ⟨year, month, day⟩
  if d.Exists then return d else failure

/-- A number of two digits that is less than `bound`. -/
def below (bound : Nat) : Reader Nat := do
  let n ← number 2
  if n < bound then return n else failure

/-- Hours and minutes, in minutes. -/
def minutes : Reader Nat := do
  let hour ← below 24
  char ':'
  let minute ← below 60
  return 60 * hour + minute

/-- A time of day, in microseconds. -/
def time : Reader Nat := do
  let minute ← minutes
  char ':'
  let second ← below 60
  let micros ← fraction
  return (60 * minute + second) * 1000000 + micros

/-- A date and a time with an offset. -/
def datetime : Reader Int := do
  let d ← date
  char 'T'
  let t ← time
  let direction ← sign
  let offset ← minutes
  return d.toDays * microsOfDay + t - direction * offset * 60000000

/-- What the whole text says. -/
def whole {α : Type} (r : Reader α) (cs : List Char) : Option α :=
  match r cs with
  | some (a, []) => some a
  | _ => none

end Reader

/-- `date.fromisoformat(text)` of a text of ten characters, as a number of days. -/
def dateFromIsoFormat (text : String) : Option Int := (Reader.date.whole text.toList).map CivilDate.toDays

/-- `datetime.fromisoformat(text)`, of the texts that `isoformat` writes. -/
def fromIsoFormat (text : String) : Option Instant :=
  (Reader.datetime.whole text.toList).bind fun t =>
    if h : (CivilDate.ofDays (t / microsOfDay)).Exists then some ⟨t, h⟩ else none

/-! ## Replacing -/

/-- What is left to read after `skip` characters, with the occurrences of `old` replaced by `new`. -/
def replaceFrom (old new : List Char) : Nat → List Char → List Char
  | _, [] => []
  | skip + 1, _ :: cs => replaceFrom old new skip cs
  | 0, c :: cs =>
    if old.isPrefixOf (c :: cs) then new ++ replaceFrom old new (old.length - 1) cs
    else c :: replaceFrom old new 0 cs

/-- `text.replace(old, new)`, where `old` is not empty. -/
def replace (text old new : String) : String :=
  String.ofList (replaceFrom old.toList new.toList 0 text.toList)

end DiddiGo.Data
