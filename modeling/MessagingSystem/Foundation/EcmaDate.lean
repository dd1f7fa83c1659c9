import Mathlib.Algebra.Group.Nat.Defs
import Mathlib.Data.List.Basic

/-!
# ECMAScript dates

`Date.prototype.toISOString` for a time at or after the epoch, through the
proleptic Gregorian calendar: days are counted in eras of 400 years that start
on the first of March. `parseISOString` reads such a text back.
-/
namespace MessagingSystem.Foundation.EcmaDate

def padded (width n : Nat) : String :=
  let digits := toString n
  String.ofList (List.replicate (width - digits.length) '0') ++ digits

/-- Year, month and day of the given number of days since 1970-01-01. -/
def civilFromDays (days : Nat) : Nat × Nat × Nat :=
  let z := days + 719468
  let era := z / 146097
  let doe := z % 146097
  let yoe := (doe - doe / 1460 + doe / 36524 - doe / 146096) / 365
  let doy := doe - (365 * yoe + yoe / 4 - yoe / 100)
  let mp := (5 * doy + 2) / 153
  let day := doy - (153 * mp + 2) / 5 + 1
  let month := if mp < 10 then mp + 3 else mp - 9
  let year := yoe + era * 400 + (if month ≤ 2 then 1 else 0)
  (year, month, day)

/-- `new Date(ms).toISOString()`. -/
def toISOString (ms : Nat) : String :=
  let (year, month, day) := civilFromDays (ms / 86400000)
  let rest := ms % 86400000
  let yearText := if year ≤ 9999 then padded 4 year else "+" ++ padded 6 year
  yearText ++ "-" ++ padded 2 month ++ "-" ++ padded 2 day ++ "T" ++
    padded 2 (rest / 3600000) ++ ":" ++ padded 2 (rest / 60000 % 60) ++ ":" ++
    padded 2 (rest / 1000 % 60) ++ "." ++ padded 3 (rest % 1000) ++ "Z"

theorem mem_toISOString (ms : Nat) : 'Z' ∈ (toISOString ms).toList := by
  unfold toISOString
  obtain ⟨year, month, day⟩ := civilFromDays (ms / 86400000)
  dsimp only
  rw [String.toList_append, List.mem_append]
  right
  decide

example : toISOString 1767225600123 = "2026-01-01T00:00:00.123Z" := by decide

section Parse

/-- The days from 1970-01-01 to a date. -/
def daysFromCivil (year month day : Nat) : Nat :=
  let y := if month ≤ 2 then year - 1 else year
  let yoe := y % 400
  let mp := if month ≤ 2 then month + 9 else month - 3
  let doy := (153 * mp + 2) / 5 + day - 1
  let doe := 365 * yoe + yoe / 4 - yoe / 100 + doy
  y / 400 * 146097 + doe - 719468

/-- A number of exactly `width` digits. -/
def readDigits (width : Nat) (cs : List Char) : Option (Nat × List Char) :=
  if (cs.take width).length = width ∧ (cs.take width).all Char.isDigit then
    some (Nat.ofDigitChars 10 (cs.take width) 0, cs.drop width)
  else none

def readYear (cs : List Char) : Option (Nat × List Char) :=
  if cs.head? = some '+' then readDigits 6 cs.tail else readDigits 4 cs

/-- Fields of a mark and a width each, up to the final `Z`. -/
def readFields : List (Char × Nat) → List Char → Option (List Nat)
  | [], cs => if cs = ['Z'] then some [] else none
  | _ :: _, [] => none
  | (mark, width) :: rest, c :: cs =>
      if c = mark then
        (readDigits width cs).bind fun read => (readFields rest read.2).map fun ns => read.1 :: ns
      else none

def isoFields : List (Char × Nat) := [('-', 2), ('-', 2), ('T', 2), (':', 2), (':', 2), ('.', 3)]

def timeOfFields (year : Nat) : List Nat → Option Nat
  | [month, day, hour, minute, second, ms] =>
      some (daysFromCivil year month day * 86400000 + hour * 3600000 + minute * 60000 +
        second * 1000 + ms)
  | _ => none

/-- The time of a text as `toISOString` writes it. -/
def parseISOString (s : String) : Option Nat :=
  (readYear s.toList).bind fun read =>
    ((readFields isoFields read.2).bind (timeOfFields read.1)).filter fun ms => toISOString ms = s

/-- The latest time of a `Date`. -/
def maxTime : Nat := 8640000000000000

end Parse

section RoundTrip

/-- The year of the era and the day of the year, for each century of the era. -/
theorem year_of_era {doe yoe : Nat} (inside : doe < 146097)
    (year : yoe = (doe - doe / 1460 + doe / 36524 - doe / 146096) / 365) :
    365 * yoe + yoe / 4 - yoe / 100 ≤ doe ∧ doe - (365 * yoe + yoe / 4 - yoe / 100) ≤ 365 := by
  rcases Nat.lt_or_ge doe 146096 with early | last
  · have century : doe / 36524 = 0 ∨ doe / 36524 = 1 ∨ doe / 36524 = 2 ∨ doe / 36524 = 3 := by omega
    have none : doe / 146096 = 0 := by omega
    obtain ⟨b, w, short, days⟩ : ∃ b w, w < 1460 ∧ doe = 1460 * b + w :=
      ⟨doe / 1460, doe % 1460, by omega, by omega⟩
    obtain ⟨c, y, short', years⟩ : ∃ c y, y < 4 ∧ yoe = 4 * c + y := ⟨yoe / 4, yoe % 4, by omega, by omega⟩
    have fourYears : doe / 1460 = b := by omega
    have leaps : yoe / 4 = c := by omega
    rw [none, fourYears] at year
    rcases century with k | k | k | k <;> rw [k] at year
    all_goals
      have near : c = b ∨ c + 1 = b := by omega
      have centuries : yoe / 100 = doe / 36524 := by rcases near with rfl | rfl <;> omega
      rw [leaps, centuries, k]
      rcases near with rfl | rfl <;> omega
  · have lastDay : doe = 146096 := by omega
    have lastYear : yoe = 399 := by omega
    omega

/-- The date of a day number tells it. -/
theorem daysFromCivil_civilFromDays (days : Nat) :
    daysFromCivil (civilFromDays days).1 (civilFromDays days).2.1 (civilFromDays days).2.2 = days ∧
      (civilFromDays days).2.1 ≤ 12 ∧ (civilFromDays days).2.2 ≤ 31 ∧
      (civilFromDays days).1 ≤ 400 * ((days + 719468) / 146097) + 400 := by
  unfold civilFromDays daysFromCivil
  obtain ⟨doe, era, inside, split⟩ : ∃ doe era, doe < 146097 ∧ days + 719468 = 146097 * era + doe :=
    ⟨(days + 719468) % 146097, (days + 719468) / 146097, by omega, by omega⟩
  have eraEq : (days + 719468) / 146097 = era := by omega
  have doeEq : (days + 719468) % 146097 = doe := by omega
  simp only [eraEq, doeEq]
  obtain ⟨yoe, year⟩ : ∃ yoe, yoe = (doe - doe / 1460 + doe / 36524 - doe / 146096) / 365 := ⟨_, rfl⟩
  obtain ⟨below, doyBound⟩ := year_of_era inside year
  have yoeBound : yoe < 400 := by omega
  rw [← year]
  obtain ⟨doy, doyEq⟩ : ∃ doy, doy = doe - (365 * yoe + yoe / 4 - yoe / 100) := ⟨_, rfl⟩
  rw [← doyEq]
  obtain ⟨mp, mpEq⟩ : ∃ mp, mp = (5 * doy + 2) / 153 := ⟨_, rfl⟩
  have mpBound : mp ≤ 11 := by omega
  have monthStart : (153 * mp + 2) / 5 ≤ doy := by omega
  rw [← mpEq]
  rcases Nat.lt_or_ge mp 10 with spring | winter
  · have late : ¬ mp + 3 ≤ 2 := by omega
    simp only [spring, if_true, late, if_false]
    have yearMod : (yoe + era * 400 + 0) % 400 = yoe := by omega
    have yearDiv : (yoe + era * 400 + 0) / 400 = era := by omega
    have mpBack : mp + 3 - 3 = mp := by omega
    rw [yearMod, yearDiv, mpBack]
    refine ⟨?_, ?_, ?_, ?_⟩ <;> omega
  · have notSpring : ¬ mp < 10 := by omega
    have early : mp - 9 ≤ 2 := by omega
    simp only [notSpring, if_false, early, if_true]
    have yearMod : (yoe + era * 400 + 1 - 1) % 400 = yoe := by omega
    have yearDiv : (yoe + era * 400 + 1 - 1) / 400 = era := by omega
    have mpBack : mp - 9 + 9 = mp := by omega
    rw [yearMod, yearDiv, mpBack]
    refine ⟨?_, ?_, ?_, ?_⟩ <;> omega

theorem readDigits_padded {width n : Nat} (positive : 0 < width) (small : n < 10 ^ width)
    (rest : List Char) : readDigits width ((padded width n).toList ++ rest) = some (n, rest) := by
  have short : (Nat.toDigits 10 n).length ≤ width :=
    (Nat.length_toDigits_le_iff (by decide) positive).mpr small
  have text : (padded width n).toList =
      List.replicate (width - (Nat.toDigits 10 n).length) '0' ++ Nat.toDigits 10 n := by
    unfold padded
    rw [Nat.toString_eq_ofList_toDigits]
    simp only [String.toList_append, String.toList_ofList, String.length_ofList]
  have length : (padded width n).toList.length = width := by
    rw [text, List.length_append, List.length_replicate]
    omega
  have digits : (padded width n).toList.all Char.isDigit = true := by
    rw [text, List.all_append, Bool.and_eq_true]
    refine ⟨by simp, List.all_eq_true.mpr fun c member => ?_⟩
    exact Nat.isDigit_of_mem_toDigits (by decide) (by decide) member
  have value : Nat.ofDigitChars 10 (padded width n).toList 0 = n := by
    rw [text, Nat.ofDigitChars_append, Nat.ofDigitChars_replicate_zero, Nat.mul_zero,
      Nat.ofDigitChars_ten_toDigits]
  unfold readDigits
  rw [List.take_left' length, List.drop_left' length, if_pos ⟨length, digits⟩, value]

theorem head_padded {width n : Nat} (positive : 0 < width) (small : n < 10 ^ width) (rest : List Char) :
    ((padded width n).toList ++ rest).head? ≠ some '+' := by
  intro plus
  have read := readDigits_padded positive small rest
  unfold readDigits at read
  split at read
  · rename_i shape
    obtain ⟨k, rfl⟩ : ∃ k, width = k + 1 := ⟨width - 1, by omega⟩
    cases text : (padded (k + 1) n).toList ++ rest with
    | nil => rw [text] at plus; cases plus
    | cons c cs =>
      rw [text] at plus shape
      cases plus
      simp at shape
  · cases read

/-- The year of a valid date, in four digits or signed and in six. -/
theorem readYear_text {year : Nat} (small : year < 1000000) (rest : List Char) :
    readYear ((if year ≤ 9999 then padded 4 year else "+" ++ padded 6 year).toList ++ rest) =
      some (year, rest) := by
  have six : readDigits 6 ((padded 6 year).toList ++ rest) = some (year, rest) :=
    readDigits_padded (Nat.succ_pos 5) small rest
  by_cases short : year ≤ 9999
  · have below : year < 10 ^ 4 := Nat.lt_succ_of_le short
    have plain : ((padded 4 year).toList ++ rest).head? ≠ some '+' :=
      head_padded (Nat.succ_pos 3) below rest
    rw [if_pos short, readYear, if_neg plain]
    exact readDigits_padded (Nat.succ_pos 3) below rest
  · rw [if_neg short, String.toList_append, show "+".toList = ['+'] from rfl, List.append_assoc,
      List.singleton_append, readYear, List.head?_cons, if_pos rfl]
    exact six

theorem readFields_cons {mark : Char} {width n : Nat} (positive : 0 < width) (small : n < 10 ^ width)
    (fields : List (Char × Nat)) (rest : List Char) :
    readFields ((mark, width) :: fields) (mark :: ((padded width n).toList ++ rest)) =
      (readFields fields rest).map fun ns => n :: ns := by
  simp [readFields, readDigits_padded positive small]

/-- The text of a time, field by field. -/
theorem toISOString_text {ms year month day : Nat} (date : civilFromDays (ms / 86400000) = (year, month, day)) :
    (toISOString ms).toList =
      (if year ≤ 9999 then padded 4 year else "+" ++ padded 6 year).toList ++
        '-' :: ((padded 2 month).toList ++ '-' :: ((padded 2 day).toList ++
          'T' :: ((padded 2 (ms % 86400000 / 3600000)).toList ++
            ':' :: ((padded 2 (ms % 86400000 / 60000 % 60)).toList ++
              ':' :: ((padded 2 (ms % 86400000 / 1000 % 60)).toList ++
                '.' :: ((padded 3 (ms % 86400000 % 1000)).toList ++ ['Z'])))))) := by
  unfold toISOString
  rw [date]
  simp only [String.toList_append, List.append_assoc, show "-".toList = ['-'] from rfl,
    show "T".toList = ['T'] from rfl, show ":".toList = [':'] from rfl,
    show ".".toList = ['.'] from rfl, show "Z".toList = ['Z'] from rfl, List.cons_append, List.nil_append]

/-- A valid date is read back from its text. -/
theorem parseISOString_toISOString {ms : Nat} (valid : ms ≤ maxTime) :
    parseISOString (toISOString ms) = some ms := by
  obtain ⟨inverse, months, days, years⟩ := daysFromCivil_civilFromDays (ms / 86400000)
  obtain ⟨year, month, day, date⟩ : ∃ year month day, civilFromDays (ms / 86400000) = (year, month, day) :=
    ⟨_, _, _, rfl⟩
  rw [date] at inverse months days years
  dsimp only at inverse months days years
  unfold maxTime at valid
  have small : year < 1000000 := by omega
  have fields : readFields isoFields
      ('-' :: ((padded 2 month).toList ++ '-' :: ((padded 2 day).toList ++
          'T' :: ((padded 2 (ms % 86400000 / 3600000)).toList ++
            ':' :: ((padded 2 (ms % 86400000 / 60000 % 60)).toList ++
              ':' :: ((padded 2 (ms % 86400000 / 1000 % 60)).toList ++
                '.' :: ((padded 3 (ms % 86400000 % 1000)).toList ++ ['Z'])))))) ) =
      some [month, day, ms % 86400000 / 3600000, ms % 86400000 / 60000 % 60,
        ms % 86400000 / 1000 % 60, ms % 86400000 % 1000] := by
    unfold isoFields
    have two {n : Nat} (h : n < 100) : n < 10 ^ 2 := h
    have three : ms % 86400000 % 1000 < 10 ^ 3 := Nat.mod_lt _ (Nat.succ_pos 999)
    rw [readFields_cons (Nat.succ_pos 1) (two (by omega)), readFields_cons (Nat.succ_pos 1) (two (by omega)),
      readFields_cons (Nat.succ_pos 1) (two (by omega)), readFields_cons (Nat.succ_pos 1) (two (by omega)),
      readFields_cons (Nat.succ_pos 1) (two (by omega)), readFields_cons (Nat.succ_pos 2) three]
    rfl
  unfold parseISOString
  rw [toISOString_text date, readYear_text small, Option.bind_some, fields, Option.bind_some]
  have time : timeOfFields year [month, day, ms % 86400000 / 3600000, ms % 86400000 / 60000 % 60,
      ms % 86400000 / 1000 % 60, ms % 86400000 % 1000] = some ms := by
    refine congrArg some ?_
    rw [inverse]
    omega
  rw [time]
  simp [Option.filter]

end RoundTrip

end MessagingSystem.Foundation.EcmaDate
