/-
**UTC instants, calendar dates and their ISO 8601 text.**

An aware UTC datetime is a number of microseconds since `0001-01-01T00:00:00`, below the end of
year `9999`; a date is a number of days since the same origin. Order, date and time of day are
then plain arithmetic.

* `yearDay` splits a day number into a year and a day of the year by periods of 400, 100, 4 and 1
  years; `daysBeforeYear_yearDay` puts it back together.
* `place` walks a list of month lengths; `place_sum` puts the month and the day back together.
* `UtcTime.isoformat` is the text `YYYY-MM-DDTHH:MM:SS[.ffffff]+00:00`, the fraction left out when
  it is zero.
* `IsoReader` — a reader of timestamps, of which only one thing is asked: it undoes `isoformat`.
  What it does on other text is left open, since that depends on the language's version.
  `IsoReader.strict` is the reader that accepts nothing else.
-/

import Mathlib.Order.Lattice
import Mathlib.Tactic.IntervalCases

namespace ScreenSync.Foundation

/-! ### Instants and dates -/

/-- Microseconds in a day. -/
def dayMicros : Nat := 86400000000

/-- Days from `0001-01-01` to the end of `9999-12-31`. -/
def calendarDays : Nat := 3652059

/-- A calendar date: days since `0001-01-01`. -/
structure Date where
  days : Nat
  inRange : days < calendarDays
  deriving DecidableEq

/-- An aware UTC datetime: microseconds since `0001-01-01T00:00:00`. -/
structure UtcTime where
  micros : Nat
  inRange : micros < calendarDays * dayMicros
  deriving DecidableEq

/-- `time(hour, minute)`; a time of day is its number of microseconds since midnight. -/
def timeOfDay (hour minute : Nat) : Nat := (60 * hour + minute) * 60000000

namespace UtcTime

theorem micros_injective : Function.Injective UtcTime.micros := by
  rintro ⟨first, _⟩ ⟨second, _⟩ same
  cases same
  rfl

instance : LinearOrder UtcTime := LinearOrder.lift' UtcTime.micros micros_injective

/-- `datetime.min` in UTC. -/
def min : UtcTime := ⟨0, by decide⟩

/-- The calendar date of an instant. -/
def date (t : UtcTime) : Date :=
  ⟨t.micros / dayMicros, Nat.div_lt_of_lt_mul (by rw [Nat.mul_comm]; exact t.inRange)⟩

/-- The time of day of an instant. -/
def time (t : UtcTime) : Nat := t.micros % dayMicros

/-- Midnight at the start of a date. -/
def midnight (d : Date) : UtcTime :=
  ⟨d.days * dayMicros, Nat.mul_lt_mul_of_pos_right d.inRange (by decide)⟩

end UtcTime

/-! ### The calendar -/

/-- The days in the years before the year with this zero-based number. -/
def daysBeforeYear (years : Nat) : Nat := 365 * years + years / 4 - years / 100 + years / 400

/-- Whether the year with this zero-based number is a leap year. -/
def isLeap (years : Nat) : Bool :=
  (years + 1) % 4 == 0 && ((years + 1) % 100 != 0 || (years + 1) % 400 == 0)

/-- The zero-based year of a day, and the day's zero-based number in it. -/
def yearDay (days : Nat) : Nat × Nat :=
  let n400 := days / 146097
  let n100 := days % 146097 / 36524
  let n4 := days % 146097 % 36524 / 1461
  let n1 := days % 146097 % 36524 % 1461 / 365
  -- the last day of a leap cycle falls out of the periods and belongs to the year before
  if n1 = 4 ∨ n100 = 4 then (400 * n400 + 100 * n100 + 4 * n4 + n1 - 1, 365)
  else (400 * n400 + 100 * n100 + 4 * n4 + n1, days % 146097 % 36524 % 1461 % 365)

theorem daysBeforeYear_digits {a b c d : Nat} (century : b ≤ 3) (cycle : c ≤ 24) (rest : d ≤ 3) :
    daysBeforeYear (400 * a + 100 * b + 4 * c + d) =
      146097 * a + 36524 * b + 1461 * c + 365 * d := by
  have fours : (400 * a + 100 * b + 4 * c + d) / 4 = 100 * a + 25 * b + c := by omega
  have hundreds : (400 * a + 100 * b + 4 * c + d) / 100 = 4 * a + b := by omega
  have eras : (400 * a + 100 * b + 4 * c + d) / 400 = a := by omega
  rw [daysBeforeYear, fours, hundreds, eras]
  omega

/-- **The year and the day of the year give the day back.** -/
theorem daysBeforeYear_yearDay (days : Nat) :
    daysBeforeYear (yearDay days).1 + (yearDay days).2 = days := by
  have cycle : days % 146097 % 36524 / 1461 ≤ 24 := by omega
  simp only [yearDay]
  by_cases fourth : days % 146097 / 36524 = 4
  · -- the last day of 400 years: the smaller periods are empty
    have tail : days % 146097 % 36524 = 0 := by omega
    have year := daysBeforeYear_digits (a := days / 146097) (b := 3) (c := 24) (d := 3)
      le_rfl le_rfl le_rfl
    have same : 400 * (days / 146097) + 100 * 4 + 4 * (0 / 1461) + 0 % 1461 / 365 - 1 =
      400 * (days / 146097) + 100 * 3 + 4 * 24 + 3 := by omega
    rw [if_pos (Or.inr fourth), fourth, tail, same]
    simp only [year]
    omega
  · have century : days % 146097 / 36524 ≤ 3 := by omega
    by_cases leapEnd : days % 146097 % 36524 % 1461 / 365 = 4
    · have year := daysBeforeYear_digits (a := days / 146097) (d := 3) century cycle le_rfl
      have same : 400 * (days / 146097) + 100 * (days % 146097 / 36524) +
          4 * (days % 146097 % 36524 / 1461) + 4 - 1 = 400 * (days / 146097) +
          100 * (days % 146097 / 36524) + 4 * (days % 146097 % 36524 / 1461) + 3 := by omega
      rw [if_pos (Or.inl leapEnd), leapEnd, same]
      simp only [year]
      omega
    · have year := daysBeforeYear_digits (a := days / 146097) century cycle
        (show days % 146097 % 36524 % 1461 / 365 ≤ 3 by omega)
      rw [if_neg (by simp [leapEnd, fourth])]
      simp only [year]
      omega

theorem yearDay_lt (days : Nat) :
    (yearDay days).2 < if isLeap (yearDay days).1 then 366 else 365 := by
  simp only [yearDay]
  split
  · rename_i last
    have leap : isLeap (400 * (days / 146097) + 100 * (days % 146097 / 36524) +
        4 * (days % 146097 % 36524 / 1461) + days % 146097 % 36524 % 1461 / 365 - 1) = true := by
      simp only [isLeap, Bool.and_eq_true, Bool.or_eq_true, beq_iff_eq, bne_iff_ne]
      omega
    simp [leap]
  · split <;> omega

theorem yearDay_year_lt {days : Nat} (inRange : days < calendarDays) : (yearDay days).1 < 9999 := by
  have whole := daysBeforeYear_yearDay days
  simp only [daysBeforeYear, calendarDays] at whole inRange
  omega

/-- The lengths of a year's months. -/
def monthLengths (leap : Bool) : List Nat :=
  [31, if leap then 29 else 28, 31, 30, 31, 30, 31, 31, 30, 31, 30, 31]

/-- The zero-based period a day falls in, and its zero-based number there. -/
def place : List Nat → Nat → Nat × Nat
  | [], day => (0, day)
  | length :: later, day =>
    if day < length then (0, day)
    else ((place later (day - length)).1 + 1, (place later (day - length)).2)

/-- **The period and the day in it give the day back.** -/
theorem place_sum (lengths : List Nat) (day : Nat) :
    (lengths.take (place lengths day).1).sum + (place lengths day).2 = day := by
  induction lengths generalizing day with
  | nil => simp [place]
  | cons length later ih =>
    rw [place]
    split
    · simp
    · rename_i beyond
      have rest := ih (day - length)
      simp only [List.take_succ_cons, List.sum_cons]
      omega

theorem place_lt (lengths : List Nat) {day bound : Nat} (inside : day < lengths.sum)
    (bounded : ∀ length ∈ lengths, length ≤ bound) :
    (place lengths day).1 < lengths.length ∧ (place lengths day).2 < bound := by
  induction lengths generalizing day with
  | nil => simp at inside
  | cons length later ih =>
    rw [place]
    have first : length ≤ bound := bounded length List.mem_cons_self
    split
    · simp only [List.length_cons]
      omega
    · rw [List.sum_cons] at inside
      have rest := ih (show day - length < later.sum by omega)
        fun other member => bounded other (List.mem_cons_of_mem _ member)
      simp only [List.length_cons]
      omega

namespace Date

/-- The zero-based year. -/
def year (d : Date) : Nat := (yearDay d.days).1

/-- The zero-based month, and the zero-based day in it. -/
def monthDay (d : Date) : Nat × Nat := place (monthLengths (isLeap d.year)) (yearDay d.days).2

/-- The number of the day with these zero-based year, month and day. -/
def ofCivil (year month day : Nat) : Nat :=
  daysBeforeYear year + (((monthLengths (isLeap year)).take month).sum + day)

theorem ofCivil_civil (d : Date) : ofCivil d.year d.monthDay.1 d.monthDay.2 = d.days := by
  rw [ofCivil, monthDay, place_sum]
  exact daysBeforeYear_yearDay d.days

theorem monthDay_lt (d : Date) : d.monthDay.1 < 12 ∧ d.monthDay.2 < 31 := by
  have inside := yearDay_lt d.days
  refine place_lt (monthLengths (isLeap d.year)) ?_ ?_
  · rw [year]
    cases leap : isLeap (yearDay d.days).1 <;> rw [leap] at inside <;> exact inside
  · cases leap : isLeap d.year <;> decide

end Date

/-! ### Decimal digits -/

/-- The last `width` decimal digits of a number. -/
def digits : Nat → Nat → List Char
  | 0, _ => []
  | width + 1, n => digits width (n / 10) ++ [Char.ofNat (48 + n % 10)]

/-- The number a list of decimal digits stands for. -/
def readDigits (text : List Char) : Nat :=
  text.foldl (fun number digit => 10 * number + (digit.toNat - 48)) 0

theorem readDigits_digits (width n : Nat) (fits : n < 10 ^ width) :
    readDigits (digits width n) = n := by
  induction width generalizing n with
  | zero =>
    have zero : n = 0 := by simpa using fits
    rw [zero]
    rfl
  | succ width ih =>
    have last : (Char.ofNat (48 + n % 10)).toNat = 48 + n % 10 := by
      have small : n % 10 < 10 := Nat.mod_lt _ (by decide)
      generalize n % 10 = digit at small
      interval_cases digit <;> rfl
    have rest : readDigits (digits width (n / 10)) = n / 10 :=
      ih (n / 10) (by rw [pow_succ] at fits; omega)
    rw [readDigits] at rest
    rw [readDigits, digits, List.foldl_append, rest]
    simp only [List.foldl_cons, List.foldl_nil, last]
    omega

/-! ### ISO 8601 text -/

/-- `HH:MM:SS[.ffffff]` of a time of day. -/
def isoTime (t : Nat) : List Char :=
  digits 2 (t / 3600000000) ++ ':' :: digits 2 (t / 60000000 % 60) ++
    ':' :: digits 2 (t / 1000000 % 60) ++
    if t % 1000000 = 0 then [] else '.' :: digits 6 (t % 1000000)

/-- `YYYY-MM-DD` of a date. -/
def isoDate (d : Date) : List Char :=
  digits 4 (d.year + 1) ++ '-' :: digits 2 (d.monthDay.1 + 1) ++ '-' :: digits 2 (d.monthDay.2 + 1)

/-- `date.isoformat()`. -/
def Date.isoformat (d : Date) : String := String.ofList (isoDate d)

/-- `str(time)`. -/
def timeText (t : Nat) : String := String.ofList (isoTime t)

/-- The characters of an aware UTC datetime's text. -/
def UtcTime.isoChars (t : UtcTime) : List Char :=
  isoDate t.date ++ 'T' :: (isoTime t.time ++ "+00:00".toList)

/-- `datetime.isoformat()` of an aware UTC datetime. -/
def UtcTime.isoformat (t : UtcTime) : String := String.ofList t.isoChars

/-- The number in `width` columns of a text. -/
def column (text : List Char) (start width : Nat) : Nat :=
  readDigits ((text.drop start).take width)

/-- The microseconds a timestamp's columns stand for. -/
def readMicros (text : List Char) : Nat :=
  Date.ofCivil (column text 0 4 - 1) (column text 5 2 - 1) (column text 8 2 - 1) * dayMicros +
    (column text 11 2 * 3600000000 + column text 14 2 * 60000000 + column text 17 2 * 1000000 +
      if text[19]? = some '.' then column text 20 6 else 0)

theorem readMicros_isoformat (t : UtcTime) : readMicros t.isoformat.toList = t.micros := by
  have years : t.date.year < 9999 := yearDay_year_lt t.date.inRange
  have months := t.date.monthDay_lt
  have clock : t.time < dayMicros := Nat.mod_lt _ (by decide)
  have whole : t.micros = t.date.days * dayMicros + t.time :=
    (Nat.div_add_mod' t.micros dayMicros).symm
  simp only [dayMicros] at clock
  rw [UtcTime.isoformat, String.toList_ofList]
  -- every column of the text is, by computation, a fixed number of digits of one field
  have year : column t.isoChars 0 4 = t.date.year + 1 :=
    readDigits_digits 4 (t.date.year + 1) (by omega)
  have month : column t.isoChars 5 2 = t.date.monthDay.1 + 1 :=
    readDigits_digits 2 (t.date.monthDay.1 + 1) (by omega)
  have day : column t.isoChars 8 2 = t.date.monthDay.2 + 1 :=
    readDigits_digits 2 (t.date.monthDay.2 + 1) (by omega)
  have hour : column t.isoChars 11 2 = t.time / 3600000000 :=
    readDigits_digits 2 (t.time / 3600000000) (by omega)
  have minute : column t.isoChars 14 2 = t.time / 60000000 % 60 :=
    readDigits_digits 2 (t.time / 60000000 % 60) (by omega)
  have second : column t.isoChars 17 2 = t.time / 1000000 % 60 :=
    readDigits_digits 2 (t.time / 1000000 % 60) (by omega)
  have fraction : (if t.isoChars[19]? = some '.' then column t.isoChars 20 6 else 0) =
      t.time % 1000000 := by
    by_cases zero : t.time % 1000000 = 0
    · have absent : t.isoChars[19]? = some '+' := by
        rw [UtcTime.isoChars, isoTime, if_pos zero]
        rfl
      rw [absent, zero]
      rfl
    · have present : t.isoChars[19]? = some '.' := by
        rw [UtcTime.isoChars, isoTime, if_neg zero]
        rfl
      rw [if_pos present, UtcTime.isoChars, isoTime, if_neg zero]
      exact readDigits_digits 6 (t.time % 1000000) (by omega)
  rw [readMicros, year, month, day, hour, minute, second, fraction]
  simp only [Nat.add_sub_cancel, Date.ofCivil_civil]
  omega

/-- **Different instants have different texts.** -/
theorem UtcTime.isoformat_injective : Function.Injective UtcTime.isoformat := by
  intro first second same
  refine UtcTime.micros_injective ?_
  rw [← readMicros_isoformat first, ← readMicros_isoformat second, same]

theorem UtcTime.isoformat_ne_empty (t : UtcTime) : t.isoformat ≠ "" := by
  intro empty
  have chars : t.isoChars = [] := by
    rw [← String.toList_ofList (l := t.isoChars), ← UtcTime.isoformat, empty]
    rfl
  rw [UtcTime.isoChars] at chars
  cases (List.append_eq_nil_iff.mp chars).2

/-- What a timestamp's text says: an instant, a time without an offset, or nothing that is read. -/
inductive ReadIso
  | aware (t : UtcTime)
  | naive
  | refused

/-- A reader of timestamps that undoes `isoformat`. -/
structure IsoReader where
  fromisoformat : String → ReadIso
  fromisoformat_isoformat : ∀ t : UtcTime, fromisoformat t.isoformat = .aware t

/-- The reader that accepts what `isoformat` writes, and nothing else. -/
def IsoReader.strict : IsoReader where
  fromisoformat text :=
    if inRange : readMicros text.toList < calendarDays * dayMicros then
      let t : UtcTime := ⟨readMicros text.toList, inRange⟩
      if t.isoformat = text then .aware t else .refused
    else .refused
  fromisoformat_isoformat t := by
    have read := readMicros_isoformat t
    have back : (⟨readMicros t.isoformat.toList, read ▸ t.inRange⟩ : UtcTime) = t :=
      UtcTime.micros_injective read
    rw [dif_pos (read ▸ t.inRange)]
    simp only [back, if_true]

example : (UtcTime.mk (738000 * dayMicros + timeOfDay 9 30 + 250) (by decide)).isoformat =
    "2021-07-30T09:30:00.000250+00:00" := by decide

end ScreenSync.Foundation
