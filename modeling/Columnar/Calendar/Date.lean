import Columnar.Text.Numeral

/-!
Dates of the proleptic Gregorian calendar, from year -262143 to year 262142.

A date carries the proof that it exists. `Date.day` numbers the dates, with 0 for 1970-01-01, and
`Date.ofDay?` goes back; `Date.text` is the written form.
-/

namespace Columnar.Calendar

/-! ### Months -/

/-- Years with a 29th of February. -/
def isLeapYear (year : Int) : Bool :=
  year % 4 == 0 && (year % 100 != 0 || year % 400 == 0)

/-- The number of days of a month; no days in a month that does not exist. -/
def daysInMonth (year : Int) : Nat → Nat
  | 1 | 3 | 5 | 7 | 8 | 10 | 12 => 31
  | 4 | 6 | 9 | 11 => 30
  | 2 => if isLeapYear year then 29 else 28
  | _ => 0

theorem month_bounds {year : Int} {month day : Nat} (h : 1 ≤ day)
    (hd : day ≤ daysInMonth year month) : 1 ≤ month ∧ month ≤ 12 ∧ day ≤ 31 := by
  have hfeb : (if isLeapYear year then 29 else 28) ≤ 29 := by split <;> decide
  unfold daysInMonth at hd
  split at hd <;> omega

/-- The first year with dates. -/
def firstYear : Int := -262143

/-- The last year with dates. -/
def lastYear : Int := 262142

/-- Whether a year, a month and a day of the month make a date. -/
def IsDate (year : Int) (month day : Nat) : Prop :=
  firstYear ≤ year ∧ year ≤ lastYear ∧ 1 ≤ day ∧ day ≤ daysInMonth year month

instance (year : Int) (month day : Nat) : Decidable (IsDate year month day) := by
  unfold IsDate; infer_instance

/-! ### Dates -/

/-- A date that exists. -/
structure Date where
  year : Int
  month : Nat
  dayOfMonth : Nat
  isDate : IsDate year month dayOfMonth
  deriving DecidableEq

/-- The date with the given parts, if it exists. -/
def Date.of? (year : Int) (month day : Nat) : Option Date :=
  if h : IsDate year month day then some ⟨year, month, day, h⟩ else none

/-- The first of January 1970, from which days and seconds are counted. -/
def Date.epoch : Date := ⟨1970, 1, 1, by decide⟩

instance : Inhabited Date := ⟨Date.epoch⟩

/-! ### Counting days -/

/-- The number of days before the first day of a month, in a year that begins in March. -/
def daysBeforeMonth (month : Nat) : Int :=
  (153 * ((month + 9) % 12 : Nat) + 2) / 5

/-- The number of a date given by its parts; the years are counted from March on. -/
def dayNumber (year : Int) (month day : Nat) : Int :=
  let y := if month ≤ 2 then year - 1 else year
  365 * y + y / 4 - y / 100 + y / 400 + daysBeforeMonth month + day - 719469

/-- The number of the date, 0 for the epoch. -/
def Date.day (d : Date) : Int :=
  dayNumber d.year d.month d.dayOfMonth

/-- Year, month and day of the month of the date with the given number. -/
def partsOfDay (n : Int) : Int × Nat × Nat :=
  let n := n + 719468
  let era := n / 146097
  let dayOfEra := n % 146097
  let yearOfEra := (dayOfEra - dayOfEra / 1460 + dayOfEra / 36524 - dayOfEra / 146096) / 365
  let dayOfYear := dayOfEra - (365 * yearOfEra + yearOfEra / 4 - yearOfEra / 100)
  let fromMarch := (5 * dayOfYear + 2) / 153
  let day := dayOfYear - (153 * fromMarch + 2) / 5 + 1
  let month := if fromMarch < 10 then fromMarch + 3 else fromMarch - 9
  let year := yearOfEra + 400 * era + (if month ≤ 2 then 1 else 0)
  (year, month.toNat, day.toNat)

/-- The date with the given number, if it lies in the supported years. -/
def Date.ofDay? (n : Int) : Option Date :=
  let (year, month, day) := partsOfDay n
  Date.of? year month day

/-- The day of the week of the date with the given number, 0 for Sunday. -/
def weekday (n : Int) : Int :=
  (n + 4) % 7

/-! ### Writing -/

/-- Four digits for the years 0 to 9999; a sign and at least four digits for the others. -/
def yearText (year : Int) : String :=
  if 0 ≤ year && year ≤ 9999 then Text.padded 4 year.toNat
  else (if year < 0 then "-" else "+") ++ Text.padded 4 year.natAbs

/-- The written form, as in `2024-02-29`. -/
def Date.text (d : Date) : String :=
  yearText d.year ++ "-" ++ Text.padded 2 d.month ++ "-" ++ Text.padded 2 d.dayOfMonth

end Columnar.Calendar
