import Columnar.Calendar.Date

/-!
Points in time, in seconds since the beginning of 1970 (UTC) and nanoseconds.

A moment carries the proof that it lies in the supported years. Within a leap second, which ends a
minute, the seconds stay those of the second before, and the nanoseconds go on from 10^9 up to
2 · 10^9.
-/

namespace Columnar.Calendar

/-- The seconds of a day. -/
def secondsPerDay : Int := 86400

/-- The first second of the supported years. -/
def firstSecond : Int := -8334601228800

/-- The last second of the supported years. -/
def lastSecond : Int := 8210266876799

/-- Whether seconds and nanoseconds make a point in time. -/
def IsMoment (seconds : Int) (nanoseconds : Nat) : Prop :=
  firstSecond ≤ seconds ∧ seconds ≤ lastSecond ∧ nanoseconds < 2000000000
    ∧ (nanoseconds < 1000000000 ∨ seconds % 60 = 59)

instance (seconds : Int) (nanoseconds : Nat) : Decidable (IsMoment seconds nanoseconds) := by
  unfold IsMoment; infer_instance

/-- A point in time. -/
structure Moment where
  seconds : Int
  nanoseconds : Nat
  isMoment : IsMoment seconds nanoseconds
  deriving DecidableEq

/-- The point in time with the given seconds and nanoseconds, if it lies in the supported years. -/
def Moment.of? (seconds : Int) (nanoseconds : Nat) : Option Moment :=
  if h : IsMoment seconds nanoseconds then some ⟨seconds, nanoseconds, h⟩ else none

/-- The beginning of 1970. -/
def Moment.epoch : Moment := ⟨0, 0, by decide⟩

instance : Inhabited Moment := ⟨Moment.epoch⟩

/-! ### Dates -/

theorem Date.day_bounds (d : Date) :
    firstSecond ≤ d.day * secondsPerDay ∧ d.day * secondsPerDay ≤ lastSecond := by
  obtain ⟨year, month, day, hfirst, hlast, hday, hdays⟩ := d
  obtain ⟨hmonth, hmonth', hday'⟩ := month_bounds hday hdays
  unfold firstYear at hfirst
  unfold lastYear at hlast
  simp only [Date.day, dayNumber, daysBeforeMonth, firstSecond, lastSecond, secondsPerDay]
  by_cases hf : year = -262143
  · subst hf
    split <;> omega
  · by_cases hl : year = 262142
    · subst hl
      split <;> omega
    · split <;> omega

/-- The first second of a date. -/
def Date.midnight (d : Date) : Moment :=
  ⟨d.day * secondsPerDay, 0, d.day_bounds.1, d.day_bounds.2, by decide, .inl (by decide)⟩

/-- The date (UTC) of a point in time. -/
def Moment.date (m : Moment) : Date :=
  (Date.ofDay? (m.seconds / secondsPerDay)).getD .epoch

/-! ### Writing -/

/-- The fraction of a second: nothing, or three, six or nine digits after a point. -/
def fractionText (nanoseconds : Nat) : String :=
  if nanoseconds = 0 then ""
  else if nanoseconds % 1000000 = 0 then "." ++ Text.padded 3 (nanoseconds / 1000000)
  else if nanoseconds % 1000 = 0 then "." ++ Text.padded 6 (nanoseconds / 1000)
  else "." ++ Text.padded 9 nanoseconds

/-- The written form, as in `2024-01-02T03:04:05.001Z`; a leap second is second 60. -/
def Moment.text (m : Moment) : String :=
  let second := (m.seconds % secondsPerDay).toNat
  let leap := m.nanoseconds / 1000000000
  m.date.text ++ "T" ++ Text.padded 2 (second / 3600) ++ ":" ++ Text.padded 2 (second / 60 % 60)
    ++ ":" ++ Text.padded 2 (second % 60 + leap) ++ fractionText (m.nanoseconds % 1000000000) ++ "Z"

end Columnar.Calendar
