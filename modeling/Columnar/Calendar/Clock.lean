import Columnar.Calendar.Moment

/-!
Clocks: how far ahead of UTC they are, and when they change to summer time and back.

A change falls on a weekday of a month, as in "the last Sunday of March", at a minute of that day on
the clock as it is before the change. The rules are those in force today, for all years.
-/

namespace Columnar.Calendar

/-! ### Days given by a weekday -/

/-- The number of the first day, from day `n` on, that falls on the given day of the week. -/
def onOrAfter (n weekdayWanted : Int) : Int :=
  n + (weekdayWanted - weekday n) % 7

/-- A change of clocks. -/
structure ClockChange where
  month : Nat
  /-- Which of the month's days with the weekday: 1 to 4 for the first ones, 5 for the last. -/
  week : Nat
  /-- The day of the week, 0 for Sunday. -/
  weekday : Int
  /-- The minute of the day; it may lie on another day. -/
  minute : Int
  deriving DecidableEq, Repr

/-- The number of the day of the change. -/
def ClockChange.day (c : ClockChange) (year : Int) : Int :=
  let lastOnes := daysInMonth year c.month - 6
  onOrAfter (dayNumber year c.month (min (7 * c.week - 6) lastOnes)) c.weekday

/-- The second of the change, as the clock shows it. -/
def ClockChange.second (c : ClockChange) (year : Int) : Int :=
  c.day year * secondsPerDay + 60 * c.minute

/-! ### Clocks -/

/-- Summer time: its offset in minutes, and the changes to it and back. -/
structure Summer where
  offset : Int
  begins : ClockChange
  ends : ClockChange
  deriving DecidableEq, Repr

/-- A clock: its offset from UTC in minutes, and its summer time. -/
structure Clock where
  offset : Int
  summer : Option Summer
  deriving DecidableEq, Repr

namespace Clock

/-- The offset in summer time, or the only one. -/
def summerOffset (c : Clock) : Int :=
  (c.summer.map Summer.offset).getD c.offset

/-- Whether summer time holds at a second of the given year. In the south it lasts over the new
year. -/
def isSummer (c : Clock) (year seconds : Int) : Bool :=
  match c.summer with
  | none => false
  | some summer =>
    let begins := summer.begins.second year - 60 * c.offset
    let ends := summer.ends.second year - 60 * summer.offset
    if begins < ends then begins ≤ seconds && seconds < ends
    else seconds < ends || begins ≤ seconds

/-- The offset in minutes at a second since the epoch. -/
def offsetAt (c : Clock) (seconds : Int) : Int :=
  let (year, _, _) := partsOfDay (seconds / secondsPerDay)
  if c.isSummer year seconds then c.summerOffset else c.offset

/-- The earliest second at which the clock shows the local second, if any. -/
def ofLocal? (c : Clock) (localSeconds : Int) : Option Int :=
  [c.summerOffset, c.offset].findSome? fun offset =>
    let seconds := localSeconds - 60 * offset
    if c.offsetAt seconds = offset then some seconds else none

/-! ### Kinds of clocks -/

/-- A clock without summer time. -/
def fixed (offset : Int) : Clock :=
  ⟨offset, none⟩

/-- A clock with the given offsets and changes. -/
def changing (offset summerOffset : Int) (begins ends : ClockChange) : Clock :=
  ⟨offset, some ⟨summerOffset, begins, ends⟩⟩

/-- Summer time from the second Sunday of March to the first one of November, at two o'clock. -/
def northAmerican (offset : Int) : Clock :=
  changing offset (offset + 60) ⟨3, 2, 0, 120⟩ ⟨11, 1, 0, 120⟩

/-- Summer time from the last Sunday of March to that of October, everywhere at the same moment. -/
def european (offset : Int) : Clock :=
  changing offset (offset + 60) ⟨3, 5, 0, offset + 60⟩ ⟨10, 5, 0, offset + 120⟩

/-- Summer time from the first Sunday of October to that of April. -/
def australian (offset : Int) : Clock :=
  changing offset (offset + 60) ⟨10, 1, 0, 120⟩ ⟨4, 1, 0, 180⟩

end Clock

end Columnar.Calendar
