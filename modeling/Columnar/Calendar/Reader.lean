import Columnar.Calendar.Moment
import Columnar.Text.Blank

/-!
Reading dates and local times, as in `2024-02-29` and `2024-02-29 12:30:00.5`.

Blanks are allowed before each number and at the space between date and time, which may also be
missing. A year has up to four digits, or any number of them after a sign; the other numbers have
one or two. A fraction of a second is cut after nine digits, and second 60 is a leap second.
-/

namespace Columnar.Calendar

/-- A local time: seconds on the clock since its 1970 began, and nanoseconds. -/
structure ClockTime where
  seconds : Int
  nanoseconds : Nat
  deriving DecidableEq

/-- Reads one to `width` digits after blanks, and returns what follows them. -/
def readNumber? (width : Nat) (s : List Char) : Option (Nat × List Char) :=
  let s := Text.trimStart s
  let digits := (s.take width).takeWhile Char.isDigit
  if digits.isEmpty then none else some (Text.digitsValue digits, s.drop digits.length)

/-- Reads a year after blanks, and returns what follows it. -/
def readYear? (s : List Char) : Option (Int × List Char) :=
  let signless (s : List Char) : Option (Nat × List Char) :=
    let digits := s.takeWhile Char.isDigit
    if digits.isEmpty then none else some (Text.digitsValue digits, s.drop digits.length)
  match Text.trimStart s with
  | '+' :: rest => (signless rest).map fun (n, rest) => (Int.ofNat n, rest)
  | '-' :: rest => (signless rest).map fun (n, rest) => (-Int.ofNat n, rest)
  | s => (readNumber? 4 s).map fun (n, rest) => (Int.ofNat n, rest)

/-- Steps over one character. -/
def skip? (c : Char) : List Char → Option (List Char)
  | d :: rest => if c = d then some rest else none
  | [] => none

/-- Reads a date at the beginning of a text, and returns what follows it. -/
def readDatePrefix? (s : List Char) : Option (Date × List Char) := do
  let (year, s) ← readYear? s
  let s ← skip? '-' s
  let (month, s) ← readNumber? 2 s
  let s ← skip? '-' s
  let (day, s) ← readNumber? 2 s
  let date ← Date.of? year month day
  pure (date, s)

/-- Reads a text that is a date. -/
def readDate? (s : String) : Option Date :=
  match readDatePrefix? s.toList with
  | some (date, []) => some date
  | _ => none

/-- Reads the fraction of a second that ends a text: nothing, or a point and digits. -/
def readFraction? : List Char → Option Nat
  | [] => some 0
  | '.' :: digits =>
    if digits.isEmpty || !digits.all Char.isDigit then none
    else
      let kept := digits.take 9
      some (Text.digitsValue kept * Nat.pow 10 (9 - kept.length))
  | _ => none

/-- Reads the time of day that ends a text, in seconds and nanoseconds. -/
def readTimeOfDay? (s : List Char) : Option (Nat × Nat) := do
  let (hour, s) ← readNumber? 2 s
  let s ← skip? ':' s
  let (minute, s) ← readNumber? 2 s
  let s ← skip? ':' s
  let (second, s) ← readNumber? 2 s
  let nanoseconds ← readFraction? s
  if hour < 24 && minute < 60 && second ≤ 60 then
    let whole := 3600 * hour + 60 * minute
    if second = 60 then pure (whole + 59, nanoseconds + 1000000000)
    else pure (whole + second, nanoseconds)
  else none

/-- Reads a text that is a date and a time of day. -/
def readClockTime? (s : String) : Option ClockTime := do
  let (date, s) ← readDatePrefix? s.toList
  let (seconds, nanoseconds) ← readTimeOfDay? (Text.trimStart s)
  pure ⟨date.midnight.seconds + seconds, nanoseconds⟩

end Columnar.Calendar
