import Columnar.Decimal.Nearest

/-!
The shortest decimal that reads back as a given floating-point number.

The number is taken apart into an integer times a power of two. Every real in the interval around
it rounds to it; its ends count when the integer is even. On the decimal grids with 1, 2, … 17
digits the two neighbours of the exact value are tried in exact arithmetic: the first grid with a
neighbour in the interval wins, of two neighbours the nearer one, and of two equally near ones the
upper.
-/

namespace Columnar.Decimal

/-- A positive finite number `mantissa · 2 ^ exponent`, as its bits give it. -/
structure Binary where
  mantissa : Nat
  exponent : Int
  /-- Whether the next number below is only half as far away as the next one above. -/
  closeBelow : Bool

/-- Takes the bits of a positive finite number apart. -/
def Binary.ofBits (bits : Nat) : Binary :=
  let biased : Nat := bits / Nat.pow 2 52
  let places : Nat := bits % Nat.pow 2 52
  if biased = 0 then ⟨places, -1074, false⟩
  else ⟨Nat.pow 2 52 + places, (biased : Int) - 1075, places = 0 && 1 < biased⟩

/-- Exact bounds for the decimals that read back as a number, over one denominator. -/
structure Interval where
  value : Nat
  low : Nat
  high : Nat
  den : Nat
  closed : Bool

/-- The interval of the reals that round to a number. -/
def Binary.interval (b : Binary) : Interval :=
  let up := Nat.pow 2 (b.exponent - 2).toNat
  let m := 4 * b.mantissa
  { value := m * up
    low := (if b.closeBelow then m - 1 else m - 2) * up
    high := (m + 2) * up
    den := Nat.pow 2 (2 - b.exponent).toNat
    closed := b.mantissa % 2 = 0 }

/-- Whether `num / den` lies in the interval. -/
def Interval.contains (i : Interval) (num den : Nat) : Bool :=
  let x := num * i.den
  let low := i.low * den
  let high := i.high * den
  (low < x || (i.closed && low = x)) && (x < high || (i.closed && x = high))

/-- The number `k` with `10 ^ k ≤ num / den < 10 ^ (k + 1)`, for positive arguments. -/
def decimalOrder (num den : Nat) : Int :=
  if den ≤ num then (digitCount (num / den) : Int) - 1
  else -(digitCount ((den + num - 1) / num - 1) : Int)

/-- The better neighbour of the interval's value on the grid of multiples of `10 ^ grid`. -/
def Interval.onGrid? (i : Interval) (grid : Int) : Option Nat :=
  let up := Nat.pow 10 grid.toNat
  let down := Nat.pow 10 (-grid).toNat
  let below := i.value * down / (i.den * up)
  let fits (n : Nat) : Bool := i.contains (n * up) down
  match fits below, fits (below + 1) with
  | true, true =>
    if 2 * i.value * down < (2 * below + 1) * up * i.den then some below else some (below + 1)
  | true, false => some below
  | false, true => some (below + 1)
  | false, false => none

/-- The first hit on the grids from `digits` digits on, with `left` grids still to try. -/
def Interval.search (i : Interval) (order : Int) (digits : Nat) : Nat → Numeral
  | 0 => ⟨i.value / i.den, 0⟩
  | left + 1 =>
    let grid := order + 1 - digits
    match i.onGrid? grid with
    | some n => ⟨n, grid⟩
    | none => search i order (digits + 1) left

/-- The shortest decimal that reads back as the positive finite number with the given bits. -/
def shortestOfBits (bits : Nat) : Numeral :=
  let i := (Binary.ofBits bits).interval
  i.search (decimalOrder i.value i.den) 1 17

end Columnar.Decimal
