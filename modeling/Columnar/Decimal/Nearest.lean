import Columnar.Text.Numeral

/-!
The binary floating-point number nearest to a decimal one.

A decimal numeral is read exactly, as digits and a power of ten; `nearest` then rounds the exact
value to 53 binary places (a half goes to the even neighbour), to infinity above the largest finite
number and towards zero below the smallest positive one.
-/

namespace Columnar.Decimal

/-- The number `digits · 10 ^ exponent`. -/
structure Numeral where
  digits : Nat
  exponent : Int
  deriving DecidableEq, Repr

/-! ### Rounding -/

/-- The quotient rounded to the nearest integer, a half to the even one. -/
def roundHalfEven (num den : Nat) : Nat :=
  let q := num / den
  let twice := 2 * (num % den)
  if twice < den || (twice = den && q % 2 = 0) then q else q + 1

/-- The number `e` with `2 ^ e ≤ num / den < 2 ^ (e + 1)`, for positive arguments. -/
def binaryOrder (num den : Nat) : Int :=
  let e : Int := (num.log2 : Int) - (den.log2 : Int)
  if den * Nat.pow 2 e.toNat ≤ num * Nat.pow 2 (-e).toNat then e else e - 1

/-- The bits of positive infinity. -/
def infinityBits : Nat := 0x7FF0000000000000

/-- The bits of the floating-point number nearest to `num / den`. -/
def ratioBits (num den : Nat) : Nat :=
  if num = 0 then 0
  else
    let unit : Int := max (-1074) (binaryOrder num den - 52)
    let places := roundHalfEven (num * Nat.pow 2 (-unit).toNat) (den * Nat.pow 2 unit.toNat)
    min infinityBits ((unit + 1074).toNat * Nat.pow 2 52 + places)

/-- The number of decimal digits of `n`. -/
def digitCount (n : Nat) : Nat :=
  (Nat.toDigits 10 n).length

/-- The bits of the floating-point number nearest to a numeral. -/
def nearestBits (x : Numeral) : Nat :=
  let order := (digitCount x.digits : Int) + x.exponent
  if x.digits = 0 || order < -330 then 0
  else if order > 310 then infinityBits
  else ratioBits (x.digits * Nat.pow 10 x.exponent.toNat) (Nat.pow 10 (-x.exponent).toNat)

/-- The floating-point number nearest to a numeral. -/
def nearest (x : Numeral) : Float :=
  Float.ofBits (nearestBits x).toUInt64

/-! ### Reading -/

/-- Reads the exponent part of a numeral, which may be missing. -/
def readExponent? : List Char → Option Int
  | [] => some 0
  | e :: rest =>
    if e = 'e' || e = 'E' then
      match rest with
      | '+' :: digits => (Text.readDigits? digits).map Int.ofNat
      | '-' :: digits => (Text.readDigits? digits).map fun n => -Int.ofNat n
      | digits => (Text.readDigits? digits).map Int.ofNat
    else none

/-- Reads an unsigned numeral: digits around an optional point, at least one, and an exponent. -/
def readNumeral? (s : List Char) : Option Numeral :=
  let whole := s.takeWhile Char.isDigit
  let rest := s.dropWhile Char.isDigit
  let (fraction, rest) := match rest with
    | '.' :: rest => (rest.takeWhile Char.isDigit, rest.dropWhile Char.isDigit)
    | rest => ([], rest)
  if whole.isEmpty && fraction.isEmpty then none
  else (readExponent? rest).map fun e =>
    ⟨Text.digitsValue (whole ++ fraction), e - (fraction.length : Int)⟩

/-- Reads an unsigned number: a numeral, or the words for infinity and for no number. -/
def readMagnitude? (s : List Char) : Option Float :=
  let word := String.ofList (s.map Char.toLower)
  if word = "inf" || word = "infinity" then some (Float.ofBits infinityBits.toUInt64)
  else if word = "nan" then some (Float.ofBits 0x7FF8000000000000)
  else (readNumeral? s).map nearest

/-- Reads a floating-point number with an optional sign. -/
def read? : List Char → Option Float
  | '+' :: s => readMagnitude? s
  | '-' :: s => (readMagnitude? s).map Float.neg
  | s => readMagnitude? s

end Columnar.Decimal
