import Columnar.Decimal.Shortest

/-!
Floating-point numbers as text.

`plain` is the notation of fields and literals: positional, without an exponent, and without a point
for whole numbers. `diagnostic` is the notation of messages: a whole number keeps a point and one
zero, and magnitudes from 10^16 on or below 10^-4 have an exponent.
-/

namespace Columnar.Decimal

/-- A number taken apart for writing. -/
inductive Parts where
  | notANumber
  | infinite (negative : Bool)
  /-- The value `0.d₁d₂… · 10 ^ point`; no digits for zero. -/
  | finite (negative : Bool) (digits : List Char) (point : Int)

/-- The digits of a numeral without the zeros at their end. -/
def significantDigits (x : Numeral) : List Char :=
  ((Nat.toDigits 10 x.digits).reverse.dropWhile (· = '0')).reverse

/-- Takes a number apart. -/
def Parts.ofFloat (x : Float) : Parts :=
  let bits := x.toBits.toNat
  let negative := Nat.pow 2 63 ≤ bits
  let bits := bits % Nat.pow 2 63
  if infinityBits < bits then .notANumber
  else if bits = infinityBits then .infinite negative
  else if bits = 0 then .finite negative [] 0
  else
    let shortest := shortestOfBits bits
    .finite negative (significantDigits shortest)
      (shortest.exponent + digitCount shortest.digits)

/-- Digits with the point at its place, and `whole` in place of a missing fraction. -/
def positional (digits : List Char) (point : Int) (whole : List Char) : List Char :=
  if digits.isEmpty then '0' :: whole
  else if point ≤ 0 then '0' :: '.' :: List.replicate (-point).toNat '0' ++ digits
  else if (digits.length : Int) ≤ point then
    digits ++ List.replicate (point.toNat - digits.length) '0' ++ whole
  else digits.take point.toNat ++ '.' :: digits.drop point.toNat

/-- One digit before the point, the others after it, and the exponent. -/
def scientific (digits : List Char) (point : Int) : List Char :=
  let fraction := digits.drop 1
  digits.take 1 ++ (if fraction.isEmpty then [] else '.' :: fraction)
    ++ 'e' :: (toString (point - 1)).toList

/-- A minus sign where it is due. -/
def signed (negative : Bool) (s : List Char) : String :=
  String.ofList (if negative then '-' :: s else s)

/-- Whether the diagnostic notation of a number has an exponent. -/
def needsExponent (digits : List Char) (point : Int) : Bool :=
  !digits.isEmpty && (16 < point || point < -3)

/-- The notation of fields: shortest digits, positional. -/
def plain (x : Float) : String :=
  match Parts.ofFloat x with
  | .notANumber => "NaN"
  | .infinite negative => signed negative ['i', 'n', 'f']
  | .finite negative digits point => signed negative (positional digits point [])

/-- The notation of messages: shortest digits, with an exponent for very large and small ones. -/
def diagnostic (x : Float) : String :=
  match Parts.ofFloat x with
  | .notANumber => "NaN"
  | .infinite negative => signed negative ['i', 'n', 'f']
  | .finite negative digits point =>
    signed negative
      (if needsExponent digits point then scientific digits point
       else positional digits point ['.', '0'])

end Columnar.Decimal
