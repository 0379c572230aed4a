/-!
Digits, and integers written in those of ASCII.

Reading an integer allows one sign and nothing else beside the digits (no blanks, no separators),
and refuses what lies outside the given bounds. Writing pads with zeros on the left. The decimal
digits of other scripts (the Unicode category `Nd`) are told from other characters, and are not
read.
-/

namespace Columnar.Text

/-- The number that a list of digits denotes. -/
def digitsValue (ds : List Char) : Nat :=
  Nat.ofDigitChars 10 ds 0

/-- Reads a non-empty run of ASCII digits. -/
def readDigits? (s : List Char) : Option Nat :=
  if s.isEmpty || !s.all Char.isDigit then none else some (digitsValue s)

/-- Reads a natural number of at most `max`, with an optional plus sign. -/
def readNat? (max : Nat) (s : List Char) : Option Nat :=
  let digits := match s with
    | '+' :: rest => rest
    | s => s
  (readDigits? digits).filter (· ≤ max)

/-- Reads an integer between `min` and `max`, with an optional sign. -/
def readInt? (min max : Int) (s : List Char) : Option Int :=
  let value := match s with
    | '+' :: rest => (readDigits? rest).map Int.ofNat
    | '-' :: rest => (readDigits? rest).map fun n => - Int.ofNat n
    | s => (readDigits? s).map Int.ofNat
  value.filter fun n => min ≤ n && n ≤ max

/-- The digits of `n`, with zeros on the left up to `width` places. -/
def padded (width n : Nat) : String :=
  String.ofList ((Nat.toDigits 10 n).leftpad width '0')

/-- The largest number of `bits` binary places. -/
def wordMax (bits : Nat) : Nat :=
  Nat.pow 2 bits - 1

/-! ### Digits of any script -/

/-- The code points of the digits with value zero, in ascending order. Each script has its ten
digits in a row. -/
def digitZeros : List Nat :=
  [0x30, 0x660, 0x6F0, 0x7C0, 0x966, 0x9E6, 0xA66, 0xAE6, 0xB66, 0xBE6, 0xC66, 0xCE6, 0xD66, 0xDE6,
   0xE50, 0xED0, 0xF20, 0x1040, 0x1090, 0x17E0, 0x1810, 0x1946, 0x19D0, 0x1A80, 0x1A90, 0x1B50,
   0x1BB0, 0x1C40, 0x1C50, 0xA620, 0xA8D0, 0xA900, 0xA9D0, 0xA9F0, 0xAA50, 0xABF0, 0xFF10, 0x104A0,
   0x10D30, 0x10D40, 0x11066, 0x110F0, 0x11136, 0x111D0, 0x112F0, 0x11450, 0x114D0, 0x11650,
   0x116C0, 0x116D0, 0x116DA, 0x11730, 0x118E0, 0x11950, 0x11BF0, 0x11C50, 0x11D50, 0x11DA0,
   0x11F50, 0x16130, 0x16A60, 0x16AC0, 0x16B50, 0x16D70, 0x1CCF0, 0x1D7CE, 0x1D7D8, 0x1D7E2,
   0x1D7EC, 0x1D7F6, 0x1E140, 0x1E2F0, 0x1E4F0, 0x1E5F1, 0x1E950, 0x1FBF0]

/-- A decimal digit of any script. -/
def isAnyDigit (c : Char) : Bool :=
  digitZeros.any fun first => first ≤ c.toNat && c.toNat ≤ first + 9

/-- The digits of ASCII are decimal digits. -/
theorem isAnyDigit_of_isDigit {c : Char} (h : c.isDigit = true) : isAnyDigit c = true := by
  have hc : 0x30 ≤ c.toNat ∧ c.toNat ≤ 0x39 := by
    simp only [Char.isDigit, Bool.and_eq_true, decide_eq_true_eq] at h
    exact ⟨UInt32.le_iff_toNat_le.1 h.1, UInt32.le_iff_toNat_le.1 h.2⟩
  exact List.any_eq_true.2 ⟨0x30, List.mem_cons_self, by simpa using hc⟩

end Columnar.Text
