import Columnar.Unicode.Assigned
import Columnar.Unicode.Mark

/-!
Texts as diagnostics show them: in double quotes, on one line, with nothing invisible.

A quote and a backslash get a backslash before them, four controls have a letter of their own, and
any other character that would not be seen is given by its number. Controls, formats, fillers,
unassigned code points, separators other than the space, and the marks that extend the character
before them would be invisible or would change their surroundings.
-/

namespace Columnar.Text

/-! ### Visible characters -/

/-- The assigned characters without a shape: those of the categories `Cc`, `Cf`, `Zl`, `Zp` and `Zs`
other than the space, and the fillers. -/
def shapeless : Unicode.Ranges :=
  [(0x0, 0x1F), (0x7F, 0xA0), (0xAD, 0xAD), (0x600, 0x605), (0x61C, 0x61C), (0x6DD, 0x6DD),
   (0x70F, 0x70F), (0x890, 0x891), (0x8E2, 0x8E2), (0x115F, 0x1160), (0x1680, 0x1680),
   (0x180E, 0x180E), (0x2000, 0x200F), (0x2028, 0x202F), (0x205F, 0x2064), (0x2066, 0x206F),
   (0x3000, 0x3000), (0x3164, 0x3164), (0xFEFF, 0xFEFF), (0xFFA0, 0xFFA0), (0xFFF9, 0xFFFB),
   (0x110BD, 0x110BD), (0x110CD, 0x110CD), (0x13430, 0x1343F), (0x1BCA0, 0x1BCA3),
   (0x1D173, 0x1D17A), (0xE0001, 0xE0001), (0xE0020, 0xE007F)]

/-- A character that a diagnostic shows as it is. -/
def isVisible (c : Char) : Bool :=
  let n := c.toNat
  if 0x20 ≤ n && n < 0x7F then true
  else Unicode.isAssigned c && !shapeless.has c && !Unicode.isExtending c

/-! ### Quoted texts -/

/-- The digits of a number in base sixteen, in lower case. -/
def hexDigits (n : Nat) : List Char :=
  Nat.toDigits 16 n

/-- One character of a quoted text. -/
def quotedChar (c : Char) : List Char :=
  match c with
  | '"' => ['\\', '"']
  | '\\' => ['\\', '\\']
  | '\t' => ['\\', 't']
  | '\r' => ['\\', 'r']
  | '\n' => ['\\', 'n']
  | '\x00' => ['\\', '0']
  | c => if isVisible c then [c] else ['\\', 'u', '{'] ++ hexDigits c.toNat ++ ['}']

/-- A text in double quotes as diagnostics show it. -/
def quoted (s : String) : String :=
  String.ofList ('"' :: s.toList.flatMap quotedChar ++ ['"'])

end Columnar.Text
