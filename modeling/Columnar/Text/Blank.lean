/-!
Blank characters (the Unicode property `White_Space`), the trimming of text at its ends, and its
lines.

The trims are given on lists of characters; `trimText` and `isBlankText` are what the rest of the
library calls on strings. The cut into lines is given on lists of any kind, so that characters and
bytes are cut by the same rule.
-/

namespace Columnar.Text

/-! ### Blanks -/

/-- Characters with the Unicode property `White_Space`. -/
def isBlank (c : Char) : Bool :=
  let n := c.toNat
  (0x09 ≤ n && n ≤ 0x0D) || n == 0x20 || n == 0x85 || n == 0xA0 || n == 0x1680
    || (0x2000 ≤ n && n ≤ 0x200A) || n == 0x2028 || n == 0x2029 || n == 0x202F || n == 0x205F
    || n == 0x3000

/-- Drops the blank characters a text begins with. -/
def trimStart (s : List Char) : List Char :=
  s.dropWhile isBlank

/-- Drops the blank characters a text ends with. -/
def trimEnd (s : List Char) : List Char :=
  (s.reverse.dropWhile isBlank).reverse

/-- Drops the blank characters at both ends. -/
def trim (s : List Char) : List Char :=
  trimEnd (trimStart s)

/-- `trim` on strings. -/
def trimText (s : String) : String :=
  String.ofList (trim s.toList)

/-- A text without any character that is not blank. -/
def isBlankText (s : String) : Bool :=
  s.toList.all isBlank

/-! ### Lines -/

section Lines

variable {α : Type} [DecidableEq α]

/-- A list without a given last element. -/
def dropEnd (last : α) (l : List α) : List α :=
  if l.getLast? = some last then l.dropLast else l

/-- The lines that a newline ends, without it and without a carriage return before it, and what
follows the last newline. -/
def cutLines (newline carriageReturn : α) (l : List α) : List (List α) × List α :=
  let parts := l.splitOn newline
  (parts.dropLast.map (dropEnd carriageReturn), parts.getLast?.getD [])

end Lines

/-- The lines of a text; the last one needs no newline. -/
def lines (s : String) : List String :=
  let (complete, last) := cutLines '\n' '\r' s.toList
  (complete ++ if last.isEmpty then [] else [last]).map String.ofList

end Columnar.Text
