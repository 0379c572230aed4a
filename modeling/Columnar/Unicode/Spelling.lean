/-!
Tables that spell characters in other characters.

Neighbours often go to neighbours, so a table has three parts: shifts move characters at equal
distances, letters spell the characters from a first one on in one character each, and words spell
them in several.
-/

namespace Columnar.Unicode

/-- Characters at equal distances that go to characters at the same distances. -/
structure Shift where
  first : Nat
  last : Nat
  step : Nat
  /-- Where the first character goes. -/
  target : Nat

/-- Where a shift moves a code point. -/
def Shift.target? (s : Shift) (n : Nat) : Option Nat :=
  if s.first ≤ n && n ≤ s.last && (n - s.first) % s.step = 0 then some (s.target + (n - s.first))
  else none

/-- A table of spellings. -/
structure Spelling where
  shifts : List Shift := []
  /-- Code points, each with the letters for the characters from it on. -/
  letters : List (Nat × String) := []
  /-- Code points, each with the words for the characters from it on. -/
  words : List (Nat × List String) := []

namespace Spelling

/-- The last group of a table in ascending order that begins at a code point or before it, and the
distance of the code point from its beginning. -/
def group? {α : Type} (groups : List (Nat × α)) (n : Nat) : Option (α × Nat) :=
  ((groups.takeWhile (·.1 ≤ n)).getLast?).map fun (first, group) => (group, n - first)

/-- The spelling of a character. -/
def find? (table : Spelling) (c : Char) : Option (List Char) :=
  let n := c.toNat
  let shifted := (table.shifts.findSome? (·.target? n)).map fun m => [Char.ofNat m]
  let letter := (group? table.letters n).bind fun (letters, i) => letters.toList[i]?
  let word := (group? table.words n).bind fun (words, i) => words[i]?
  shifted <|> letter.map (fun d => [d]) <|> word.map String.toList

/-- The character that is spelled in several characters in a given way. -/
def read? (table : Spelling) (s : List Char) : Option Char :=
  let word := String.ofList s
  table.words.findSome? fun (first, words) =>
    (words.idxOf? word).map fun i => Char.ofNat (first + i)

end Spelling

end Columnar.Unicode
