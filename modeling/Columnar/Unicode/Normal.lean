import Columnar.Unicode.CombiningClass
import Columnar.Unicode.Decomposition

/-!
The composed normal form of texts: one way of writing for all texts that mean the same.

A text is decomposed, the marks on each character are put in the order of their classes, and each
character then takes up the marks behind it that it has a composite with.
-/

namespace Columnar.Unicode

/-! ### Syllables of Hangul -/

/-- The first syllable; the others follow by leading consonant, vowel and trailing consonant. -/
def firstSyllable : Nat := 0xAC00

/-- The first of the 19 leading consonants. -/
def firstLead : Nat := 0x1100

/-- The first of the 21 vowels. -/
def firstVowel : Nat := 0x1161

/-- The place before the 27 trailing consonants, which stands for none of them. -/
def noTrail : Nat := 0x11A7

/-- The number of syllables. -/
def syllableCount : Nat := 19 * 21 * 28

/-- The letters of a syllable. -/
def syllableLetters? (c : Char) : Option (List Char) :=
  let i := c.toNat - firstSyllable
  if c.toNat < firstSyllable || syllableCount ≤ i then none
  else
    let lead := Char.ofNat (firstLead + i / (21 * 28))
    let vowel := Char.ofNat (firstVowel + i / 28 % 21)
    let trail := if i % 28 = 0 then [] else [Char.ofNat (noTrail + i % 28)]
    some (lead :: vowel :: trail)

/-- The syllable of a leading consonant and a vowel. -/
def openSyllable? (lead vowel : Char) : Option Char :=
  let l := lead.toNat - firstLead
  let v := vowel.toNat - firstVowel
  if lead.toNat < firstLead || 19 ≤ l || vowel.toNat < firstVowel || 21 ≤ v then none
  else some (Char.ofNat (firstSyllable + (l * 21 + v) * 28))

/-- The syllable of one without a trailing consonant and such a consonant. -/
def closedSyllable? (syllable trail : Char) : Option Char :=
  let i := syllable.toNat - firstSyllable
  let t := trail.toNat - noTrail
  if syllable.toNat < firstSyllable || syllableCount ≤ i || i % 28 != 0 || t = 0 || 28 ≤ t then none
  else some (Char.ofNat (syllable.toNat + t))

/-! ### Decomposition -/

/-- The characters that mean the same as one character, none of which can be decomposed. -/
def decompose (c : Char) : List Char :=
  (syllableLetters? c <|> composites.find? c <|> decomposedOnly.find? c).getD [c]

/-! ### Order -/

/-- Puts a character in front of an ordered text: a mark goes behind the marks of lower classes. -/
def placeMark (c : Char) : List Char → List Char
  | [] => [c]
  | d :: rest =>
    if 0 < combiningClass d && combiningClass d < combiningClass c then d :: placeMark c rest
    else c :: d :: rest

/-- A text with its marks in canonical order. -/
def orderMarks (s : List Char) : List Char :=
  s.foldr placeMark []

/-! ### Composition -/

/-- The character that means the same as two. -/
def compose? (a b : Char) : Option Char :=
  openSyllable? a b <|> closedSyllable? a b <|> composites.read? (decompose a ++ [b])

/-- Composes an ordered text behind a character of class 0 that could not take up `kept`, which is
in reverse. A mark is out of reach behind one of the same or a higher class. -/
def composeAfter (start : Char) (kept : List Char) : List Char → List Char
  | [] => start :: kept.reverse
  | c :: rest =>
    let isBlocked := kept.head?.any fun last => combiningClass c ≤ combiningClass last
    match if isBlocked then none else compose? start c with
    | some composite => composeAfter composite kept rest
    | none =>
      if combiningClass c = 0 then start :: kept.reverse ++ composeAfter c [] rest
      else composeAfter start (c :: kept) rest

/-- Composes an ordered text; marks at its beginning stay. -/
def compose : List Char → List Char
  | [] => []
  | c :: rest => if combiningClass c = 0 then composeAfter c [] rest else c :: compose rest

/-- The composed normal form of a text. -/
def normalize (s : List Char) : List Char :=
  compose (orderMarks (s.flatMap decompose))

end Columnar.Unicode
