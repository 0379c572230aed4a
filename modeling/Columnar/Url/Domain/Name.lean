import Columnar.Url.Domain.Bidi
import Columnar.Url.Domain.Joiner
import Columnar.Url.Domain.Mapping
import Columnar.Url.Punycode

/-!
Domain names: labels between points, in their one form in ASCII and small letters.

A label outside ASCII is written in Punycode behind a mark. A label that comes with the mark is read
first, and must be what writing produces.
-/

namespace Columnar.Url.Domain

/-- Characters that no domain name has. -/
def isForbidden (c : Char) : Bool :=
  c.toNat ≤ 0x20 || c.toNat = 0x7F
    || ['%', '#', '/', ':', '<', '>', '?', '@', '[', '\\', ']', '^', '|'].contains c

/-- The mark in front of a label in Punycode. -/
def punycodeMark : List Char := ['x', 'n', '-', '-']

/-- The greatest length of a label that can be written in Punycode. -/
def maxWritten : Nat := 1000

/-- The greatest length of a label in Punycode that can be read, without the mark. -/
def maxRead : Nat := 2000

/-- Whether the characters of a label, which are all allowed, may stand where they do. -/
def isWellFormed (label : List Char) : Bool :=
  !label.head?.any Unicode.isMark && allowsJoiners [] label
    && (label.all Punycode.isAscii || label.length ≤ maxWritten)

/-- Reads a label in Punycode behind the mark: it has characters outside ASCII, and is in the form
that names are mapped to. -/
def readPunycode? (s : List Char) : Option (List Char) :=
  if s.length ≤ maxRead && s.all Punycode.isAscii then
    (Punycode.decode? s).filter fun label =>
      mapText? label = some label && !label.all Punycode.isAscii && !label.contains '.'
  else none

/-- The characters that a mapped label stands for. -/
def readLabel? (label : List Char) : Option (List Char) :=
  let read := if punycodeMark.isPrefixOf label then readPunycode? (label.drop 4) else some label
  read.filter fun label => isWellFormed label && !label.any isForbidden

/-- A label in ASCII. -/
def labelText (label : List Char) : List Char :=
  if label.all Punycode.isAscii then label else punycodeMark ++ Punycode.encode label

/-- A domain name in ASCII and small letters. -/
def read? (name : List Char) : Option (List Char) := do
  let labels ← ((← mapText? name).splitOn '.').mapM readLabel?
  if keepsDirection labels then some (['.'].intercalate (labels.map labelText)) else none

end Columnar.Url.Domain
