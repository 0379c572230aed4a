import Columnar.Calendar.Zone
import Columnar.Text.Blank
import Columnar.Text.Numeral

/-!
The version of a server, and what follows from it.

Versions compare by major, minor and patch number; what a server can do is decided by thresholds on
the version alone.
-/

namespace Columnar

/-- The first three numbers of a server's version. -/
structure Version where
  major : Nat
  minor : Nat
  patch : Nat
  deriving DecidableEq, Repr

namespace Version

/-- Whether a version is at least another. -/
def atLeast (v w : Version) : Bool :=
  if v.major != w.major then w.major < v.major
  else if v.minor != w.minor then w.minor < v.minor
  else w.patch ≤ v.patch

/-- Whether a version comes after another. -/
def newerThan (v w : Version) : Bool :=
  v.atLeast w && v != w

/-- The version assumed of a server that does not tell its own. -/
def fallback : Version := ⟨1, 1, 0⟩

/-- The last version that cannot tell its time zone. -/
def withoutTimeZone : Version := ⟨1, 1, 53981⟩

/-- The first version that compresses columns by a codec. -/
def withCodecs : Version := ⟨19, 1, 16⟩

/-- The first version with low cardinality types. -/
def withLowCardinality : Version := ⟨19, 0, 0⟩

/-- The number that a part of a version is, if it consists of digits. -/
def number? (part : List Char) : Option Nat :=
  (Text.readDigits? part).filter (· ≤ Text.wordMax 32)

/-- Reads a version: the first three parts between points that are numbers, zero where there are
fewer; `none` without any number. -/
def read? (text : String) : Option Version :=
  match ((Text.trim text.toList).splitOn '.').filterMap number? with
  | [] => none
  | [major] => some ⟨major, 0, 0⟩
  | [major, minor] => some ⟨major, minor, 0⟩
  | major :: minor :: patch :: _ => some ⟨major, minor, patch⟩

/-- The version as numbers between points. -/
def text (v : Version) : String :=
  toString v.major ++ "." ++ toString v.minor ++ "." ++ toString v.patch

end Version

/-- What is known about a server. -/
structure Capabilities where
  version : Version
  zone : Calendar.Zone
  codecs : Bool
  lowCardinality : Bool
  deriving DecidableEq, Repr

/-- What a server of the given version can do. -/
def Capabilities.of (version : Version) (zone : Calendar.Zone) : Capabilities :=
  { version, zone
    codecs := version.atLeast .withCodecs
    lowCardinality := version.atLeast .withLowCardinality }

/-- The capabilities assumed before anything is known. -/
def Capabilities.fallback : Capabilities := .of .fallback .utc

end Columnar
