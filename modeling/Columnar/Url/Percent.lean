import Columnar.Text.Quoted
import Columnar.Text.Utf8

/-!
Percent coding of the parts of a URL.

Each part has a set of ASCII characters that are written as the two digits of their byte after a
percent sign; characters outside ASCII always are.
-/

namespace Columnar.Url

/-- The characters that are written as bytes in every part. -/
def isControl (c : Char) : Bool :=
  c.toNat < 0x20 || 0x7E < c.toNat

/-- A set of characters that are written as bytes, beside the controls. -/
abbrev EncodeSet := List Char

/-- The set for fragments. -/
def fragmentSet : EncodeSet := [' ', '"', '<', '>', '`']

/-- The set for paths. -/
def pathSet : EncodeSet := fragmentSet ++ ['#', '?', '{', '}']

/-- The set for names and passwords. -/
def credentialSet : EncodeSet := pathSet ++ ['/', ':', ';', '=', '@', '[', '\\', ']', '^', '|']

/-- The set for queries. -/
def querySet : EncodeSet := [' ', '"', '#', '<', '>']

/-- The set for queries of the schemes that have a host. -/
def specialQuerySet : EncodeSet := querySet ++ ['\'']

/-- One byte after a percent sign. -/
def percentByte (b : UInt8) : List Char :=
  let digits := (Text.hexDigits b.toNat).map Char.toUpper
  '%' :: List.replicate (2 - digits.length) '0' ++ digits

/-- A text with the controls and the characters of the set written as bytes. -/
def percentEncode (encoded : EncodeSet) (s : List Char) : List Char :=
  s.flatMap fun c =>
    if isControl c || encoded.contains c then
      (Text.encodeUtf8 (String.ofList [c])).flatMap percentByte
    else [c]

/-- The value of a digit in base sixteen. -/
def hexValue? (c : Char) : Option Nat :=
  if '0' ≤ c && c ≤ '9' then some (c.toNat - '0'.toNat)
  else if 'a' ≤ c && c ≤ 'f' then some (c.toNat - 'a'.toNat + 10)
  else if 'A' ≤ c && c ≤ 'F' then some (c.toNat - 'A'.toNat + 10)
  else none

/-- The bytes of a text in which two digits after a percent sign stand for a byte. -/
def percentDecode : List Char → Text.Bytes
  | '%' :: high :: low :: rest =>
    match hexValue? high, hexValue? low with
    | some h, some l => (16 * h + l).toUInt8 :: percentDecode rest
    | _, _ => 0x25 :: percentDecode (high :: low :: rest)
  | c :: rest => Text.encodeUtf8 (String.ofList [c]) ++ percentDecode rest
  | [] => []

end Columnar.Url
