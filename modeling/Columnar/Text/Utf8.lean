/-!
Bytes as UTF-8 text.

`decodeUtf8?` accepts exactly the encodings of texts. Any other bytes fall into pieces: characters,
and between them the longest pieces that could still have become one. `repairUtf8` puts U+FFFD in
the place of those, and `utf8Fault?` says where the first of them is.
-/

namespace Columnar.Text

/-- Bytes on their way to or from the server. -/
abbrev Bytes := List UInt8

/-- The UTF-8 encoding of a text. -/
def encodeUtf8 (s : String) : Bytes :=
  s.toUTF8.data.toList

/-- The text that the bytes encode, if they do. -/
def decodeUtf8? (bytes : Bytes) : Option String :=
  String.fromUTF8? ⟨bytes.toArray⟩

/-! ### Pieces -/

/-- A piece of bytes that are read as text. -/
inductive Piece where
  | character (c : Char)
  /-- So many bytes that are no character. -/
  | broken (length : Nat)
  /-- So many bytes of a character, where the bytes end. -/
  | cut (length : Nat)
  deriving DecidableEq

/-- What may follow a leading byte: how many bytes, and the range of the first of them. -/
structure Lead where
  length : Nat
  low : Nat
  high : Nat

/-- The continuation that a leading byte announces; `none` for a byte that leads nothing. -/
def Lead.of? (b : Nat) : Option Lead :=
  if 0xC2 ≤ b && b ≤ 0xDF then some ⟨1, 0x80, 0xBF⟩
  else if b == 0xE0 then some ⟨2, 0xA0, 0xBF⟩
  else if b == 0xED then some ⟨2, 0x80, 0x9F⟩
  else if 0xE1 ≤ b && b ≤ 0xEF then some ⟨2, 0x80, 0xBF⟩
  else if b == 0xF0 then some ⟨3, 0x90, 0xBF⟩
  else if 0xF1 ≤ b && b ≤ 0xF3 then some ⟨3, 0x80, 0xBF⟩
  else if b == 0xF4 then some ⟨3, 0x80, 0x8F⟩
  else none

/-- Where a reader of bytes stands: between characters, or inside one. -/
inductive Utf8Scan where
  | between
  /-- `seen` bytes give `value`; `left` more are due, the next of them between `low` and `high`. -/
  | inside (value seen left low high : Nat)

/-- A byte where a character may begin. -/
def beginChar (b : UInt8) : List Piece × Utf8Scan :=
  let n := b.toNat
  if n < 0x80 then ([.character (Char.ofNat n)], .between)
  else match Lead.of? n with
    | some lead => ([], .inside (n % Nat.pow 2 (6 - lead.length)) 1 lead.length lead.low lead.high)
    | none => ([.broken 1], .between)

/-- The pieces that one more byte completes, and where the reader then stands. -/
def Utf8Scan.step (scan : Utf8Scan) (b : UInt8) : List Piece × Utf8Scan :=
  match scan with
  | .between => beginChar b
  | .inside value seen left low high =>
    let n := b.toNat
    if low ≤ n && n ≤ high then
      let value := 64 * value + n % 64
      if left = 1 then ([.character (Char.ofNat value)], .between)
      else ([], .inside value (seen + 1) (left - 1) 0x80 0xBF)
    else
      let (pieces, scan) := beginChar b
      (.broken seen :: pieces, scan)

/-- The pieces of the bytes from a given state on. -/
def piecesFrom : Utf8Scan → Bytes → List Piece
  | .between, [] => []
  | .inside _ seen _ _ _, [] => [.cut seen]
  | scan, b :: rest =>
    let (pieces, scan) := scan.step b
    pieces ++ piecesFrom scan rest

/-! ### Repair -/

/-- The character that stands for bytes that are no text. -/
def replacement : Char := '\uFFFD'

/-- The character that a piece is read as. -/
def Piece.repaired : Piece → Char
  | character c => c
  | broken _ | cut _ => replacement

/-- Reads any bytes as text, with U+FFFD in place of what is no text. -/
def repairUtf8 (bytes : Bytes) : String :=
  match decodeUtf8? bytes with
  | some text => text
  | none => String.ofList ((piecesFrom .between bytes).map Piece.repaired)

/-! ### Faults -/

/-- Why bytes are no text, and from which byte on. -/
inductive Utf8Fault where
  | invalid (length index : Nat)
  | incomplete (index : Nat)
  deriving DecidableEq, Repr

/-- The words for a fault. -/
def Utf8Fault.message : Utf8Fault → String
  | invalid length index =>
    "invalid utf-8 sequence of " ++ toString length ++ " bytes from index " ++ toString index
  | incomplete index => "incomplete utf-8 byte sequence from index " ++ toString index

/-- The first fault in pieces that begin at the given byte. -/
def faultFrom? (index : Nat) : List Piece → Option Utf8Fault
  | [] => none
  | .character c :: rest => faultFrom? (index + c.utf8Size) rest
  | .broken length :: _ => some (.invalid length index)
  | .cut _ :: _ => some (.incomplete index)

/-- Why the bytes are no text; `none` for a text. -/
def utf8Fault? (bytes : Bytes) : Option Utf8Fault :=
  faultFrom? 0 (piecesFrom .between bytes)

end Columnar.Text
