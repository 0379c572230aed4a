import Columnar.Text.Blank

/-!
Tab-separated fields: their escaping, and the lines they stand in.

A field may hold any text: the eight characters that would end it, or that the server gives a
meaning, are written as a backslash and a letter (or the character itself). `unescape` undoes
`escape`; it also accepts a backslash before any other character, which then stands for itself, and
refuses only a backslash with nothing after it. `splitLine` cuts a line at its tabs and leaves the
fields escaped; `readLine` also undoes the escaping and names the first field that cannot be read.
-/

namespace Columnar.Tsv

/-- The character written after the backslash for a character that needs escaping. -/
def escapeMark? : Char → Option Char
  | '\x08' => some 'b'
  | '\x0c' => some 'f'
  | '\r' => some 'r'
  | '\n' => some 'n'
  | '\t' => some 't'
  | '\x00' => some '0'
  | '\\' => some '\\'
  | '\'' => some '\''
  | _ => none

/-- The character that a backslash followed by `mark` stands for. -/
def markedChar : Char → Char
  | 'b' => '\x08'
  | 'f' => '\x0c'
  | 'r' => '\r'
  | 'n' => '\n'
  | 't' => '\t'
  | '0' => '\x00'
  | mark => mark

/-- The written form of one character. -/
def escapeChar (c : Char) : List Char :=
  match escapeMark? c with
  | some mark => ['\\', mark]
  | none => [c]

/-- The written form of a text. -/
def escapeChars (s : List Char) : List Char :=
  s.flatMap escapeChar

/-- Reads a written form back; `none` when it ends in a lone backslash. -/
def unescapeChars? : List Char → Option (List Char)
  | [] => some []
  | '\\' :: [] => none
  | '\\' :: mark :: rest => (unescapeChars? rest).map (markedChar mark :: ·)
  | c :: rest => (unescapeChars? rest).map (c :: ·)

/-- Escapes a text for a field or for the inside of a quoted literal. -/
def escape (s : String) : String :=
  String.ofList (escapeChars s.toList)

/-- Undoes `escape`; `none` when a lone backslash ends the field. -/
def unescape? (s : String) : Option String :=
  (unescapeChars? s.toList).map String.ofList

/-- A text as a literal in single quotes. -/
def quote (s : String) : String :=
  "'" ++ escape s ++ "'"

/-- Escapes the key of a `key=value` field, where an equals sign would end the key. -/
def escapeKey (s : String) : String :=
  String.ofList ((escapeChars s.toList).flatMap fun c => if c = '=' then ['\\', '='] else [c])

/-- How a field says that it holds no value. -/
def nullField : String := "\\N"

/-! ### Lines -/

/-- The fields of a line, still escaped. -/
def splitLine (line : String) : List String :=
  ((Text.dropEnd '\n' line.toList).splitOn '\t').map String.ofList

/-- Undoes the escaping of each field; the error is the first field with a dangling backslash. -/
def unescapeAll : List String → Except String (List String)
  | [] => .ok []
  | field :: fields =>
    match unescape? field with
    | none => .error field
    | some text => (unescapeAll fields).map (text :: ·)

/-- The fields of a line, unescaped. -/
def readLine (line : String) : Except String (List String) :=
  unescapeAll (splitLine line)

end Columnar.Tsv
