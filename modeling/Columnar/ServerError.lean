import Columnar.Text.Blank
import Columnar.Text.Numeral

/-!
Errors that the server reports in the body of a reply.

Three layouts of the error text are tried in turn:

    Code: 1, e.displayText() = Type: message, e.what() = Type
    Code: 1, e.displayText() = Type: message
    Code: 1. Type: message (TAG) (version V)

The message of each is what stands after the type, without a tag at its end and without blanks
around it. A text in none of them becomes an error with code 0 and the whole text as its message.
-/

namespace Columnar

/-- An error reported by the server; code 0 stands for a text that could not be read. -/
structure ServerError where
  code : Nat
  message : String
  deriving DecidableEq, Repr

namespace ServerError

/-- Whether the text of the error could be read. -/
def isDecoded (e : ServerError) : Bool :=
  e.code != 0

/-- The error in one line: the message, and the code in parentheses if there is one. -/
def summary (e : ServerError) : String :=
  if e.code = 0 then e.message else e.message ++ " (" ++ toString e.code ++ ")"

/-! ### Reading the layouts -/

/-- The greatest error code. -/
def maxCode : Nat := Text.wordMax 32

/-- What follows a given beginning of the text. -/
def after? (beginning : String) (s : List Char) : Option (List Char) :=
  if beginning.toList.isPrefixOf s then some (s.drop beginning.length) else none

/-- Neither a space nor the end of a line. -/
def isWordChar (c : Char) : Bool :=
  c != ' ' && c != '\n'

/-- Steps over a word that ends in a colon, and the space after it: `Type: `. -/
def afterType? (s : List Char) : Option (List Char) :=
  let word := s.takeWhile isWordChar
  match word.length ≥ 2 && word.getLast? == some ':', s.dropWhile isWordChar with
  | true, ' ' :: rest => some rest
  | _, _ => none

/-- Whether a text goes on with `, e.what() = Type`, with any character in place of the point. -/
def startsRepeatedType (s : List Char) : Bool :=
  match (after? ", e" s).bind fun s => after? "what() = " (s.drop 1) with
  | some (c :: _) => isWordChar c
  | _ => false

/-- The message before the first `, e.what() = Type`; it has at least one character. -/
def beforeRepeatedType? : List Char → Option (List Char)
  | [] => none
  | c :: rest =>
    if startsRepeatedType rest then some [c] else (beforeRepeatedType? rest).map (c :: ·)

/-- The text when there is any. -/
def nonempty? (s : List Char) : Option (List Char) :=
  if s.isEmpty then none else some s

/-- Steps over the space that follows the sign after a code: `. `. -/
def afterSign? : List Char → Option (List Char)
  | _ :: ' ' :: rest => some rest
  | _ => none

/-- The digits of the code, and what follows `, e.displayText() = Type: `. -/
def afterDisplay? (s : List Char) : Option (List Char × List Char) := do
  let coded ← after? "Code: " s
  let typed ← after? ", e.displayText() = " (coded.dropWhile Text.isAnyDigit)
  pure (coded.takeWhile Text.isAnyDigit, ← afterType? typed)

/-- The digits of the code, and the message, in the layout with the type repeated at the end. -/
def readRepeated? (s : List Char) : Option (List Char × List Char) := do
  let (digits, message) ← afterDisplay? s
  pure (digits, ← beforeRepeatedType? message)

/-- The digits of the code, and the message, in the layout with the type in front only. -/
def readDisplay? (s : List Char) : Option (List Char × List Char) := do
  let (digits, message) ← afterDisplay? s
  pure (digits, ← nonempty? message)

/-- The message behind a sign, a space and a type. -/
def afterSignAndType? (s : List Char) : Option (List Char) := do
  nonempty? (← afterType? (← afterSign? s))

/-- The digits of the code, and the message, in the layout with a sign after the code. The sign may
be any character, even the last digit. -/
def readPlain? (s : List Char) : Option (List Char × List Char) := do
  let coded ← after? "Code: " s
  let digits := coded.takeWhile Text.isAnyDigit
  let rest := coded.dropWhile Text.isAnyDigit
  let all := (afterSignAndType? rest).map fun message => (digits, message)
  let butLast := (afterSignAndType? (digits.drop (digits.length - 1) ++ rest)).map fun message =>
    (digits.dropLast, message)
  all <|> butLast

/-! ### The tag at the end -/

/-- What follows the closing parenthesis of a version: a text with parentheses one level deep. -/
def afterVersion? (inner : Bool) : List Char → Option (List Char)
  | [] => none
  | '(' :: rest => if inner then none else afterVersion? true rest
  | ')' :: rest => if inner then afterVersion? false rest else some rest
  | _ :: rest => afterVersion? inner rest

/-- What follows a tag in parentheses: a capital letter, then capital letters, digits and bars. -/
def afterTag? : List Char → Option (List Char)
  | '(' :: first :: rest =>
    if first.isUpper then
      match rest.dropWhile fun c => c.isUpper || c.isDigit || c = '_' with
      | ')' :: rest => some rest
      | _ => none
    else none
  | _ => none

/-- Whether a text is a tag, possibly followed by a version, and blanks. -/
def isTag (s : List Char) : Bool :=
  match afterTag? s with
  | none => false
  | some rest =>
    match after? "(version " (Text.trimStart rest) with
    | none => rest.all Text.isBlank
    | some version => ((afterVersion? false version).map (·.all Text.isBlank)).getD false

/-- The text before the tag at its end, if there is one. -/
def withoutTag : List Char → List Char
  | [] => []
  | c :: rest => if isTag (c :: rest) then [] else c :: withoutTag rest

/-! ### The error of a text -/

/-- The error with the given digits and message; `none` when the digits are no code. -/
def ofParts? (parts : List Char × List Char) : Option ServerError :=
  let (digits, message) := parts
  (Text.readNat? maxCode digits).map fun code =>
    ⟨code, String.ofList (Text.trim (withoutTag message))⟩

/-- The error that the text of a reply reports. -/
def ofText (text : String) : ServerError :=
  let s := text.toList
  let readings := [readRepeated? s, readDisplay? s, readPlain? s]
  (readings.findSome? fun reading => reading.bind ofParts?).getD ⟨0, text⟩

end ServerError

end Columnar
