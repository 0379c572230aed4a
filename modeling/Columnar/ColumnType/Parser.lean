import Columnar.ClientError
import Columnar.Text.Blank
import Columnar.Text.Numeral

/-!
Reading the name of a column type.

A name is a wrapper around another type, a type with arguments, or a plain word; a word that is no
known type is kept as `ColumnType.other`. Blanks around a name do not count.
-/

namespace Columnar.ColumnType

/-- The text between the parentheses of `name(…)`. -/
def arguments? (name : String) (s : List Char) : Option (List Char) :=
  if name.toList.isPrefixOf s then
    match s.drop name.length with
    | '(' :: rest => if rest.getLast? = some ')' then some rest.dropLast else none
    | _ => none
  else none

theorem length_of_arguments? {name : String} {s a : List Char} (h : arguments? name s = some a) :
    a.length < s.length := by
  unfold arguments? at h
  split at h
  · split at h
    · next rest hs =>
      split at h
      · have hlen := congrArg List.length hs
        simp only [List.length_drop, List.length_cons] at hlen
        have ha : rest.dropLast = a := by simpa using h
        have := congrArg List.length ha
        simp only [List.length_dropLast] at this
        omega
      · simp at h
    · simp at h
  · simp at h

/-! ### Wrappers -/

/-- The types that wrap one other type. -/
inductive Wrapper where
  | nullable | lowCardinality | array
  deriving DecidableEq

/-- The name of a wrapper. -/
def Wrapper.name : Wrapper → String
  | nullable => "Nullable"
  | lowCardinality => "LowCardinality"
  | array => "Array"

/-- The type that a wrapper makes of another. -/
def Wrapper.apply : Wrapper → ColumnType → ColumnType
  | nullable => ColumnType.nullable
  | lowCardinality => ColumnType.lowCardinality
  | array => ColumnType.array

/-- The wrapper that a name begins with, and what it wraps. -/
def wrapped? (s : List Char) : Option (Wrapper × List Char) :=
  [Wrapper.nullable, .lowCardinality, .array].findSome? fun wrapper =>
    (arguments? wrapper.name s).map (wrapper, ·)

theorem length_of_wrapped? {s a : List Char} {wrapper : Wrapper}
    (h : wrapped? s = some (wrapper, a)) : a.length < s.length := by
  obtain ⟨w, _, hw⟩ := List.exists_of_findSome?_eq_some h
  obtain ⟨b, hb, heq⟩ := Option.map_eq_some_iff.1 hw
  cases heq
  exact length_of_arguments? hb

/-! ### Enumerations -/

/-- A quoted name behind its opening quote, unescaped, and what follows the closing quote. -/
def readQuoted? : List Char → Option (List Char × List Char)
  | [] => none
  | '\'' :: rest => some ([], rest)
  | '\\' :: [] => none
  | '\\' :: mark :: rest =>
    (readQuoted? rest).map fun (name, rest) => (Tsv.markedChar mark :: name, rest)
  | c :: rest => (readQuoted? rest).map fun (name, rest) => (c :: name, rest)

theorem length_of_readQuoted? {s name rest : List Char} (h : readQuoted? s = some (name, rest)) :
    rest.length < s.length := by
  fun_induction readQuoted? s generalizing name with
  | case1 => simp at h
  | case2 => simp_all
  | case3 => simp at h
  | case4 mark tail ih =>
    obtain ⟨⟨n, r⟩, hr, heq⟩ := Option.map_eq_some_iff.1 h
    cases heq
    have := ih hr
    simp only [List.length_cons]
    omega
  | case5 c tail _ _ _ ih =>
    obtain ⟨⟨n, r⟩, hr, heq⟩ := Option.map_eq_some_iff.1 h
    cases heq
    have := ih hr
    simp only [List.length_cons]
    omega

/-- Reads `= code` up to the next comma, and returns what follows the comma. -/
def readCode? (s : List Char) : Option (Int × List Char) :=
  match Text.trimStart s with
  | '=' :: rest =>
    (Text.readInt? (-32768) 32767 (Text.trim (rest.takeWhile (· != ',')))).map fun code =>
      (code, (rest.dropWhile (· != ',')).drop 1)
  | _ => none

theorem length_dropWhile_le {α : Type} (p : α → Bool) (l : List α) :
    (l.dropWhile p).length ≤ l.length :=
  (List.dropWhile_sublist p).length_le

theorem length_of_readCode? {s rest : List Char} {code : Int}
    (h : readCode? s = some (code, rest)) : rest.length < s.length := by
  unfold readCode? at h
  split at h
  · next tail hs =>
    obtain ⟨n, _, heq⟩ := Option.map_eq_some_iff.1 h
    cases heq
    have h1 := length_dropWhile_le Text.isBlank s
    have h2 := length_dropWhile_le (· != ',') tail
    have h3 := congrArg List.length hs
    simp only [Text.trimStart, List.length_cons] at h3
    simp only [List.length_drop]
    omega
  · simp at h

/-- Reads one entry of an enumeration, and returns what follows it. -/
def readEntry? : List Char → Option (EnumEntry × List Char)
  | '\'' :: s =>
    (readQuoted? s).bind fun (name, s) =>
      (readCode? s).map fun (code, s) => (⟨String.ofList name, code⟩, s)
  | _ => none

theorem length_of_readEntry? {s rest : List Char} {entry : EnumEntry}
    (h : readEntry? s = some (entry, rest)) : rest.length < s.length := by
  unfold readEntry? at h
  split at h
  · obtain ⟨⟨name, s1⟩, h1, h2⟩ := Option.bind_eq_some_iff.1 h
    obtain ⟨⟨code, s2⟩, h3, heq⟩ := Option.map_eq_some_iff.1 h2
    cases heq
    have := length_of_readQuoted? h1
    have := length_of_readCode? h3
    simp only [List.length_cons]
    omega
  · simp at h

/-- Reads the entries of an enumeration; `none` when one of them is malformed. -/
def readEntries? (s : List Char) : Option (List EnumEntry) :=
  match _hs : Text.trimStart s with
  | [] => some []
  | c :: tail =>
    match _h : readEntry? (c :: tail) with
    | none => none
    | some (entry, rest) => (readEntries? rest).map (entry :: ·)
termination_by s.length
decreasing_by
  have h1 := length_of_readEntry? _h
  have h2 := length_dropWhile_le Text.isBlank s
  rw [← _hs] at h1
  simp only [Text.trimStart] at h1
  omega

/-! ### Types with arguments -/

/-- An enumeration type with the given entries. -/
def readEnum (width : EnumWidth) (entries : List Char) : Result ColumnType :=
  orFail ((readEntries? entries).map (ColumnType.enum width))
    (.parse (.enumDefinition (String.ofList entries)))

/-- Drops the single quotes at both ends. -/
def withoutQuotes (s : List Char) : List Char :=
  ((s.dropWhile (· = '\'')).reverse.dropWhile (· = '\'')).reverse

/-- The type of points in time in the zone with the given name. -/
def readZoned (argument : List Char) : Result ColumnType :=
  let zone := String.ofList (withoutQuotes (Text.trim argument))
  orFail ((Calendar.Zone.ofName? zone).map fun zone => ColumnType.dateTime (some zone))
    (.parse (.zone zone))

/-- Precision and scale of a decimal type. -/
def readDecimal? (arguments : List Char) : Option ColumnType :=
  match (arguments.splitOn ',').map fun s => Text.readNat? 255 (Text.trim s) with
  | [some precision, some scale] => some (ColumnType.decimal precision scale)
  | _ => none

/-- The type that a plain word names. -/
def ofWord (word : String) : ColumnType :=
  match word with
  | "Int8" => int .w8
  | "Int16" => int .w16
  | "Int32" => int .w32
  | "Int64" => int .w64
  | "UInt8" => uint .w8
  | "UInt16" => uint .w16
  | "UInt32" => uint .w32
  | "UInt64" => uint .w64
  | "Float32" => float .w32
  | "Float64" => float .w64
  | "Bool" | "Boolean" => bool
  | "String" => string
  | "Date" => date
  | "DateTime" => dateTime none
  | "UUID" => uuid
  | word => other word

/-- Reads a name that is no wrapper. -/
def readPlain (s : List Char) : Result ColumnType :=
  let text := String.ofList s
  match arguments? "FixedString" s, arguments? "DateTime" s, arguments? "Decimal" s,
      arguments? "Enum8" s, arguments? "Enum16" s with
  | some length, _, _, _, _ =>
    orFail ((Text.readNat? (Text.wordMax 64) (Text.trim length)).map fixedString)
      (.parse (.fixedStringLength text))
  | _, some zone, _, _, _ => readZoned zone
  | _, _, some arguments, _, _ =>
    orFail (readDecimal? arguments) (.parse (.decimalArguments text))
  | _, _, _, some entries, _ => readEnum .w8 entries
  | _, _, _, _, some entries => readEnum .w16 entries
  | none, none, none, none, none => .ok (ofWord text)

/-! ### All types -/

theorem length_trim_le (s : List Char) : (Text.trim s).length ≤ s.length := by
  have h1 := length_dropWhile_le Text.isBlank s
  have h2 := length_dropWhile_le Text.isBlank (Text.trimStart s).reverse
  simp only [Text.trim, Text.trimEnd, Text.trimStart, List.length_reverse] at *
  omega

/-- Reads the name of a type, given as characters. -/
def readChars (s : List Char) : Result ColumnType :=
  match _h : wrapped? (Text.trim s) with
  | some (wrapper, inner) => (readChars inner).map wrapper.apply
  | none => readPlain (Text.trim s)
termination_by s.length
decreasing_by
  have h1 := length_of_wrapped? _h
  have h2 := length_trim_le s
  omega

/-- Reads the name of a type. -/
def read (name : String) : Result ColumnType :=
  readChars name.toList

end Columnar.ColumnType
