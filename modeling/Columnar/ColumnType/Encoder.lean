import Columnar.ColumnType.Decoder

/-!
Writing a value as a field of an insert line, by its column's type.

`scalarText` is the text of a value that is neither missing nor an array; `encode` escapes it for
the field, and `encodeElement` quotes it inside an array where the type asks for it. A value that
the type does not hold is an error.
-/

namespace Columnar.ColumnType

/-- The text of an integer, if the type is an integer type that holds it. -/
def intText (t : ColumnType) (value : Value) (n : Int) : Result String :=
  match t.ofInt? n with
  | some checked => checked.map fun _ => toString n
  | none => .error (.validation (.unfit value t))

/-- The text of a value that is neither missing nor an array. -/
def scalarText (t : ColumnType) (value : Value) : Result String :=
  match t, value with
  | int _, .int n | uint _, .int n => t.intText value n.toInt
  | int _, .uint n | uint _, .uint n => t.intText value n.toNat
  | float _, .float x | decimal .., .float x => .ok (Value.floatText x)
  | float _, .int n => .ok (toString n.toInt)
  | float _, .uint n => .ok (toString n.toNat)
  | bool, .bool b => .ok (Value.boolText b)
  | string, .text s | fixedString _, .text s | uuid, .text s | decimal .., .text s
  | other _, .text s => .ok s
  | enum _ entries, .text s =>
    if lists entries s then .ok s else .error (.validation (.unfit value t))
  | date, .date d => .ok d.text
  | date, .moment m => .ok m.date.text
  | dateTime _, .moment m => .ok (toString m.seconds)
  | dateTime _, .date d => .ok (toString d.midnight.seconds)
  | _, _ => .error (.validation (.unfit value t))

/-- Whether values of the type stand in quotes inside an array. -/
def isQuotedInArrays : ColumnType → Bool
  | string | fixedString _ | uuid | enum .. | date | other _ => true
  | _ => false

/-- The text of an element that is neither missing nor an array. -/
def scalarElement (t : ColumnType) (value : Value) : Result String :=
  (t.scalarText value).map fun text => if t.isQuotedInArrays then Tsv.quote text else text

/-- An array literal of elements that are already written. -/
def arrayText (items : List String) : String :=
  "[" ++ ",".intercalate items ++ "]"

/-- Writes a value as an element of an array. -/
def encodeElement : ColumnType → Value → Result String
  | nullable inner, value =>
    if value.isNull then .ok "NULL" else inner.encodeElement value
  | lowCardinality inner, value => inner.encodeElement value
  | array item, .array items => do
    pure (arrayText (← items.mapM fun value => item.encodeElement value))
  | t, value => t.scalarElement value

/-- Writes a value as a field of a line. -/
def encode : ColumnType → Value → Result String
  | nullable inner, value =>
    if value.isNull then .ok Tsv.nullField else inner.encode value
  | lowCardinality inner, value => inner.encode value
  | array item, .array items => encodeElement (array item) (.array items)
  | t, value => (t.scalarText value).map Tsv.escape

end Columnar.ColumnType
