import Columnar.Calendar.Reader
import Columnar.ClientError
import Columnar.Tsv.ArrayLiteral

/-!
Reading a field of a response line as a value of its column's type.

`decode` takes the field as it stands in the line, still escaped; `readText` takes the bare text of
a value that is neither missing nor an array. Elements of arrays are quoted or bare, and a bare
`NULL` is a missing value where the type allows one.
-/

namespace Columnar.ColumnType

/-- Whether an enumeration lists a name. -/
def lists (entries : List EnumEntry) (name : String) : Bool :=
  entries.any fun entry => entry.name = name

/-- The value of an integer type for `n`; an error outside its bounds, `none` for other types. -/
def ofInt? (t : ColumnType) (n : Int) : Option (Result Value) :=
  t.intBounds?.map fun (min, max) =>
    if n < min || max < n then .error (.validation (.outOfRange n t))
    else match t with
      | uint _ => .ok (.uint (UInt64.ofNat n.toNat))
      | _ => .ok (.int (Int64.ofInt n))

/-- Reads an integer of an integer type. -/
def readInt (t : ColumnType) (text : String) : Result Value :=
  let unreadable := ClientError.parse (.unreadable text t)
  match Text.readInt? (-Int.pow 2 127) (Int.pow 2 127 - 1) (Text.trim text.toList) with
  | none => .error unreadable
  | some n => (t.ofInt? n).getD (.error unreadable)

/-- Reads a truth value. -/
def readBool? (text : String) : Option Bool :=
  match Text.trimText text with
  | "true" | "1" => some true
  | "false" | "0" => some false
  | _ => none

/-- What a date or a point in time begins with when the server holds none. -/
def zeroDate : String := "0000-00-00"

/-- Reads a date; the zero date is the epoch. -/
def readDate? (text : String) : Option Calendar.Date :=
  if text = zeroDate then some .epoch else Calendar.readDate? text

variable [Clocks]

/-- Reads a point in time: seconds in digits, a zero date, or a local time of the zone. -/
def readMoment? (zone : Calendar.Zone) (text : String) : Option Calendar.Moment :=
  match Text.readDigits? text.toList with
  | some n => if n < Nat.pow 2 63 then Calendar.Moment.of? n 0 else none
  | none =>
    if zeroDate.toList.isPrefixOf text.toList then some .epoch
    else do
      let clock ← Calendar.readClockTime? text
      let seconds ← zone.ofLocal? clock.seconds
      Calendar.Moment.of? seconds clock.nanoseconds

/-- A text without the zero characters at its end. -/
def withoutPadding (text : String) : String :=
  String.ofList (text.toList.reverse.dropWhile (· = '\x00')).reverse

/-- Reads the bare text of a value; `zone` is the server's. -/
def readText (zone : Calendar.Zone) (t : ColumnType) (text : String) : Result Value :=
  let unreadable := ClientError.parse (.unreadable text t)
  match t with
  | int _ | uint _ => t.readInt text
  | float _ => (orFail (Decimal.read? (Text.trim text.toList)) unreadable).map .float
  | bool => (orFail (readBool? text) unreadable).map .bool
  | string | uuid | decimal .. | other _ => .ok (.text text)
  | fixedString _ => .ok (.text (withoutPadding text))
  | enum _ entries => if lists entries text then .ok (.text text) else .error unreadable
  | date => (orFail (readDate? text) unreadable).map .date
  | dateTime own => (orFail (readMoment? (own.getD zone) text) unreadable).map .moment
  | nullable inner | lowCardinality inner => inner.readText zone text
  | array _ => .error unreadable

/-- The elements of an array literal, or the fault in it. -/
def readElements (text : String) : Result (List Tsv.Element) :=
  orFail (Tsv.readArray? text) (.parse (.arrayLiteral text))

/-- Reads an element of an array as a value of the type. -/
def decodeElement (zone : Calendar.Zone) : ColumnType → Tsv.Element → Result Value
  | nullable inner, element =>
    if element = .bare "NULL" then .ok .null else inner.decodeElement zone element
  | lowCardinality inner, element => inner.decodeElement zone element
  | array item, .bare text => do
    let items ← (← readElements text).mapM fun element => item.decodeElement zone element
    pure (.array items)
  | array _, .quoted text => .error (.parse (.nestedArray text))
  | t, .quoted text | t, .bare text => t.readText zone text

/-- Reads a field of a line, as it stands there, as a value of the type. -/
def decode (zone : Calendar.Zone) : ColumnType → String → Result Value
  | nullable inner, field =>
    if field = Tsv.nullField then .ok .null else inner.decode zone field
  | lowCardinality inner, field => inner.decode zone field
  | array item, field => do
    let items ← (← readElements field).mapM fun element => item.decodeElement zone element
    pure (.array items)
  | t, field => do
    let text ← orFail (Tsv.unescape? field) (.parse (.danglingEscape field))
    t.readText zone text

end Columnar.ColumnType
