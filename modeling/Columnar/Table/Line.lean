import Columnar.ColumnType.Encoder
import Columnar.Table.Row
import Columnar.Tsv.Escape

/-!
Rows as lines of text.

An insert has one line for each record, in one of two formats: the fields in their order between
tabs, or `key=value` pairs, which may leave out a field that the server then computes. A response
names its columns first; `LineDecoder` maps them to the fields of a schema and reads the lines that
follow.
-/

namespace Columnar

/-! ### Writing -/

/-- The format of the lines of an insert. -/
inductive LineFormat where
  | tabSeparated
  /-- Pairs of a key and a value between tabs. -/
  | keyValue
  deriving DecidableEq, Repr

/-- The name of the format in statements. -/
def LineFormat.sql : LineFormat → String
  | tabSeparated => "TabSeparated"
  | keyValue => "TSKV"

/-- The format for records of a schema: pairs when there are fields for the server to compute. -/
def Schema.insertFormat (s : Schema) : LineFormat :=
  if s.hasComputedDefaults then .keyValue else .tabSeparated

/-- Whether a field is left out of a line of pairs, so that the server computes it. -/
def Field.isLeftOut (f : Field) (value : Value) : Bool :=
  value.isNull && !f.type.isNullable && f.hasComputedDefault

/-- Whether a line has an entry for a field with the given value. -/
def LineFormat.writes (format : LineFormat) (f : Field) (value : Value) : Bool :=
  f.isWritable && !(format = .keyValue && f.isLeftOut value)

/-- The entry of a field in a line. -/
def LineFormat.entry (format : LineFormat) (f : Field) (value : Value) : Result String :=
  (f.type.encode value).map fun text =>
    match format with
    | .tabSeparated => text
    | .keyValue => Tsv.escapeKey f.name ++ "=" ++ text

/-- A line of an insert, with the newline that ends it. -/
def Schema.encodeLine (s : Schema) (values : List Value) (format : LineFormat) :
    Result String := do
  Row.checkCount s values
  let written := (s.fields.zip values).filter fun (f, value) => format.writes f value
  let entries ← written.mapM fun (f, value) => format.entry f value
  pure ("\t".intercalate entries ++ "\n")

/-- The line of a row. -/
def Row.line (r : Row) (format : LineFormat) : Result String :=
  r.schema.encodeLine r.values format

/-! ### Reading -/

/-- Reads the lines of a response as rows of a schema. -/
structure LineDecoder where
  schema : Schema
  /-- The place in the schema of each column of the response. -/
  columns : List Nat
  zone : Calendar.Zone

namespace LineDecoder

variable [Clocks]

/-- The decoder for a response with the given columns. -/
def ofNames (schema : Schema) (names : List String) (zone : Calendar.Zone) :
    Result LineDecoder := do
  let columns ← names.mapM fun name =>
    orFail (schema.fieldIndex? name) (.parse (.noColumnField schema.table name))
  pure ⟨schema, columns, zone⟩

/-- The row with the value that a field of the line gives to the column at a place. -/
def assign (d : LineDecoder) (r : Row) (column : Nat × String) : Result Row :=
  match d.schema.fields[column.1]? with
  | some f => (f.type.decode d.zone column.2).map fun value => r.setAt column.1 value
  | none => .ok r

/-- Reads one line; fields that the response does not carry keep their initial values. -/
def decode (d : LineDecoder) (line : String) : Result Row :=
  let texts := Tsv.splitLine line
  if texts.length = d.columns.length then
    (d.columns.zip texts).foldlM d.assign (Row.new d.schema)
  else .error (.parse (.columnCount d.columns.length texts.length line))

end LineDecoder

end Columnar
