import Columnar.Calendar.Zone
import Columnar.Value

/-!
The types of columns, and the names they have in statements and response headers.

`ColumnType.render` writes a type; an old server does not know the wrapper for low cardinality, so
it can be left out. `initial` is the value that a field holds before anything is assigned to it.
-/

namespace Columnar

/-- The widths of integers, in bits. -/
inductive IntWidth where
  | w8 | w16 | w32 | w64
  deriving DecidableEq, Repr

/-- The number of bits. -/
def IntWidth.bits : IntWidth → Nat
  | w8 => 8
  | w16 => 16
  | w32 => 32
  | w64 => 64

/-- The widths of floating-point numbers. -/
inductive FloatWidth where
  | w32 | w64
  deriving DecidableEq, Repr

/-- The widths of the codes of an enumeration. -/
inductive EnumWidth where
  | w8 | w16
  deriving DecidableEq, Repr

/-- A name of an enumeration and its code. -/
structure EnumEntry where
  name : String
  code : Int
  deriving DecidableEq, Repr

/-- The type of a column. -/
inductive ColumnType where
  | int (width : IntWidth)
  | uint (width : IntWidth)
  | float (width : FloatWidth)
  | bool
  | string
  | fixedString (length : Nat)
  | date
  /-- Points in time, read in the given zone or else in the server's. -/
  | dateTime (zone : Option Calendar.Zone)
  | uuid
  | decimal (precision scale : Nat)
  | enum (width : EnumWidth) (entries : List EnumEntry)
  | nullable (inner : ColumnType)
  /-- A hint on storage, with the values of the type inside. -/
  | lowCardinality (inner : ColumnType)
  | array (item : ColumnType)
  /-- Any other type; its values travel as their raw text. -/
  | other (name : String)
  deriving DecidableEq, Repr

namespace ColumnType

/-- One entry of an enumeration as its definition lists it. -/
def entryText (e : EnumEntry) : String :=
  Tsv.quote e.name ++ " = " ++ toString e.code

/-- The entries of an enumeration as its definition lists them. -/
def entriesText (entries : List EnumEntry) : String :=
  ", ".intercalate (entries.map entryText)

/-- The name of an enumeration type of the given width. -/
def enumName : EnumWidth → String
  | .w8 => "Enum8"
  | .w16 => "Enum16"

/-- A type that wraps another text in parentheses. -/
def applied (name arguments : String) : String :=
  name ++ "(" ++ arguments ++ ")"

/-- The name of the type; `lowCardinality` says whether the server knows that wrapper. -/
def render (lowCardinality : Bool) : ColumnType → String
  | int width => "Int" ++ toString width.bits
  | uint width => "UInt" ++ toString width.bits
  | float .w32 => "Float32"
  | float .w64 => "Float64"
  | bool => "Bool"
  | string => "String"
  | fixedString length => applied "FixedString" (toString length)
  | date => "Date"
  | dateTime none => "DateTime"
  | dateTime (some zone) => applied "DateTime" ("'" ++ zone.name ++ "'")
  | uuid => "UUID"
  | decimal precision scale => applied "Decimal" (toString precision ++ ", " ++ toString scale)
  | enum width entries => applied (enumName width) (entriesText entries)
  | nullable inner => applied "Nullable" (inner.render lowCardinality)
  | .lowCardinality inner =>
    if lowCardinality then applied "LowCardinality" (inner.render lowCardinality)
    else inner.render lowCardinality
  | array item => applied "Array" (item.render lowCardinality)
  | other name => name

/-- The full name of the type. -/
def name (t : ColumnType) : String :=
  t.render true

/-- Whether the column may hold no value. -/
def isNullable : ColumnType → Bool
  | nullable _ => true
  | lowCardinality inner => inner.isNullable
  | _ => false

/-- The value of a field that nothing was assigned to. -/
def initial : ColumnType → Value
  | int _ => .int 0
  | uint _ => .uint 0
  | float _ => .float 0
  | bool => .bool false
  | string | fixedString _ | other _ => .text ""
  | uuid => .text "00000000-0000-0000-0000-000000000000"
  | decimal .. => .text "0"
  | enum _ [] => .text ""
  | enum _ (first :: _) => .text first.name
  | date => .date .epoch
  | dateTime _ => .moment .epoch
  | nullable _ => .null
  | lowCardinality inner => inner.initial
  | array _ => .array []

/-- The least and greatest value of an integer type. -/
def intBounds? : ColumnType → Option (Int × Int)
  | int width => some (-Int.pow 2 (width.bits - 1), Int.pow 2 (width.bits - 1) - 1)
  | uint width => some (0, Int.pow 2 width.bits - 1)
  | _ => none

end ColumnType

end Columnar
