import Columnar.Calendar.Moment
import Columnar.Decimal.Notation
import Columnar.Text.Quoted
import Columnar.Tsv.Escape

/-!
The values of a table's fields, their views as other kinds, and their two written forms.

`Value.literal` is the form in SQL statements; `Value.diagnostic` is the form in messages, which
names the kind of each value.
-/

namespace Columnar

/-- A value of one field. -/
inductive Value where
  /-- No value; only nullable columns hold it. -/
  | null
  | int (n : Int64)
  | uint (n : UInt64)
  | float (x : Float)
  | bool (b : Bool)
  /-- A text; fixed-size texts, identifiers, decimals and enumerations are texts too. -/
  | text (s : String)
  | date (d : Calendar.Date)
  | moment (m : Calendar.Moment)
  | array (items : List Value)
  deriving Inhabited

namespace Value

/-! ### Views -/

/-- Whether the field holds no value. -/
def isNull : Value → Bool
  | null => true
  | _ => false

/-- An integer of either kind, if it fits 64 bits with a sign. -/
def asInt : Value → Option Int64
  | int n => some n
  | uint n => if n.toNat < Nat.pow 2 63 then some (Int64.ofNat n.toNat) else none
  | _ => none

/-- An integer of either kind, if it is not negative. -/
def asUInt : Value → Option UInt64
  | uint n => some n
  | int n => if 0 ≤ n then some n.toUInt64 else none
  | _ => none

/-- A floating-point number. -/
def asFloat : Value → Option Float
  | float x => some x
  | _ => none

/-- A truth value; the integers 0 and 1 stand for one. -/
def asBool : Value → Option Bool
  | bool b => some b
  | int n => if n = 1 then some true else if n = 0 then some false else none
  | uint n => if n = 1 then some true else if n = 0 then some false else none
  | _ => none

/-- A text. -/
def asText : Value → Option String
  | text s => some s
  | _ => none

/-- A date, or the date of a point in time. -/
def asDate : Value → Option Calendar.Date
  | date d => some d
  | moment m => some m.date
  | _ => none

/-- A point in time. -/
def asMoment : Value → Option Calendar.Moment
  | moment m => some m
  | _ => none

/-- The items of an array. -/
def asArray : Value → Option (List Value)
  | array items => some items
  | _ => none

/-! ### Written forms -/

/-- A floating-point number as the server reads it. -/
def floatText (x : Float) : String :=
  if x.isNaN then "nan" else Decimal.plain x

/-- The words for the truth values. -/
def boolText (b : Bool) : String :=
  if b then "true" else "false"

mutual

/-- The value as a literal of a statement. -/
def literal : Value → String
  | null => "NULL"
  | int n => toString n.toInt
  | uint n => toString n.toNat
  | float x => floatText x
  | bool b => boolText b
  | text s => Tsv.quote s
  | date d => "'" ++ d.text ++ "'"
  | moment m => toString m.seconds
  | array items => "[" ++ ",".intercalate (literals items) ++ "]"

/-- The literals of a list of values. -/
def literals : List Value → List String
  | [] => []
  | value :: values => literal value :: literals values

end

mutual

/-- The value as messages show it. -/
def diagnostic : Value → String
  | null => "Null"
  | int n => "Int(" ++ toString n.toInt ++ ")"
  | uint n => "UInt(" ++ toString n.toNat ++ ")"
  | float x => "Float(" ++ Decimal.diagnostic x ++ ")"
  | bool b => "Bool(" ++ boolText b ++ ")"
  | text s => "String(" ++ Text.quoted s ++ ")"
  | date d => "Date(" ++ d.text ++ ")"
  | moment m => "DateTime(" ++ m.text ++ ")"
  | array items => "Array([" ++ ", ".intercalate (diagnostics items) ++ "])"

/-- The diagnostic forms of a list of values. -/
def diagnostics : List Value → List String
  | [] => []
  | value :: values => diagnostic value :: diagnostics values

end

end Value

end Columnar
