import Columnar.Table.Schema

/-!
Conditions on the fields of a table, and the text of a `WHERE` clause.

A condition is a tree of comparisons and lists joined by *and*, *or* and *not*. Writing it checks
that the schema has each field it names; the first unknown one in reading order is reported.
-/

namespace Columnar

/-- Comparisons of a field with a value. -/
inductive Comparison where
  | eq | ne | gt | ge | lt | le
  deriving DecidableEq, Repr

/-- The operator of a comparison. -/
def Comparison.sql : Comparison → String
  | eq => "="
  | ne => "!="
  | gt => ">"
  | ge => ">="
  | lt => "<"
  | le => "<="

/-- A condition on the rows of a table. -/
inductive Condition where
  /-- A text that is taken as it is. -/
  | raw (sql : String)
  | compare (field : String) (op : Comparison) (value : Value)
  | isIn (field : String) (values : List Value)
  | all (parts : List Condition)
  | any (parts : List Condition)
  | negation (part : Condition)

namespace Condition

/-! ### Building -/

/-- Both conditions; a first one that already is a list of parts takes the second one in. -/
def and : Condition → Condition → Condition
  | all parts, other => all (parts ++ [other])
  | first, other => all [first, other]

/-- One of the conditions; a first one that already is a list of choices takes the second one in. -/
def or : Condition → Condition → Condition
  | any parts, other => any (parts ++ [other])
  | first, other => any [first, other]

/-! ### Writing -/

/-- The backquoted name of a field that the schema has. -/
def fieldSql (schema : Schema) (field : String) : Result String :=
  if (schema.field? field).isSome then .ok (backquoted field)
  else .error (.validation (.noField schema.table field))

/-- The text of a comparison; whether a field holds no value is asked by a function. -/
def compareSql (field : String) (op : Comparison) (value : Value) : String :=
  match op, value with
  | .eq, .null => "isNull(" ++ field ++ ")"
  | .ne, .null => "isNotNull(" ++ field ++ ")"
  | op, value => field ++ " " ++ op.sql ++ " " ++ value.literal

/-- The text of a list of choices for a field; no choice is false. -/
def inSql (field : String) (values : List Value) : String :=
  if values.isEmpty then "0"
  else field ++ " IN (" ++ ", ".intercalate (Value.literals values) ++ ")"

/-- Parts in parentheses with a word between them; no part is true. -/
def joined (word : String) (parts : List String) : String :=
  if parts.isEmpty then "1"
  else word.intercalate (parts.map fun part => "(" ++ part ++ ")")

mutual

/-- The text of the condition. -/
def sql (schema : Schema) : Condition → Result String
  | raw text => .ok text
  | compare field op value =>
    (fieldSql schema field).map fun field => compareSql field op value
  | isIn field values => (fieldSql schema field).map fun field => inSql field values
  | all parts => (sqls schema parts).map (joined " AND ")
  | any parts => (sqls schema parts).map (joined " OR ")
  | negation part => (sql schema part).map fun part => "NOT (" ++ part ++ ")"

/-- The texts of a list of conditions. -/
def sqls (schema : Schema) : List Condition → Result (List String)
  | [] => .ok []
  | part :: parts => do
    let text ← sql schema part
    pure (text :: (← sqls schema parts))

end

/-- The `WHERE` clause of an optional condition; none when the condition is blank. -/
def whereClause (schema : Schema) : Option Condition → Result String
  | none => .ok ""
  | some condition => (condition.sql schema).map fun text =>
    if Text.isBlankText text then "" else " WHERE " ++ text

end Condition

end Columnar
