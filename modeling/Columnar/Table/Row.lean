import Columnar.Table.Schema

/-!
Rows: a schema and one value for each of its fields, in their order.
-/

namespace Columnar

/-- The values of one record of a table. -/
structure Row where
  schema : Schema
  values : List Value

namespace Row

/-- A row with the initial value in each field. -/
def new (schema : Schema) : Row :=
  ⟨schema, schema.fields.map Field.initial⟩

/-- Refuses a list of values that is shorter or longer than the list of fields. -/
def checkCount (schema : Schema) (values : List Value) : Result Unit :=
  if values.length = schema.fields.length then .ok ()
  else .error (.validation (.valueCount schema.table schema.fields.length values.length))

/-- The row with the given values. -/
def ofValues (schema : Schema) (values : List Value) : Result Row := do
  checkCount schema values
  pure ⟨schema, values⟩

/-- The value of the field with the given name. -/
def get? (r : Row) (name : String) : Option Value :=
  (r.schema.fieldIndex? name).bind fun i => r.values[i]?

/-- The row with another value at a place. -/
def setAt (r : Row) (i : Nat) (value : Value) : Row :=
  { r with values := r.values.set i value }

/-- Takes the value of a field out of the row, which then holds none there. -/
def take? (r : Row) (name : String) : Option (Value × Row) := do
  let i ← r.schema.fieldIndex? name
  let value ← r.values[i]?
  pure (value, r.setAt i .null)

/-- The row with another value in the field with the given name. -/
def set (r : Row) (name : String) (value : Value) : Result Row := do
  let i ← orFail (r.schema.fieldIndex? name) (.validation (.noField r.schema.table name))
  pure (r.setAt i value)

end Row

end Columnar
