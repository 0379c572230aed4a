import Columnar.Capabilities
import Columnar.ClientError
import Columnar.ColumnType.Parser
import Columnar.Engine

/-!
Tables as the client knows them: fields with types and defaults, access flags and an engine.

A schema gives the statements that create and drop its table, and the way statements refer to it.
Fields are found by name; of two fields with one name the first counts.
-/

namespace Columnar

/-! ### Fields -/

/-- Where the value of a field comes from when a record leaves it out. -/
inductive FieldDefault where
  /-- The initial value of the type. -/
  | unset
  /-- A constant. -/
  | literal (value : Value)
  /-- An expression that the server evaluates when a row is written. -/
  | expression (sql : String)
  /-- An expression whose value is stored and never written by clients. -/
  | materialized (sql : String)
  /-- An expression whose value is not stored. -/
  | aliased (sql : String)

/-- The clause of a default in the definition of a column. -/
def FieldDefault.clause : FieldDefault → String
  | unset => ""
  | literal value => " DEFAULT " ++ value.literal
  | expression sql => " DEFAULT " ++ sql
  | materialized sql => " MATERIALIZED " ++ sql
  | aliased sql => " ALIAS " ++ sql

/-- The kind of a default as the server describes it. -/
def FieldDefault.kind : FieldDefault → String
  | unset => ""
  | literal _ | expression _ => "DEFAULT"
  | materialized _ => "MATERIALIZED"
  | aliased _ => "ALIAS"

/-- One column of a table. -/
structure Field where
  name : String
  type : ColumnType
  default : FieldDefault := .unset
  codec : Option String := none
  isReadOnly : Bool := false

/-- A name in backquotes. -/
def backquoted (name : String) : String :=
  "`" ++ name ++ "`"

namespace Field

/-- Whether records send a value for the field. -/
def isWritable (f : Field) : Bool :=
  !f.isReadOnly && match f.default with
    | .materialized _ | .aliased _ => false
    | _ => true

/-- Whether the server computes the field where a record leaves it out. -/
def hasComputedDefault (f : Field) : Bool :=
  match f.default with
  | .expression _ => true
  | _ => false

/-- The value of the field in a new row. -/
def initial (f : Field) : Value :=
  match f.default with
  | .literal value => value
  | _ => f.type.initial

/-- The definition of the column for a server. -/
def definition (server : Capabilities) (f : Field) : String :=
  let codec := match f.codec, server.codecs with
    | some codec, true => " CODEC(" ++ codec ++ ")"
    | _, _ => ""
  backquoted f.name ++ " " ++ f.type.render server.lowCardinality ++ f.default.clause ++ codec

end Field

/-! ### Schemas -/

/-- A table: its name, fields and engine, and how it may be used. -/
structure Schema where
  table : String
  fields : List Field := []
  engine : Option TableEngine := none
  isSystem : Bool := false
  isReadOnly : Bool := false
  isTemporary : Bool := false

namespace Schema

/-- The fields of columns given by name and type name. -/
def fieldsOfColumns : List (String × String) → Result (List Field)
  | [] => .ok []
  | (name, type) :: columns => do
    let type ← ColumnType.read type
    pure ({ name, type } :: (← fieldsOfColumns columns))

/-- The schema of a table with the given columns, each a name and the name of a type. -/
def ofColumns (table : String) (columns : List (String × String)) : Result Schema := do
  pure { table, fields := ← fieldsOfColumns columns }

/-- The schema as one of the server's own tables, which are never written. -/
def asSystem (s : Schema) : Schema :=
  { s with isSystem := true, isReadOnly := true }

/-- The first field with the given name. -/
def field? (s : Schema) (name : String) : Option Field :=
  s.fields.find? fun f => f.name = name

/-- The place of the first field with the given name. -/
def fieldIndex? (s : Schema) (name : String) : Option Nat :=
  s.fields.findIdx? fun f => f.name = name

/-- The fields that records send values for. -/
def writableFields (s : Schema) : List Field :=
  s.fields.filter Field.isWritable

/-- Whether the server computes a field that records may leave out. -/
def hasComputedDefaults (s : Schema) : Bool :=
  s.fields.any Field.hasComputedDefault

/-! ### Statements -/

/-- How statements refer to the table, with the given database as the client's own. -/
def reference (database : String) (s : Schema) : String :=
  if s.isSystem then "`system`." ++ backquoted s.table
  else if s.isTemporary then backquoted s.table
  else backquoted database ++ "." ++ backquoted s.table

/-- The engine that the table is created with; a system table is never created. -/
def creatable (s : Schema) : Result TableEngine :=
  if s.isSystem then .error (.validation .createSystem)
  else orFail s.engine (.config (.noEngine s.table))

/-- Refuses to drop or alter a system table. -/
def droppable (s : Schema) : Result Unit :=
  if s.isSystem then .error (.validation .dropSystem) else .ok ()

/-- The kind and the name of the table in statements that create and drop it. -/
def kindAndName (database : String) (s : Schema) : String × String :=
  if s.isTemporary then ("TEMPORARY TABLE", backquoted s.table)
  else ("TABLE", backquoted database ++ "." ++ backquoted s.table)

/-- The statement that creates the table. -/
def createStatement (database : String) (server : Capabilities) (s : Schema) : Result String := do
  let engine ← s.creatable
  let (kind, name) := s.kindAndName database
  let columns := ", ".intercalate (s.fields.map (Field.definition server))
  pure ("CREATE " ++ kind ++ " IF NOT EXISTS " ++ name ++ " (" ++ columns ++ ") ENGINE = "
    ++ engine.sql)

/-- The statement that drops the table. -/
def dropStatement (database : String) (s : Schema) : Result String := do
  s.droppable
  let (kind, name) := s.kindAndName database
  pure ("DROP " ++ kind ++ " IF EXISTS " ++ name)

end Schema

end Columnar
