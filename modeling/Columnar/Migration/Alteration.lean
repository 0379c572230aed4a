import Columnar.Client.Statement

/-!
Altering a live table to the columns of its schema.

Missing columns are added behind the field before them, columns of another type or with another kind
of default are modified, and columns that the schema does not have are dropped.
-/

namespace Columnar

/-- A change of one column of a table. -/
inductive Alteration where
  /-- Adds the column of a field behind the column with the given name, or in front of all. -/
  | add (field : Field) (after : Option String)
  | modify (field : Field)
  | drop (column : String)

namespace Alteration

/-- The clause of a statement that makes the change. -/
def clause (server : Capabilities) : Alteration → String
  | add field after =>
    let place := match after with
      | some name => " AFTER " ++ backquoted name
      | none => " FIRST"
    "ADD COLUMN " ++ field.definition server ++ place
  | modify field => "MODIFY COLUMN " ++ field.definition server
  | drop column => "DROP COLUMN " ++ backquoted column

/-- The statement that makes the change, with a placeholder for the table. -/
def statement (server : Capabilities) (change : Alteration) : String :=
  "ALTER TABLE $table " ++ change.clause server

/-- Whether a live column is as the field has it. -/
def agrees (server : Capabilities) (field : Field) (column : LiveColumn) : Bool :=
  column.type = field.type.render server.lowCardinality && column.defaultKind = field.default.kind

/-- The change for a field that stands behind the one with the given name. -/
def ofField (server : Capabilities) (live : List LiveColumn) (previous : Option String)
    (field : Field) : List Alteration :=
  match live.find? fun column => column.name = field.name with
  | none => [add field previous]
  | some column => if agrees server field column then [] else [modify field]

/-- The changes for a list of fields behind the one with the given name. -/
def ofFields (server : Capabilities) (live : List LiveColumn) :
    Option String → List Field → List Alteration
  | _, [] => []
  | previous, field :: fields =>
    ofField server live previous field ++ ofFields server live (some field.name) fields

/-- The live columns that the schema does not have. -/
def drops (schema : Schema) (live : List LiveColumn) : List Alteration :=
  (live.filter fun column => (schema.field? column.name).isNone).map fun column => drop column.name

/-- The changes that turn the live columns into those of the schema. -/
def all (server : Capabilities) (schema : Schema) (live : List LiveColumn) : List Alteration :=
  ofFields server live none schema.fields ++ drops schema live

/-- The statements that turn the live columns into those of the schema. -/
def statements (server : Capabilities) (database : String) (schema : Schema)
    (live : List LiveColumn) : List String :=
  (all server schema live).map fun change =>
    Placeholder.fill database (some schema) (change.statement server)

end Alteration

namespace Action

/-- The columns of the live table of a schema. -/
def liveColumns (schema : Schema) : Action (List LiveColumn) := do
  let query := (← connection).fill (some schema) "DESCRIBE TABLE $table FORMAT TSV"
  ofResult (LiveColumn.ofText (← raw query {}))

/-- Alters the live table to the columns of its schema. -/
def alterTable (schema : Schema) : Action Unit := do
  ofResult schema.droppable
  let server ← capabilities
  let live ← liveColumns schema
  let database := (← connection).config.database
  (Alteration.statements server database schema live).forM fun statement => do
    let _ ← raw statement {}

end Action

end Columnar
