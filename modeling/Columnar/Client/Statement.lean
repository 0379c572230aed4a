import Columnar.Client.Probe
import Columnar.Condition
import Columnar.Table.Line

/-!
Single statements: raw ones, those on databases and tables, counts, and the description of a live
table.
-/

namespace Columnar

/-! ### Descriptions of tables -/

/-- A column of a live table as the server describes it. -/
structure LiveColumn where
  name : String
  type : String
  defaultKind : String
  deriving DecidableEq, Repr

/-- Reads one line of a description: a name, a type and the kind of default. -/
def LiveColumn.ofLine (line : String) : Result LiveColumn :=
  match Tsv.readLine line with
  | .error field => .error (.parse (.danglingEscape field))
  | .ok (name :: type :: rest) => .ok ⟨name, type, rest.headD ""⟩
  | .ok _ => .error (.parse (.descriptionLine line))

/-- Reads a description; empty lines do not count. -/
def LiveColumn.ofText (text : String) : Result (List LiveColumn) :=
  ((Text.lines text).filter (· != "")).mapM ofLine

/-- The schema that a description gives. -/
def Schema.ofDescription (table text : String) : Result Schema := do
  let columns ← LiveColumn.ofText text
  Schema.ofColumns table (columns.map fun column => (column.name, column.type))

namespace Action

/-! ### Sending -/

/-- Sends a body once the probe has succeeded. -/
def send (body : Body) (options : Options) : Action Response := do
  init
  dispatch body options

/-- Runs a statement and returns the reply; only the database's placeholder is replaced. -/
def raw (statement : String) (options : Options) : Action String := do
  let statement := (← connection).fill none statement
  init
  dispatchText statement options

/-! ### Databases -/

/-- Creates the database unless it exists. -/
def createDatabase : Action Unit := do
  init
  createDatabaseUnprobed

/-- Drops the database. -/
def dropDatabase : Action Unit := do
  init
  let database := (← connection).config.database
  let _ ← dispatchText ("DROP DATABASE " ++ backquoted database) {}
  changeConnection fun c => { c with databaseExists := false }

/-! ### Tables -/

/-- Creates the table of a schema unless it exists. -/
def createTable (schema : Schema) : Action Unit := do
  let _ ← ofResult schema.creatable
  let server ← capabilities
  let statement ← ofResult (schema.createStatement (← connection).config.database server)
  let _ ← dispatchText statement {}

/-- Drops the table of a schema if it exists. -/
def dropTable (schema : Schema) : Action Unit := do
  let statement ← ofResult (schema.dropStatement (← connection).config.database)
  init
  let _ ← dispatchText statement {}

/-- Whether the database has a table with the name of a schema. -/
def tableExists (schema : Schema) : Action Bool := do
  init
  let database := (← connection).config.database
  let reply ← dispatchText ("SELECT count() FROM system.tables WHERE database = "
    ++ Tsv.quote database ++ " AND name = " ++ Tsv.quote schema.table) {}
  pure (Text.trimText reply = "1")

/-- The schema of a live table, as the server describes it. -/
def describe (table : String) (isSystem : Bool) : Action Schema := do
  init
  let own := (← connection).config.database
  let database := if isSystem then "system" else own
  let reply ← dispatchText ("DESCRIBE " ++ backquoted database ++ "." ++ backquoted table
    ++ " FORMAT TSV") {}
  let schema ← ofResult (Schema.ofDescription table reply)
  pure (if isSystem then schema.asSystem else schema)

/-! ### Counts -/

/-- Reads the reply to a count; a blank one is zero. -/
def readCount (reply : String) : Result Nat :=
  let text := Text.trimText reply
  if text = "" then .ok 0
  else orFail (Text.readNat? (Text.wordMax 64) text.toList) (.parse (.count text))

/-- The number of rows of a table that meet a condition. -/
def count (schema : Schema) (condition : Option Condition) : Action Nat := do
  let restriction ← ofResult (Condition.whereClause schema condition)
  let statement := (← connection).fill (some schema) ("SELECT count() FROM $table" ++ restriction)
  init
  ofResult (readCount (← dispatchText statement {}))

end Action

end Columnar
