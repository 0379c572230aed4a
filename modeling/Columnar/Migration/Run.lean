import Columnar.Migration.Alteration
import Columnar.Migration.History

/-!
Migrations: named steps that change a database, applied in the order of their names.

Each migration that has been applied is recorded, and is not applied again. A run stops behind the
first migration whose number reaches the bound that the caller gives.
-/

namespace Columnar

/-- One step of a migration. -/
inductive Operation where
  | createTable (schema : Schema)
  | dropTable (schema : Schema)
  | alterTable (schema : Schema)
  | runStatements (statements : List String)
  | runAction (action : Action Unit)

namespace Operation

/-- What the step does, in a few words. -/
def label : Operation → String
  | createTable schema => "create table " ++ schema.table
  | dropTable schema => "drop table " ++ schema.table
  | alterTable schema => "alter table " ++ schema.table
  | runStatements statements => "run " ++ toString statements.length ++ " statement(s)"
  | runAction _ => "run function"

/-- Takes the step. -/
def apply : Operation → Action Unit
  | createTable schema => Action.createTable schema
  | dropTable schema => Action.dropTable schema
  | alterTable schema => Action.alterTable schema
  | runStatements statements => statements.forM fun statement => do
    let _ ← Action.raw statement {}
  | runAction action => action

end Operation

/-- Steps that are taken together and recorded once. -/
structure Migration where
  name : String
  operations : List Operation := []

namespace Migration

/-- The digits that the name begins with, at most four, as a number. -/
def number? (m : Migration) : Option Nat :=
  Text.readDigits? ((m.name.toList.take 4).takeWhile Char.isDigit)

/-- Whether a run with the given bound stops behind the migration. -/
def reaches (m : Migration) (bound : Nat) : Bool :=
  m.number?.any fun number => bound ≤ number

/-- A list of quoted texts as messages show it. -/
def listDiagnostic (items : List String) : String :=
  "[" ++ ", ".intercalate items ++ "]"

/-- The migration as messages show it. -/
def diagnostic (m : Migration) : String :=
  let labels := m.operations.map fun operation => Text.quoted operation.label
  "Migration \x7b name: " ++ Text.quoted m.name ++ ", operations: " ++ listDiagnostic labels
    ++ " \x7d"

end Migration

/-- The migrations of one application. -/
structure Package where
  name : String
  migrations : List Migration := []

namespace Package

/-- The package as messages show it. -/
def diagnostic (p : Package) : String :=
  "MigrationPackage \x7b name: " ++ Text.quoted p.name ++ ", migrations: "
    ++ Migration.listDiagnostic (p.migrations.map Migration.diagnostic) ++ " \x7d"

/-- The first name of a list that occurs before in it, or among the names already seen. -/
def firstRepeated? (seen : List String) : List String → Option String
  | [] => none
  | name :: names => if seen.contains name then some name else firstRepeated? (name :: seen) names

/-- Refuses two migrations with one name. -/
def checkNames (p : Package) : Result Unit :=
  match firstRepeated? [] (p.migrations.map Migration.name) with
  | some name => .error (.config (.repeatedMigration name p.name))
  | none => .ok ()

/-- The migrations not yet applied, in ascending order of their names. -/
def pending (p : Package) (applied : List String) : List Migration :=
  (p.migrations.filter fun m => !applied.contains m.name).mergeSort fun a b => a.name ≤ b.name

end Package

namespace Action

/-- Takes the steps of a migration in order; an error names the migration. -/
def applyOperations (m : Migration) : Action Unit :=
  m.operations.forM fun operation =>
    tryCatch operation.apply fun error => throw (.migration m.name error)

/-- Applies migrations one after another and records each on the given day; the result is the names
of those applied. -/
def applyMigrations (package : String) (today : Calendar.Date) (bound : Nat) :
    List Migration → Action (List String)
  | [] => pure []
  | m :: rest => do
    applyOperations m
    insertHistory [⟨package, m.name, today⟩]
    if m.reaches bound then pure [m.name]
    else pure (m.name :: (← applyMigrations package today bound rest))

/-- Applies the pending migrations of a package, up to and including the first one whose number
reaches the bound. -/
def migrate [Clocks] (package : Package) (today : Calendar.Date) (bound : Nat) :
    Action (List String) := do
  ofResult package.checkNames
  let applied ← appliedMigrations package.name
  applyMigrations package.name today bound (package.pending applied)

/-- The bound that no four digits exceed. -/
def lastMigration : Nat := 9999

end Action

end Columnar
