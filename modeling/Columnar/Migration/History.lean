import Columnar.Client.Insert
import Columnar.Client.Page

/-!
The table that records which migrations have been applied, and its records.
-/

namespace Columnar

/-- One applied migration of one package. -/
structure HistoryRecord where
  package : String
  migration : String
  applied : Calendar.Date
  deriving DecidableEq

namespace HistoryRecord

/-- The schema of the table. -/
def schema : Schema :=
  { table := "clickhouse_orm_migrations"
    fields :=
      [{ name := "package_name", type := .string },
       { name := "module_name", type := .string },
       { name := "applied", type := .date }]
    engine := some (.mergeTree
      { orderBy := ["package_name", "module_name"], partitionBy := ["toYYYYMM(applied)"] }) }

/-- The record as a row of the table. -/
def row (r : HistoryRecord) : Row :=
  ⟨schema, [.text r.package, .text r.migration, .date r.applied]⟩

/-- Takes a text out of a row. -/
def takeText (r : Row) (field : String) : Result (String × Row) :=
  match r.take? field with
  | some (.text s, r) => .ok (s, r)
  | some (value, _) => .error (.parse (.notText field (some value)))
  | none => .error (.parse (.notText field none))

/-- The record that a row holds. -/
def ofRow (r : Row) : Result HistoryRecord := do
  let (package, r) ← takeText r "package_name"
  let (migration, r) ← takeText r "module_name"
  let applied ← orFail ((r.get? "applied").bind Value.asDate) (.parse (.notDate "applied"))
  pure { package, migration, applied }

end HistoryRecord

namespace Action

variable [Clocks]

/-- Runs a query and reads its rows as records of the history. An error of one record does not end
the rows. -/
def selectHistory (query : String) (options : Options) : Action (List (Result HistoryRecord)) := do
  let stream ← select query (some HistoryRecord.schema) options
  pure (stream.items.map (· >>= HistoryRecord.ofRow))

/-- One page of the history. -/
def paginateHistory (orderBy : String) (number : Int) (size : Nat) (condition : Option Condition)
    (options : Options) : Action (Page HistoryRecord) := do
  let page ← paginate HistoryRecord.schema orderBy number size condition options
  pure (page.withObjects (← ofResult (page.objects.mapM HistoryRecord.ofRow)))

/-- Records applied migrations. -/
def insertHistory (records : List HistoryRecord) : Action Unit :=
  insert (records.map HistoryRecord.row)

/-- The names of the applied migrations of a package, in ascending order. The table is created if
there is none yet. -/
def appliedMigrations (package : String) : Action (List String) := do
  createTable HistoryRecord.schema
  let records ← selectHistory
    ("SELECT module_name FROM $table WHERE package_name = " ++ Tsv.quote package) {}
  let names ← ofResult (records.mapM fun record => record.map (·.migration))
  pure (names.eraseDups.mergeSort fun a b => a ≤ b)

end Action

end Columnar
