import Columnar.Settings

/-!
Storage engines of databases and tables, and their clauses in statements.
-/

namespace Columnar

/-! ### Engines of databases -/

/-- The engine of a database. -/
inductive DatabaseEngine where
  | atomic | ordinary | memory
  deriving DecidableEq, Repr, Inhabited

namespace DatabaseEngine

/-- Every engine of a database. -/
def all : List DatabaseEngine := [.atomic, .ordinary, .memory]

/-- The name of the engine in statements. -/
def sql : DatabaseEngine → String
  | atomic => "Atomic"
  | ordinary => "Ordinary"
  | memory => "Memory"

/-- The name of the engine in small letters. -/
def word : DatabaseEngine → String
  | atomic => "atomic"
  | ordinary => "ordinary"
  | memory => "memory"

/-- The engine with the given word, in any case of ASCII letters if `anyCase` holds. -/
def ofWord? (anyCase : Bool) (s : String) : Option DatabaseEngine :=
  let s := if anyCase then String.ofList (s.toList.map Char.toLower) else s
  all.find? fun engine => engine.word = s

end DatabaseEngine

/-! ### Engines of tables -/

/-- The clauses of the engines that keep rows in the order of a key. -/
structure MergeTree where
  orderBy : List String := []
  partitionBy : List String := []
  primaryKey : List String := []
  sampleBy : Option String := none
  settings : Settings := []
  deriving DecidableEq, Repr

/-- A clause with a list in parentheses, left out when the list is empty. -/
def listClause (keyword : String) (items : List String) : String :=
  if items.isEmpty then "" else " " ++ keyword ++ " (" ++ ", ".intercalate items ++ ")"

/-- The clauses of a merge tree, in the order the server expects. -/
def MergeTree.clauses (tree : MergeTree) : String :=
  let order :=
    if tree.orderBy.isEmpty then " ORDER BY tuple()" else listClause "ORDER BY" tree.orderBy
  let sample := match tree.sampleBy with
    | some sample => " SAMPLE BY " ++ sample
    | none => ""
  let pairs := tree.settings.map fun (name, text) => name ++ " = " ++ text
  let settings := if pairs.isEmpty then "" else " SETTINGS " ++ ", ".intercalate pairs
  listClause "PARTITION BY" tree.partitionBy ++ order ++ listClause "PRIMARY KEY" tree.primaryKey
    ++ sample ++ settings

/-- The engine of a table. -/
inductive TableEngine where
  | memory
  | log
  | tinyLog
  | mergeTree (tree : MergeTree)
  /-- Keeps the row with the greatest version of each key. -/
  | replacing (tree : MergeTree) (version : Option String)
  /-- Adds up the given columns of the rows of each key. -/
  | summing (tree : MergeTree) (columns : List String)
  deriving DecidableEq, Repr

/-- The engine with its clauses in a statement. -/
def TableEngine.sql : TableEngine → String
  | memory => "Memory"
  | log => "Log"
  | tinyLog => "TinyLog"
  | mergeTree tree => "MergeTree()" ++ tree.clauses
  | replacing tree version => "ReplacingMergeTree(" ++ version.getD "" ++ ")" ++ tree.clauses
  | summing tree columns =>
    let list := if columns.isEmpty then "" else "(" ++ ", ".intercalate columns ++ ")"
    "SummingMergeTree(" ++ list ++ ")" ++ tree.clauses

end Columnar
