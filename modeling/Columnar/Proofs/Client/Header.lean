import Columnar.Client.Insert
import Columnar.Proofs.Placeholder

/-!
The header of an insert, as the server gets it.

The header has a placeholder for the table and lists the columns in backquotes. It is filled as a
whole, so that a placeholder in the name of a column gives way too. The columns are listed by their
own names exactly if no placeholder occurs in any of them (`sentHeader_eq_iff`).
-/

namespace Columnar

/-- The names of the fields that records send values for. -/
def Schema.writableNames (s : Schema) : List String :=
  s.writableFields.map Field.name

/-- Columns in a statement: their names in backquotes, between commas. -/
def columnList (names : List String) : String :=
  ",".intercalate (names.map backquoted)

/-- The header of an insert as the client sends it. -/
def Schema.sentHeader (database : String) (s : Schema) : String :=
  Placeholder.fill database (some s) s.insertHeader

/-- The header of an insert that lists the columns by their own names. -/
def Schema.plainHeader (database : String) (s : Schema) : String :=
  "INSERT INTO " ++ s.reference database ++ " (" ++ columnList s.writableNames ++ ") FORMAT "
    ++ s.insertFormat.sql ++ "\n"

/-- The header behind the columns. -/
def Schema.headerEnd (s : Schema) : List Char :=
  (") FORMAT " ++ s.insertFormat.sql ++ "\n").toList

namespace Placeholder

/-- The table's placeholder in front of a blank gives way to the name of the table. -/
theorem fillChars_table (database : String) (schema : Schema) (rest : List Char) :
    fillChars database (some schema) ("$table ".toList ++ rest)
      = (schema.reference database).toList ++ fillChars database (some schema) (' ' :: rest) := by
  have hexpand : expand? database (some schema) ("table ".toList ++ rest)
      = some ((schema.reference database).toList, 5) := rfl
  have hhead : ("table ".toList ++ rest).head? ≠ some '$' := by
    rw [show ("table ".toList ++ rest).head? = some 't' from rfl]
    decide
  have hdollar : "$table ".toList ++ rest = '$' :: ("table ".toList ++ rest) := rfl
  have hdrop : ("table ".toList ++ rest).drop 5 = ' ' :: rest := rfl
  rw [hdollar, fillChars_dollar hhead, hexpand]
  simp only [hdrop]

/-- The table is put in at the end of a text. -/
theorem fill_table {database : String} {schema : Schema} {s : String} (h : '$' ∉ s.toList) :
    fill database (some schema) (s ++ "$table") = s ++ schema.reference database := by
  have htable := fillChars_table database schema []
  rw [List.append_nil, show "$table ".toList = "$table".toList ++ [' '] from rfl,
    fillChars_append_stop (by decide), fillChars_cons (by decide), fillChars_nil] at htable
  rw [fill_append h, fill, List.append_cancel_right htable, String.ofList_toList]

/-- A placeholder in a list of columns occurs in the name of one of them. -/
theorem closed_columnList (names : List String) :
    Closed (columnList names).toList (names.any fun name => occurs name.toList) :=
  closed_intercalate (by decide) fun name _ => closed_backquoted name

end Placeholder

open Placeholder (fillChars occurs)

variable {database : String}

theorem toList_header {front columns back sql newline : String} {a b : List Char}
    (h : front.toList = a ++ (b ++ ['('])) : (front ++ columns ++ back ++ sql ++ newline).toList
      = a ++ (b ++ '(' :: (columns.toList ++ (back ++ sql ++ newline).toList)) := by
  simp only [String.toList_append, h, List.append_assoc, List.cons_append, List.nil_append]

theorem toList_insertHeader (s : Schema) : s.insertHeader.toList
    = "INSERT INTO ".toList ++ ("$table ".toList
      ++ '(' :: ((columnList s.writableNames).toList ++ s.headerEnd)) := by
  have hfront : "INSERT INTO $table (".toList = "INSERT INTO ".toList ++ ("$table ".toList ++ ['('])
      := by decide
  have hheader : s.insertHeader = "INSERT INTO $table (" ++ columnList s.writableNames
      ++ ") FORMAT " ++ s.insertFormat.sql ++ "\n" := by
    rw [columnList, Schema.writableNames, List.map_map]
    rfl
  rw [hheader]
  exact toList_header hfront

theorem toList_plainHeader (s : Schema) : (s.plainHeader database).toList
    = "INSERT INTO ".toList ++ ((s.reference database).toList
      ++ ' ' :: '(' :: ((columnList s.writableNames).toList ++ s.headerEnd)) := by
  have hfront : ("INSERT INTO " ++ s.reference database ++ " (").toList
      = "INSERT INTO ".toList ++ (((s.reference database).toList ++ [' ']) ++ ['(']) := by
    rw [String.toList_append, String.toList_append, List.append_assoc, List.append_assoc]
    rfl
  rw [← List.singleton_append, ← List.append_assoc (s.reference database).toList]
  exact toList_header hfront

/-- The header with the table filled in; what is behind the table is filled on its own. -/
theorem toList_sentHeader (s : Schema) : (s.sentHeader database).toList
      = "INSERT INTO ".toList ++ ((s.reference database).toList
        ++ ' ' :: '(' :: fillChars database (some s)
          ((columnList s.writableNames).toList ++ s.headerEnd)) := by
  rw [Schema.sentHeader, Placeholder.fill, String.toList_ofList, toList_insertHeader,
    Placeholder.fillChars_append (by decide), Placeholder.fillChars_table,
    Placeholder.fillChars_cons (by decide), Placeholder.fillChars_cons (by decide)]

theorem occurs_headerEnd (s : Schema) : occurs s.headerEnd = false := by
  rw [Schema.headerEnd]
  cases s.insertFormat <;> decide

/-- The columns are listed by their own names exactly if no placeholder occurs in these. -/
theorem sentHeader_eq_iff (s : Schema) :
    s.sentHeader database = s.plainHeader database ↔
      ∀ name ∈ s.writableNames, occurs name.toList = false := by
  rw [← String.toList_inj, toList_sentHeader, toList_plainHeader,
    List.append_cancel_left_eq, List.append_cancel_left_eq, List.cons.injEq, List.cons.injEq,
    and_iff_right rfl, and_iff_right rfl, Placeholder.fillChars_eq_self_iff,
    Placeholder.closed_columnList, occurs_headerEnd, Bool.or_false, List.any_eq_false]
  simp only [Bool.not_eq_true]

end Columnar
