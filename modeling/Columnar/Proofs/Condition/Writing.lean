import Columnar.Condition
import Columnar.Proofs.Placeholder
import Columnar.Proofs.Result
import Columnar.Proofs.Value

/-!
The text of a condition.

Writing a condition looks up the fields that it names, from left to right (`fields`), and nothing
else: it fails with the first one that the schema does not have, and without such a field its text
says nothing about the schema (`sql_eq`). A condition without raw texts, on fields that a schema has
(`IsOver`), is always written, and never as blanks, so that a clause with it is a clause.
-/

namespace Columnar.Condition

variable {schema : Schema} {c : Condition}

/-- A condition made of comparisons and lists on fields that the schema has. -/
inductive IsOver (schema : Schema) : Condition → Prop
  | compare {field : String} (h : (schema.field? field).isSome = true) (op : Comparison)
      (value : Value) : IsOver schema (.compare field op value)
  | isIn {field : String} (h : (schema.field? field).isSome = true) (values : List Value) :
      IsOver schema (.isIn field values)
  | all {parts : List Condition} (h : ∀ part ∈ parts, IsOver schema part) :
      IsOver schema (.all parts)
  | any {parts : List Condition} (h : ∀ part ∈ parts, IsOver schema part) :
      IsOver schema (.any parts)
  | negation {part : Condition} (h : IsOver schema part) : IsOver schema (.negation part)

/-! ### The text without a schema -/

mutual

/-- The text of the condition where no field is looked up. -/
def text : Condition → String
  | raw text => text
  | compare field op value => compareSql (backquoted field) op value
  | isIn field values => inSql (backquoted field) values
  | all parts => joined " AND " (texts parts)
  | any parts => joined " OR " (texts parts)
  | negation part => "NOT (" ++ text part ++ ")"

/-- The texts of a list of conditions where no field is looked up. -/
def texts : List Condition → List String
  | [] => []
  | part :: parts => text part :: texts parts

end

theorem texts_eq_map : ∀ parts : List Condition, texts parts = parts.map text
  | [] => rfl
  | part :: parts => by rw [texts, texts_eq_map parts, List.map_cons]

/-! ### Names of fields -/

mutual

/-- The names of the fields in the condition, from left to right. -/
def fields : Condition → List String
  | raw _ => []
  | compare field _ _ => [field]
  | isIn field _ => [field]
  | all parts => allFields parts
  | any parts => allFields parts
  | negation part => fields part

/-- The names of the fields in some conditions. -/
def allFields : List Condition → List String
  | [] => []
  | part :: parts => fields part ++ allFields parts

end

theorem allFields_eq_flatMap : ∀ parts : List Condition, allFields parts = parts.flatMap fields
  | [] => rfl
  | part :: parts => by rw [allFields, allFields_eq_flatMap parts, List.flatMap_cons]

/-- The first of some names that is no field of the schema. -/
def missing? (schema : Schema) (names : List String) : Option String :=
  names.find? fun name => (schema.field? name).isNone

theorem missing?_eq_none_iff {names : List String} :
    missing? schema names = none ↔ ∀ name ∈ names, (schema.field? name).isSome = true := by
  rw [missing?, List.find?_eq_none]
  simp only [Option.isNone_iff_eq_none, Option.isSome_iff_ne_none, ne_eq]

theorem of_missing?_eq_some {names : List String} {name : String}
    (h : missing? schema names = some name) : name ∈ names ∧ schema.field? name = none := by
  refine ⟨List.mem_of_find?_eq_some h, ?_⟩
  have hnone := List.find?_some h
  simpa using hnone

/-- The value, unless one of some names is no field of the schema. -/
def unlessMissing {α : Type} (schema : Schema) (names : List String) (value : α) : Result α :=
  match missing? schema names with
  | some name => .error (.validation (.noField schema.table name))
  | none => .ok value

theorem map_unlessMissing {α β : Type} (f : α → β) (names : List String) (value : α) :
    (unlessMissing schema names value).map f = unlessMissing schema names (f value) := by
  rw [unlessMissing, unlessMissing]
  cases missing? schema names <;> rfl

theorem unlessMissing_append {α : Type} (names more : List String) (value : α) :
    unlessMissing schema (names ++ more) value =
      unlessMissing schema names () >>= fun _ => unlessMissing schema more value := by
  rw [unlessMissing, unlessMissing, missing?, missing?, List.find?_append]
  cases names.find? fun name => (schema.field? name).isNone <;> rfl

theorem map_fieldSql (field : String) (f : String → String) :
    (fieldSql schema field).map f = unlessMissing schema [field] (f (backquoted field)) := by
  rw [fieldSql, unlessMissing, missing?, List.find?_singleton]
  cases schema.field? field <;> rfl

mutual

/-- A condition is written exactly if the schema has the fields that it names. -/
theorem sql_eq : ∀ c : Condition, c.sql schema = unlessMissing schema c.fields c.text
  | raw _ => rfl
  | compare field _ _ => map_fieldSql field _
  | isIn field _ => map_fieldSql field _
  | all parts => by rw [sql, sqls_eq parts, map_unlessMissing, fields, text]
  | any parts => by rw [sql, sqls_eq parts, map_unlessMissing, fields, text]
  | negation part => by rw [sql, sql_eq part, map_unlessMissing, fields, text]

theorem sqls_eq : ∀ parts : List Condition,
    sqls schema parts = unlessMissing schema (allFields parts) (texts parts)
  | [] => rfl
  | part :: parts => by
    rw [sqls, sql_eq part, sqls_eq parts, allFields, unlessMissing_append, texts]
    simp only [unlessMissing]
    cases missing? schema part.fields with
    | some name => rfl
    | none => cases missing? schema (allFields parts) <;> rfl

end

theorem IsOver.isSome_field? {name : String} (h : IsOver schema c) (hname : name ∈ c.fields) :
    (schema.field? name).isSome = true := by
  induction h with
  | compare h op value => rwa [List.mem_singleton.1 hname]
  | isIn h values => rwa [List.mem_singleton.1 hname]
  | all h ih | any h ih =>
    rw [fields, allFields_eq_flatMap, List.mem_flatMap] at hname
    obtain ⟨part, hpart, hname⟩ := hname
    exact ih part hpart hname
  | negation h ih => exact ih hname

/-- A condition on known fields is written. -/
theorem IsOver.sql_eq (h : IsOver schema c) : c.sql schema = .ok c.text := by
  rw [Condition.sql_eq, unlessMissing, missing?_eq_none_iff.2 fun _ hname => h.isSome_field? hname]

/-! ### Clauses -/

theorem isBlankText_append (s t : String) :
    Text.isBlankText (s ++ t) = (Text.isBlankText s && Text.isBlankText t) := by
  rw [Text.isBlankText, Text.isBlankText, Text.isBlankText, String.toList_append, List.all_append]

theorem isBlankText_backquoted (name : String) : Text.isBlankText (backquoted name) = false := by
  rw [backquoted, isBlankText_append, isBlankText_append]
  rfl

theorem isBlankText_compareSql (field : String) (op : Comparison) (value : Value) :
    Text.isBlankText (compareSql (backquoted field) op value) = false := by
  unfold compareSql
  split <;> simp only [isBlankText_append, isBlankText_backquoted, Bool.and_false, Bool.false_and]

theorem isBlankText_inSql (field : String) (values : List Value) :
    Text.isBlankText (inSql (backquoted field) values) = false := by
  unfold inSql
  split
  · decide
  · simp only [isBlankText_append, isBlankText_backquoted, Bool.false_and]

theorem isBlankText_joined (word : String) (parts : List String) :
    Text.isBlankText (joined word parts) = false := by
  have hpart : ∀ part, Text.isBlankText ("(" ++ part ++ ")") = false := fun part => by
    rw [isBlankText_append, isBlankText_append]
    rfl
  cases parts with
  | nil => exact (rfl : Text.isBlankText "1" = false)
  | cons part parts =>
    rw [joined, if_neg (by simp), List.map_cons]
    cases parts with
    | nil => rw [List.map_nil, String.intercalate_singleton, hpart]
    | cons next parts =>
      rw [List.map_cons, String.intercalate_cons_cons, isBlankText_append, isBlankText_append,
        hpart, Bool.false_and, Bool.false_and]

/-- A condition on fields is not written as blanks. -/
theorem IsOver.isBlankText_text (h : IsOver schema c) : Text.isBlankText c.text = false := by
  cases h with
  | compare h op value => exact isBlankText_compareSql _ op value
  | isIn h values => exact isBlankText_inSql _ values
  | all h => exact isBlankText_joined _ _
  | any h => exact isBlankText_joined _ _
  | negation h =>
    rw [text, isBlankText_append, isBlankText_append]
    rfl

theorem IsOver.whereClause_eq (h : IsOver schema c) :
    whereClause schema (some c) = .ok (" WHERE " ++ c.text) := by
  rw [whereClause, h.sql_eq, map_ok, h.isBlankText_text, if_neg Bool.false_ne_true]

/-! ### Names and quoted texts -/

mutual

/-- The names and the texts of values that stand in quotes in the text of the condition, in their
order. A list without choices is written without the name of its field. -/
def quotedTexts : Condition → List String
  | raw _ => []
  | compare field _ value => field :: value.quotedTexts
  | isIn field values => if values.isEmpty then [] else field :: Value.allQuotedTexts values
  | all parts => allQuotedTexts parts
  | any parts => allQuotedTexts parts
  | negation part => quotedTexts part

/-- The names and the texts that stand in quotes in the texts of some conditions. -/
def allQuotedTexts : List Condition → List String
  | [] => []
  | part :: parts => quotedTexts part ++ allQuotedTexts parts

end

theorem allQuotedTexts_eq_flatMap : ∀ parts : List Condition,
    allQuotedTexts parts = parts.flatMap quotedTexts
  | [] => rfl
  | part :: parts => by
    rw [allQuotedTexts, allQuotedTexts_eq_flatMap parts, List.flatMap_cons]

end Columnar.Condition
