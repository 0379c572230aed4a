import Columnar.Proofs.Condition.Writing

/-!
Unknown fields in conditions.

A condition mentions the fields of its comparisons and lists, however deep they stand, and also
those of a list without choices or of a comparison with a missing value. Writing it fails exactly if
the schema lacks one of them, and the error names the first of these in reading order, whatever
stands before and behind it (`sql_eq_error_iff`).
-/

namespace Columnar.Condition

variable {schema : Schema} {name : String}

/-! ### Fields in a tree -/

/-- A comparison or a list somewhere in the condition is about the field with the name. -/
inductive Mentions (name : String) : Condition → Prop
  | compare (op : Comparison) (value : Value) : Mentions name (.compare name op value)
  | isIn (values : List Value) : Mentions name (.isIn name values)
  | all {parts : List Condition} {part : Condition} (hpart : part ∈ parts)
      (h : Mentions name part) : Mentions name (.all parts)
  | any {parts : List Condition} {part : Condition} (hpart : part ∈ parts)
      (h : Mentions name part) : Mentions name (.any parts)
  | negation {part : Condition} (h : Mentions name part) : Mentions name (.negation part)

theorem Mentions.mem_fields {c : Condition} (h : Mentions name c) : name ∈ c.fields := by
  induction h with
  | compare op value => exact List.mem_singleton_self name
  | isIn values => exact List.mem_singleton_self name
  | all hpart _ ih | any hpart _ ih =>
    rw [fields, allFields_eq_flatMap]
    exact List.mem_flatMap.2 ⟨_, hpart, ih⟩
  | negation _ ih => exact ih

mutual

theorem mentions_of_mem_fields : ∀ {c : Condition}, name ∈ c.fields → Mentions name c
  | raw _, h => absurd h List.not_mem_nil
  | compare _ op value, h => List.mem_singleton.1 h ▸ .compare op value
  | isIn _ values, h => List.mem_singleton.1 h ▸ .isIn values
  | all _, h =>
    have ⟨_, hpart, hname⟩ := exists_mentions_of_mem_allFields h
    .all hpart hname
  | any _, h =>
    have ⟨_, hpart, hname⟩ := exists_mentions_of_mem_allFields h
    .any hpart hname
  | negation _, h => .negation (mentions_of_mem_fields h)

theorem exists_mentions_of_mem_allFields : ∀ {parts : List Condition},
    name ∈ allFields parts → ∃ part ∈ parts, Mentions name part
  | [], h => absurd h List.not_mem_nil
  | part :: parts, h => by
    rw [allFields, List.mem_append] at h
    rcases h with h | h
    · exact ⟨part, List.mem_cons_self, mentions_of_mem_fields h⟩
    · obtain ⟨other, hother, hname⟩ := exists_mentions_of_mem_allFields h
      exact ⟨other, List.mem_cons_of_mem part hother, hname⟩

end

theorem mem_fields_iff {c : Condition} : name ∈ c.fields ↔ Mentions name c :=
  ⟨mentions_of_mem_fields, Mentions.mem_fields⟩

/-! ### Fields of a schema -/

/-- The schema lacks a field exactly if none of its fields has the name. -/
theorem isNone_field?_iff :
    (schema.field? name).isNone = true ↔ name ∉ schema.fields.map Field.name := by
  rw [Option.isNone_iff_eq_none, Schema.field?, List.find?_eq_none, List.mem_map, not_exists]
  simp only [decide_eq_true_eq, not_and]

/-- The first unknown name has only known names in front of it. -/
theorem missing?_eq_some_iff {names : List String} :
    missing? schema names = some name ↔ ∃ front back, names = front ++ name :: back ∧
      (∀ other ∈ front, other ∈ schema.fields.map Field.name) ∧
        name ∉ schema.fields.map Field.name := by
  have hknown : ∀ other, (!(schema.field? other).isNone) = true
      ↔ other ∈ schema.fields.map Field.name := by
    intro other
    rw [Bool.not_eq_true', ← Bool.not_eq_true, isNone_field?_iff, not_not]
  rw [missing?, List.find?_eq_some_iff_append, isNone_field?_iff]
  simp only [hknown]
  constructor
  · rintro ⟨hname, front, back, hnames, hfront⟩
    exact ⟨front, back, hnames, hfront, hname⟩
  · rintro ⟨front, back, hnames, hfront, hname⟩
    exact ⟨hname, front, back, hnames, hfront⟩

/-! ### The error -/

/-- A condition cannot be written exactly if it mentions a field that the schema lacks, anywhere in
its tree. The error is about the first such field from left to right. -/
theorem sql_eq_error_iff (schema : Schema) (c : Condition) :
    ((∃ e, c.sql schema = .error e) ↔
        ∃ name, Mentions name c ∧ name ∉ schema.fields.map Field.name) ∧
      ∀ e, c.sql schema = .error e ↔ ∃ front name back, c.fields = front ++ name :: back ∧
        (∀ other ∈ front, other ∈ schema.fields.map Field.name) ∧
        name ∉ schema.fields.map Field.name ∧ e = .validation (.noField schema.table name) := by
  have herror : ∀ e, c.sql schema = .error e ↔ ∃ name, missing? schema c.fields = some name ∧
      e = .validation (.noField schema.table name) := by
    intro e
    rw [sql_eq, unlessMissing]
    cases missing? schema c.fields with
    | none => simp
    | some name => simp [eq_comm]
  refine ⟨⟨?_, ?_⟩, fun e => ?_⟩
  · rintro ⟨e, he⟩
    obtain ⟨name, hmissing, -⟩ := (herror e).1 he
    obtain ⟨front, back, hfields, -, hname⟩ := missing?_eq_some_iff.1 hmissing
    exact ⟨name, mem_fields_iff.1 (by simp [hfields]), hname⟩
  · rintro ⟨name, hmentions, hname⟩
    cases hmissing : missing? schema c.fields with
    | none =>
      have hsome := missing?_eq_none_iff.1 hmissing name (mem_fields_iff.2 hmentions)
      rw [← isNone_field?_iff, Option.isNone_iff_eq_none] at hname
      rw [hname] at hsome
      exact absurd hsome Bool.false_ne_true
    | some first => exact ⟨_, (herror _).2 ⟨first, hmissing, rfl⟩⟩
  · rw [herror]
    constructor
    · rintro ⟨name, hmissing, rfl⟩
      obtain ⟨front, back, hfields, hfront, hname⟩ := missing?_eq_some_iff.1 hmissing
      exact ⟨front, name, back, hfields, hfront, hname, rfl⟩
    · rintro ⟨front, name, back, hfields, hfront, hname, rfl⟩
      exact ⟨name, missing?_eq_some_iff.2 ⟨front, back, hfields, hfront, hname⟩, rfl⟩

/-- A list without choices in front of a known field, below a negation. -/
example : (negation (all [isIn "height" [], any [compare "name" .eq .null]])).sql
    { table := "people", fields := [{ name := "name", type := .string }] }
      = .error (.validation (.noField "people" "height")) := by
  rfl

end Columnar.Condition
