import Columnar.Client.Statement
import Mathlib.Data.List.Nodup

/-!
Edits of the columns of a table, as a server takes them.

A column is added behind one that is there, or in front of all; a column that is there is modified
in its place, or dropped. A server refuses everything else, and takes none of the edits behind it
(`Edit.apply`). From an edit on, it describes the column as the edit defines it.
-/

namespace Columnar

/-! ### Definitions -/

/-- The kinds of defaults. -/
inductive DefaultKind where
  | default
  | materialized
  | aliased

/-- The word for a kind, in definitions and in descriptions. -/
def DefaultKind.word : DefaultKind → String
  | default => "DEFAULT"
  | materialized => "MATERIALIZED"
  | aliased => "ALIAS"

/-- The default of a column. -/
structure ColumnDefault where
  kind : DefaultKind
  expression : String

/-- The default as it is written behind the type. -/
def ColumnDefault.text (d : ColumnDefault) : String :=
  " " ++ d.kind.word ++ " " ++ d.expression

/-- A column as an edit defines it. -/
structure ColumnDefinition where
  name : String
  type : String
  default : Option ColumnDefault
  codec : Option String

namespace ColumnDefinition

/-- The definition as it is written. -/
def text (d : ColumnDefinition) : String :=
  backquoted d.name ++ " " ++ d.type ++ (d.default.map ColumnDefault.text).getD ""
    ++ (d.codec.map fun codec => " CODEC(" ++ codec ++ ")").getD ""

/-- The column as the server describes it from then on. -/
def described (d : ColumnDefinition) : LiveColumn :=
  ⟨d.name, d.type, (d.default.map fun default => default.kind.word).getD ""⟩

end ColumnDefinition

/-! ### Columns -/

/-- Puts a column behind the one with the given name. -/
def insertBehind (anchor : String) (column : LiveColumn) : List LiveColumn → List LiveColumn
  | [] => []
  | first :: rest =>
    if first.name = anchor then first :: column :: rest
    else first :: insertBehind anchor column rest

theorem insertBehind_perm {anchor : String} (column : LiveColumn) : ∀ {columns : List LiveColumn},
    anchor ∈ columns.map LiveColumn.name →
      (insertBehind anchor column columns).Perm (column :: columns)
  | first :: rest, h => by
    rw [insertBehind]
    split
    · exact .swap column first rest
    · next hne =>
      have hrest : anchor ∈ rest.map LiveColumn.name := by
        rcases List.mem_cons.1 h with hfirst | hrest
        · exact absurd hfirst.symm hne
        · exact hrest
      exact ((insertBehind_perm column hrest).cons first).trans (.swap column first rest)

/-- Columns with different names that have one name are the same. -/
theorem eq_of_name_eq {columns : List LiveColumn} (hnodup : (columns.map LiveColumn.name).Nodup)
    {a b : LiveColumn} (ha : a ∈ columns) (hb : b ∈ columns) (h : a.name = b.name) : a = b :=
  List.inj_on_of_nodup_map hnodup ha hb h

/-! ### Edits -/

/-- A change of the columns of a table. -/
inductive Edit where
  /-- Adds a column behind the one with the given name, or in front of all. -/
  | add (column : ColumnDefinition) (after : Option String)
  | modify (column : ColumnDefinition)
  | drop (name : String)

namespace Edit

/-- The place of a column that is added. -/
def place : Option String → String
  | some anchor => " AFTER " ++ backquoted anchor
  | none => " FIRST"

/-- The edit as it is written behind the table. -/
def clause : Edit → String
  | add column after => "ADD COLUMN " ++ column.text ++ place after
  | modify column => "MODIFY COLUMN " ++ column.text
  | drop name => "DROP COLUMN " ++ backquoted name

/-- The statement that makes the edit in a table. -/
def statement (table : String) (e : Edit) : String :=
  "ALTER TABLE " ++ table ++ " " ++ e.clause

/-- The columns after an edit, unless the server refuses it: only a column that is absent is added,
behind one that is present, and only a column that is present is modified or dropped. -/
def apply (columns : List LiveColumn) : Edit → Option (List LiveColumn)
  | add column none =>
    if column.name ∈ columns.map LiveColumn.name then none else some (column.described :: columns)
  | add column (some anchor) =>
    if column.name ∈ columns.map LiveColumn.name ∨ anchor ∉ columns.map LiveColumn.name then none
    else some (insertBehind anchor column.described columns)
  | modify column =>
    if column.name ∈ columns.map LiveColumn.name then
      some (columns.map fun c => if c.name = column.name then column.described else c)
    else none
  | drop name =>
    if name ∈ columns.map LiveColumn.name then some (columns.filter fun c => c.name ≠ name)
    else none

/-- The columns after edits one behind the other, unless the server refuses one of them. -/
def applyAll (script : List Edit) (columns : List LiveColumn) : Option (List LiveColumn) :=
  script.foldlM apply columns

theorem applyAll_append {front : List Edit} {columns between : List LiveColumn}
    (h : applyAll front columns = some between) (rest : List Edit) :
    applyAll (front ++ rest) columns = applyAll rest between := by
  rw [applyAll, List.foldlM_append]
  exact congrArg (· >>= applyAll rest) h

/-! ### What an edit leaves -/

/-- Among the columns is the one that is wanted, and the others are as they were. -/
structure Leaves (columns : List LiveColumn) (wanted : LiveColumn) (after : List LiveColumn) :
    Prop where
  nodup : (after.map LiveColumn.name).Nodup
  mem_iff : ∀ c, c ∈ after ↔ c = wanted ∨ c ∈ columns ∧ c.name ≠ wanted.name

variable {columns : List LiveColumn} {column : ColumnDefinition}

/-- A column that is already as it is wanted needs no edit. -/
theorem leaves_self (hnodup : (columns.map LiveColumn.name).Nodup) {wanted : LiveColumn}
    (h : wanted ∈ columns) : Leaves columns wanted columns where
  nodup := hnodup
  mem_iff c := by
    constructor
    · intro hc
      by_cases hname : c.name = wanted.name
      · exact .inl (eq_of_name_eq hnodup hc h hname)
      · exact .inr ⟨hc, hname⟩
    · rintro (rfl | ⟨hc, -⟩)
      · exact h
      · exact hc

/-- A column that is absent is added in front of all, or behind one that is present. -/
theorem exists_apply_add (hnodup : (columns.map LiveColumn.name).Nodup) {after : Option String}
    (habsent : column.name ∉ columns.map LiveColumn.name)
    (hafter : ∀ anchor, after = some anchor → anchor ∈ columns.map LiveColumn.name) :
    ∃ next, apply columns (add column after) = some next ∧
      Leaves columns column.described next := by
  have hleaves : ∀ next : List LiveColumn, next.Perm (column.described :: columns) →
      Leaves columns column.described next := by
    intro next hperm
    refine ⟨(hperm.map LiveColumn.name).nodup_iff.2 (List.nodup_cons.2 ⟨habsent, hnodup⟩),
      fun c => ?_⟩
    rw [hperm.mem_iff, List.mem_cons]
    refine or_congr_right ⟨fun hc => ⟨hc, fun hname => habsent ?_⟩, And.left⟩
    exact List.mem_map.2 ⟨c, hc, hname⟩
  cases after with
  | none =>
    refine ⟨column.described :: columns, ?_, hleaves _ (.refl _)⟩
    rw [apply, if_neg habsent]
  | some anchor =>
    have hanchor := hafter anchor rfl
    refine ⟨insertBehind anchor column.described columns, ?_,
      hleaves _ (insertBehind_perm _ hanchor)⟩
    rw [apply, if_neg (not_or.2 ⟨habsent, not_not.2 hanchor⟩)]

/-- A column that is present is modified. -/
theorem exists_apply_modify (hnodup : (columns.map LiveColumn.name).Nodup)
    (hpresent : column.name ∈ columns.map LiveColumn.name) :
    ∃ next, apply columns (modify column) = some next ∧
      Leaves columns column.described next := by
  have hnames : (columns.map fun c => if c.name = column.name then column.described else c).map
      LiveColumn.name = columns.map LiveColumn.name := by
    rw [List.map_map]
    refine List.map_congr_left fun c _ => ?_
    by_cases hname : c.name = column.name
    · simp [hname, ColumnDefinition.described]
    · simp [hname]
  refine ⟨_, by rw [apply, if_pos hpresent], by rwa [hnames], fun c => ?_⟩
  obtain ⟨old, hold, holdname⟩ := List.mem_map.1 hpresent
  rw [List.mem_map]
  constructor
  · rintro ⟨other, hother, rfl⟩
    by_cases hname : other.name = column.name
    · exact .inl (if_pos hname)
    · rw [if_neg hname]
      exact .inr ⟨hother, hname⟩
  · rintro (rfl | ⟨hc, hname⟩)
    · exact ⟨old, hold, if_pos holdname⟩
    · exact ⟨c, hc, if_neg hname⟩

/-- Columns that are present are dropped one after another. -/
theorem applyAll_drop : ∀ {names : List String} {columns : List LiveColumn}, names.Nodup →
    names ⊆ columns.map LiveColumn.name →
      applyAll (names.map drop) columns = some (columns.filter fun c => c.name ∉ names)
  | [], columns, _, _ => by simp [applyAll]
  | name :: names, columns, hnodup, hpresent => by
    obtain ⟨hname, hnodup⟩ := List.nodup_cons.1 hnodup
    have hleft : names ⊆ (columns.filter fun c => c.name ≠ name).map LiveColumn.name := by
      intro other hother
      obtain ⟨c, hc, rfl⟩ := List.mem_map.1 (hpresent (List.mem_cons_of_mem name hother))
      have hne : c.name ≠ name := fun heq => hname (heq ▸ hother)
      exact List.mem_map.2 ⟨c, List.mem_filter.2 ⟨hc, by simpa using hne⟩, rfl⟩
    have hdrop : apply columns (drop name) = some (columns.filter fun c => c.name ≠ name) := by
      rw [apply, if_pos (hpresent List.mem_cons_self)]
    have hstep : applyAll ((name :: names).map drop) columns
        = applyAll (names.map drop) (columns.filter fun c => c.name ≠ name) := by
      rw [applyAll, List.map_cons, List.foldlM_cons, hdrop]
      rfl
    rw [hstep, applyAll_drop hnodup hleft, List.filter_filter]
    congr 1
    refine List.filter_congr fun c _ => ?_
    simp [Bool.and_comm]

end Edit

end Columnar
