import Columnar.Proofs.Result
import Columnar.Table.Line
import Mathlib.Data.List.Nodup

/-!
Values that are put into a row one after another.

A place of the row has the last value that was put in there, or else its old one
(`getElem?_setAll`); at distinct places the order does not matter (`setAll_perm`). The texts of a
line are read in their order and then put in: a line fails with the first text that cannot be read,
and the order matters only where two columns share a place (`decode_eq`).
-/

namespace Columnar

/-- A name that is found is the name of a field. -/
theorem exists_of_isSome_field? {s : Schema} {name : String} (h : (s.field? name).isSome = true) :
    ∃ f ∈ s.fields, f.name = name := by
  obtain ⟨f, hf⟩ := Option.isSome_iff_exists.1 h
  rw [Schema.field?] at hf
  exact ⟨f, List.mem_of_find?_eq_some hf, by simpa using List.find?_some hf⟩

/-- A name is found at the place of the first field that has it. -/
theorem fieldIndex?_of_mem {s : Schema} {name : String} (h : name ∈ s.fields.map Field.name) :
    s.fieldIndex? name = some ((s.fields.map Field.name).idxOf name) := by
  have hlt := List.idxOf_lt_length_of_mem h
  rw [List.length_map] at hlt
  rw [Schema.fieldIndex?, List.findIdx?_eq_some_iff_findIdx_eq]
  refine ⟨hlt, ?_⟩
  rw [List.idxOf, List.findIdx_map]
  rfl

/-- Where keys are not repeated, a key is looked up as the value that stands with it. -/
theorem lookup_of_mem {κ γ : Type} [BEq κ] [LawfulBEq κ] {a : κ} {b : γ} :
    ∀ {l : List (κ × γ)}, (l.map Prod.fst).Nodup → (a, b) ∈ l → l.lookup a = some b
  | p :: l, hnodup, hmem => by
    rw [List.map_cons, List.nodup_cons] at hnodup
    rw [List.lookup_cons]
    rcases List.mem_cons.1 hmem with rfl | hmem
    · simp
    · have hne : a ≠ p.1 := fun h => hnodup.1 (h ▸ List.mem_map_of_mem hmem)
      simp [beq_eq_false_iff_ne.2 hne, lookup_of_mem hnodup.2 hmem]

namespace Row

/-- The row with values put in at places, one after the other. -/
def setAll (r : Row) (assignments : List (Nat × Value)) : Row :=
  assignments.foldl (fun r a => r.setAt a.1 a.2) r

/-- The value that is put in last at a place. -/
def lastAt? (assignments : List (Nat × Value)) (i : Nat) : Option Value :=
  assignments.reverse.lookup i

theorem lastAt?_cons (j : Nat) (value : Value) (rest : List (Nat × Value)) (i : Nat) :
    lastAt? ((j, value) :: rest) i = (lastAt? rest i).or (if i = j then some value else none) := by
  rw [lastAt?, List.reverse_cons, List.lookup_append, ← lastAt?]
  by_cases h : i = j
  · simp [h]
  · simp [h, List.lookup_cons, beq_eq_false_iff_ne.2 h]

theorem lastAt?_eq_none {assignments : List (Nat × Value)} {i : Nat}
    (h : ∀ a ∈ assignments, a.1 ≠ i) : lastAt? assignments i = none := by
  rw [lastAt?, List.lookup_eq_none_iff]
  intro a ha
  exact bne_iff_ne.2 (h a (List.mem_reverse.1 ha)).symm

/-- A place where a value is put in has one of the values that are put in there. -/
theorem exists_lastAt? {assignments : List (Nat × Value)} {i : Nat}
    (h : ∃ a ∈ assignments, a.1 = i) :
    ∃ value, lastAt? assignments i = some value ∧ (i, value) ∈ assignments := by
  cases hlast : lastAt? assignments i with
  | none =>
    obtain ⟨a, ha, rfl⟩ := h
    have hne := List.lookup_eq_none_iff.1 hlast a (List.mem_reverse.2 ha)
    exact absurd hne (by simp)
  | some value =>
    obtain ⟨front, behind, happend, -⟩ := List.lookup_eq_some_iff.1 hlast
    refine ⟨value, rfl, List.mem_reverse.1 ?_⟩
    rw [happend]
    exact List.mem_append_right front List.mem_cons_self

/-- Where no two values are put in at one place, each is the last one at its place. -/
theorem lastAt?_of_mem {assignments : List (Nat × Value)} {i : Nat} {value : Value}
    (hnodup : (assignments.map Prod.fst).Nodup) (h : (i, value) ∈ assignments) :
    lastAt? assignments i = some value := by
  refine lookup_of_mem ?_ (List.mem_reverse.2 h)
  rw [List.map_reverse]
  exact List.nodup_reverse.2 hnodup

@[simp] theorem schema_setAll (r : Row) (assignments : List (Nat × Value)) :
    (r.setAll assignments).schema = r.schema := by
  induction assignments generalizing r with
  | nil => rfl
  | cons a rest ih => exact ih (r.setAt a.1 a.2)

@[simp] theorem length_setAll (r : Row) (assignments : List (Nat × Value)) :
    (r.setAll assignments).values.length = r.values.length := by
  induction assignments generalizing r with
  | nil => rfl
  | cons a rest ih => exact (ih (r.setAt a.1 a.2)).trans List.length_set

/-- A place has the last value that was put in there, or else its old one. -/
theorem getElem?_setAll (r : Row) (assignments : List (Nat × Value)) (i : Nat) :
    (r.setAll assignments).values[i]?
      = r.values[i]?.map fun old => (lastAt? assignments i).getD old := by
  induction assignments generalizing r with
  | nil => simp [setAll, lastAt?]
  | cons a rest ih =>
    rcases a with ⟨j, value⟩
    have hrest : (r.setAll ((j, value) :: rest)).values[i]? = _ := ih (r.setAt j value)
    rw [hrest, setAt, List.getElem?_set, lastAt?_cons]
    by_cases h : j = i
    · subst h
      by_cases hlt : j < r.values.length
      · cases hlast : lastAt? rest j <;> simp [hlt]
      · simp [hlt]
    · cases hlast : lastAt? rest i <;> simp [h, Ne.symm h]

/-- Values are put in at distinct places in any order. -/
theorem setAll_perm (r : Row) {assignments assignments' : List (Nat × Value)}
    (hnodup : (assignments.map Prod.fst).Nodup) (h : assignments.Perm assignments') :
    r.setAll assignments = r.setAll assignments' := by
  refine h.foldl_eq' (fun a ha b hb r => ?_) r
  by_cases hab : a = b
  · rw [hab]
  · have hplaces : a.1 ≠ b.1 := fun heq => hab (List.inj_on_of_nodup_map hnodup ha hb heq)
    rw [setAt, setAt, setAt, setAt, List.set_comm _ _ hplaces]

end Row

/-! ### Reading lines -/

namespace LineDecoder

variable {d : LineDecoder}

/-- The decoder for columns that a schema has fields for. -/
theorem ofNames_eq {s : Schema} {names : List String}
    (h : ∀ name ∈ names, name ∈ s.fields.map Field.name) (zone : Calendar.Zone) :
    ofNames s names zone = .ok ⟨s, names.map (s.fields.map Field.name).idxOf, zone⟩ := by
  have hplaces : names.mapM (fun name =>
      orFail (s.fieldIndex? name) (.parse (.noColumnField s.table name)))
        = .ok (names.map (s.fields.map Field.name).idxOf) := by
    rw [mapM_eq_ok_iff, List.forall₂_map_right_iff, List.forall₂_same]
    intro name hname
    rw [fieldIndex?_of_mem (h name hname), orFail_some]
  rw [ofNames, hplaces]
  rfl

/-- The value that a text gives to the place of its column. -/
def read [Clocks] (d : LineDecoder) (column : Nat × String) : Result (Nat × Value) :=
  match d.schema.fields[column.1]? with
  | some f => (f.type.decode d.zone column.2).map fun value => (column.1, value)
  | none => .ok (column.1, .null)

theorem assign_eq [Clocks] {column : Nat × String} (h : column.1 < d.schema.fields.length)
    (r : Row) :
    d.assign r column = (d.read column).map fun a => r.setAt a.1 a.2 := by
  rw [assign, read, List.getElem?_eq_getElem h]
  simp only
  cases (d.schema.fields[column.1]).type.decode d.zone column.2 <;> rfl

/-- Texts that are assigned one after the other can be read first and then put in. -/
theorem foldlM_assign_eq [Clocks] {columns : List (Nat × String)}
    (h : ∀ column ∈ columns, column.1 < d.schema.fields.length) (r : Row) :
    columns.foldlM d.assign r = (columns.mapM d.read).map r.setAll := by
  induction columns generalizing r with
  | nil => rfl
  | cons column columns ih =>
    have hrest := ih fun c hc => h c (List.mem_cons_of_mem column hc)
    rw [List.foldlM_cons, List.mapM_cons, assign_eq (h column List.mem_cons_self)]
    cases d.read column with
    | error e => rfl
    | ok a =>
      rw [map_ok, ok_bind, ok_bind, hrest]
      cases columns.mapM d.read <;> rfl

/-- A line with a text for each column is read text by text. -/
theorem decode_eq [Clocks] (hcolumns : ∀ i ∈ d.columns, i < d.schema.fields.length) {line : String}
    (hcount : (Tsv.splitLine line).length = d.columns.length) :
    d.decode line
      = ((d.columns.zip (Tsv.splitLine line)).mapM d.read).map (Row.new d.schema).setAll := by
  rw [decode]
  simp only [hcount, if_true]
  exact foldlM_assign_eq (fun column hmem => hcolumns _ (List.of_mem_zip hmem).1) _

end LineDecoder

end Columnar
