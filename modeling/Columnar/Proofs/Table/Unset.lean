import Columnar.Proofs.Table.Assign
import Columnar.Proofs.Table.Framing

/-!
Fields that the server computes, in the lines of records.

A line of pairs leaves out such a field only where the record holds no value for it and its type is
not nullable. A new row never holds that: it has the initial value of the type in the field, which
is no value exactly if the type is nullable (`isNull_initial`). So a field is left out only after it
was set to no value, and one that was never set is written with its initial value.
-/

namespace Columnar

/-! ### Rows after calls -/

namespace Row

/-- The row after a call that sets a field; one that fails leaves it as it is. -/
def afterSet (r : Row) (call : String × Value) : Row :=
  match r.set call.1 call.2 with
  | .ok after => after
  | .error _ => r

/-- The row after calls that set fields. -/
def afterSets (r : Row) (calls : List (String × Value)) : Row :=
  calls.foldl afterSet r

/-- The values that calls put in, with their places. -/
def assigned (s : Schema) (calls : List (String × Value)) : List (Nat × Value) :=
  calls.filterMap fun call => (s.fieldIndex? call.1).map fun i => (i, call.2)

/-- The value that calls gave last to the field at a place. -/
def lastSet? (s : Schema) (calls : List (String × Value)) (i : Nat) : Option Value :=
  lastAt? (assigned s calls) i

theorem afterSet_of_none {r : Row} {call : String × Value}
    (h : r.schema.fieldIndex? call.1 = none) : r.afterSet call = r := by
  rw [afterSet, set, h]
  rfl

theorem afterSet_of_some {r : Row} {call : String × Value} {i : Nat}
    (h : r.schema.fieldIndex? call.1 = some i) : r.afterSet call = r.setAt i call.2 := by
  rw [afterSet, set, h]
  rfl

/-- Calls put their values in one after another, where their names are found. -/
theorem afterSets_eq (r : Row) (calls : List (String × Value)) :
    r.afterSets calls = r.setAll (assigned r.schema calls) := by
  induction calls generalizing r with
  | nil => rfl
  | cons call calls ih =>
    have hstep : r.afterSets (call :: calls) = (r.afterSet call).afterSets calls := rfl
    cases hindex : r.schema.fieldIndex? call.1 with
    | none =>
      have hassigned : assigned r.schema (call :: calls) = assigned r.schema calls := by
        simp [assigned, hindex]
      rw [hstep, afterSet_of_none hindex, ih, hassigned]
    | some i =>
      have hassigned : assigned r.schema (call :: calls)
          = (i, call.2) :: assigned r.schema calls := by simp [assigned, hindex]
      rw [hstep, afterSet_of_some hindex, ih, hassigned]
      rfl

/-- A field that no call names has no value from calls. -/
theorem lastSet?_eq_none {s : Schema} {calls : List (String × Value)} {i : Nat}
    (h : ∀ call ∈ calls, s.fieldIndex? call.1 ≠ some i) : lastSet? s calls i = none := by
  refine lastAt?_eq_none fun a ha => ?_
  obtain ⟨call, hcall, hindex⟩ := List.mem_filterMap.1 ha
  obtain ⟨j, hj, rfl⟩ := Option.map_eq_some_iff.1 hindex
  rintro rfl
  exact h call hcall hj

end Row

/-! ### Initial values -/

/-- A new field holds no value exactly if its type is nullable. -/
theorem ColumnType.isNull_initial (t : ColumnType) : t.initial.isNull = t.isNullable := by
  induction t with
  | enum width entries => cases entries <;> rfl
  | lowCardinality inner ih => exact ih
  | _ => rfl

theorem Field.initial_of_computed {f : Field} (h : f.hasComputedDefault = true) :
    f.initial = f.type.initial := by
  rw [hasComputedDefault] at h
  rw [initial]
  split at h
  · next hdefault => rw [hdefault]
  · exact absurd h Bool.false_ne_true

theorem Field.isLeftOut_initial (f : Field) : f.isLeftOut f.type.initial = false := by
  rw [isLeftOut, ColumnType.isNull_initial]
  cases f.type.isNullable <;> simp

theorem Field.isLeftOut_iff {f : Field} {value : Value} (h : f.hasComputedDefault = true) :
    f.isLeftOut value = true ↔ value = .null ∧ f.type.isNullable = false := by
  have hnull : value.isNull = true ↔ value = .null := by
    cases value <;> simp [Value.isNull]
  simp [isLeftOut, h, hnull]

/-! ### One field in a line -/

variable {s : Schema} {format : LineFormat} {values : List Value} {line : String} {f : Field}
  {value : Value} {i : Nat}

/-- The entries that a line has for fields with their values. -/
def LineFormat.Entries (format : LineFormat) (fields : List (Field × Value))
    (entries : List String) : Prop :=
  List.Forall₂ (fun p entry => format.entry p.1 p.2 = .ok entry)
    (fields.filter fun p => format.writes p.1 p.2) entries

theorem LineFormat.Entries.append {front behind : List (Field × Value)} {entries : List String}
    (h : format.Entries (front ++ behind) entries) : ∃ first rest, entries = first ++ rest ∧
      format.Entries front first ∧ format.Entries behind rest := by
  rw [Entries, List.filter_append] at h
  exact ⟨_, _, (List.take_append_drop _ entries).symm,
    (List.forall₂_take_append entries _ _ h.flip).flip,
    (List.forall₂_drop_append entries _ _ h.flip).flip⟩

/-- A line has the entries of the fields in front of a field, its own unless it is left out, and
those of the fields behind it. -/
theorem exists_entries_of_line (h : s.encodeLine values format = .ok line)
    (hf : s.fields[i]? = some f) (hvalue : values[i]? = some value) :
    ∃ front own behind, line = "\t".intercalate (front ++ own ++ behind) ++ "\n" ∧
      format.Entries ((s.fields.zip values).take i) front ∧ format.Entries [(f, value)] own ∧
      format.Entries ((s.fields.zip values).drop (i + 1)) behind := by
  obtain ⟨-, entries, hentries, rfl⟩ := encodeLine_eq_ok h
  have hi : i < (s.fields.zip values).length := by
    rw [List.length_zip]
    exact lt_min (List.getElem?_eq_some_iff.1 hf).1 (List.getElem?_eq_some_iff.1 hvalue).1
  have hpair : (s.fields.zip values)[i] = (f, value) := by
    rw [List.getElem_zip, (List.getElem?_eq_some_iff.1 hf).2,
      (List.getElem?_eq_some_iff.1 hvalue).2]
  have hsplit : s.fields.zip values = (s.fields.zip values).take i
      ++ ([(f, value)] ++ (s.fields.zip values).drop (i + 1)) := by
    rw [List.singleton_append, ← hpair, ← List.drop_eq_getElem_cons hi, List.take_append_drop]
  have hall : format.Entries (s.fields.zip values) entries := hentries
  rw [hsplit] at hall
  obtain ⟨front, rest, rfl, hfront, hrest⟩ := hall.append
  obtain ⟨own, behind, rfl, hown, hbehind⟩ := hrest.append
  exact ⟨front, own, behind, by rw [List.append_assoc], hfront, hown, hbehind⟩

/-- A field has one entry, unless it is left out. -/
theorem entries_of_field {own : List String} (hwritable : f.isWritable = true)
    (h : LineFormat.keyValue.Entries [(f, value)] own) :
    if f.isLeftOut value then own = []
    else ∃ text, f.type.encode value = .ok text ∧ own = [Tsv.escapeKey f.name ++ "=" ++ text] := by
  have hwrites : LineFormat.keyValue.writes f value = !f.isLeftOut value := by
    simp [LineFormat.writes, hwritable]
  rw [LineFormat.Entries, List.filter_cons, hwrites] at h
  cases hout : f.isLeftOut value with
  | true =>
    rw [hout] at h
    exact List.forall₂_nil_left_iff.1 h
  | false =>
    rw [hout] at h
    obtain ⟨entry, rest, hentry, hrest, rfl⟩ := List.forall₂_cons_left_iff.1 h
    obtain rfl := List.forall₂_nil_left_iff.1 hrest
    obtain ⟨text, htext, rfl⟩ := map_eq_ok hentry
    exact ⟨text, htext, rfl⟩

/-! ### Computed fields in lines -/

/-- The line that an insert writes after calls that set fields leaves out a field that the server
computes exactly if the last of the calls for the field gave it no value and its type is not
nullable. A field that no call named has an entry with the initial value of its type, whatever that
type is. -/
theorem line_of_computed {calls : List (String × Value)} (hf : s.fields[i]? = some f)
    (hcomputed : f.hasComputedDefault = true) (hwritable : f.isWritable = true)
    (hline : ((Row.new s).afterSets calls).line s.insertFormat = .ok line) :
    let pairs := s.fields.zip ((Row.new s).afterSets calls).values
    ∃ front own behind, line = "\t".intercalate (front ++ own ++ behind) ++ "\n" ∧
      LineFormat.keyValue.Entries (pairs.take i) front ∧
      LineFormat.keyValue.Entries (pairs.drop (i + 1)) behind ∧
      (own = [] ↔ Row.lastSet? s calls i = some .null ∧ f.type.isNullable = false) ∧
      ((∀ call ∈ calls, s.fieldIndex? call.1 ≠ some i) → ∃ text,
        f.type.encode f.type.initial = .ok text ∧
          own = [Tsv.escapeKey f.name ++ "=" ++ text]) := by
  intro pairs
  have hformat : s.insertFormat = .keyValue := by
    rw [Schema.insertFormat, if_pos]
    exact List.any_eq_true.2 ⟨f, List.mem_of_getElem? hf, hcomputed⟩
  have hvalue : ((Row.new s).afterSets calls).values[i]?
      = some ((Row.lastSet? s calls i).getD f.type.initial) := by
    rw [Row.afterSets_eq, Row.getElem?_setAll, Row.new, List.getElem?_map, hf,
      ← Field.initial_of_computed hcomputed]
    rfl
  rw [Row.line, hformat] at hline
  have hschema : ((Row.new s).afterSets calls).schema = s := by
    rw [Row.afterSets_eq, Row.schema_setAll]
    rfl
  rw [hschema] at hline
  obtain ⟨front, own, behind, hsplit, hfront, hown, hbehind⟩ :=
    exists_entries_of_line hline hf hvalue
  have hentry := entries_of_field hwritable hown
  refine ⟨front, own, behind, hsplit, hfront, hbehind, ?_, fun hunset => ?_⟩
  · cases hlast : Row.lastSet? s calls i with
    | none =>
      rw [hlast, Option.getD_none, f.isLeftOut_initial, if_neg Bool.false_ne_true] at hentry
      obtain ⟨text, -, rfl⟩ := hentry
      simp
    | some value =>
      rw [hlast, Option.getD_some] at hentry
      rw [Option.some.injEq, ← Field.isLeftOut_iff hcomputed]
      split at hentry
      · next hout => exact iff_of_true hentry hout
      · next hin =>
        obtain ⟨text, -, rfl⟩ := hentry
        exact iff_of_false (by simp) hin
  · rwa [Row.lastSet?_eq_none hunset, Option.getD_none, f.isLeftOut_initial,
      if_neg Bool.false_ne_true] at hentry

/-- A column for a day that the server computes. -/
def dayField : Field where
  name := "day"
  type := .date
  default := .expression "today()"

/-- A table with such a column. -/
def visitsTable : Schema where
  table := "visits"
  fields := [{ name := "user", type := .string }, dayField]

/-- Calls that do not name the day. -/
def visitCalls : List (String × Value) :=
  [("user", .text "bob")]

theorem unset_visitCalls : ∀ call ∈ visitCalls, visitsTable.fieldIndex? call.1 ≠ some 1 := by
  decide

theorem line_of_visitCalls : ((Row.new visitsTable).afterSets visitCalls).line
    visitsTable.insertFormat = .ok "user=bob\tday=1970-01-01\n" :=
  rfl

theorem line_of_computed_visits : ∃ front own behind,
    "user=bob\tday=1970-01-01\n" = "\t".intercalate (front ++ own ++ behind) ++ "\n" ∧
      own = ["day=1970-01-01"] := by
  have hday : visitsTable.fields[1]? = some dayField := rfl
  obtain ⟨front, own, behind, hline, -, -, -, hown⟩ :=
    line_of_computed hday rfl rfl line_of_visitCalls
  obtain ⟨text, htext, howned⟩ := hown unset_visitCalls
  obtain rfl : "1970-01-01" = text := Except.ok.inj htext
  exact ⟨front, own, behind, hline, howned⟩

/-- A day that was never set is not left to the server. -/
theorem unset_day_written :
    dayField.hasComputedDefault = true ∧ dayField.isWritable = true ∧
      visitsTable.fields[1]? = some dayField ∧
      (∀ call ∈ visitCalls, visitsTable.fieldIndex? call.1 ≠ some 1) ∧
      ((Row.new visitsTable).afterSets visitCalls).line visitsTable.insertFormat
        = .ok ("\t".intercalate ["user=bob", "day=1970-01-01"] ++ "\n") :=
  ⟨rfl, rfl, rfl, unset_visitCalls, rfl⟩

end Columnar
