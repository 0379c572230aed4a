import Columnar.Proofs.ColumnType.Sound
import Columnar.Proofs.Table.Assign
import Columnar.Proofs.Table.RoundTrip

/-!
Rows whose values are of the types of their fields.

A row that is read from a line has, at the place of each column, a value of the type of that field.
If the columns fill all fields that records send values for, the row is typed in all of them
(`isTyped_of_decode`), and a typed row has a line with an entry for each of them, whichever format
is asked for (`Row.IsTyped.exists_line`).
-/

namespace Columnar

open ColumnType (Inhabits)

variable {schema : Schema} {names : List String} {zone : Calendar.Zone} {row : Row}

/-- The values that a record sends are of the types of their fields. -/
def Row.IsTyped (row : Row) : Prop :=
  List.Forall₂ (fun f value => f.isWritable = true → Inhabits f.type value) row.schema.fields
    row.values

/-! ### Lines of typed rows -/

/-- No value of its type is left out for the server to compute. -/
theorem isLeftOut_of_inhabits {f : Field} {value : Value} (h : Inhabits f.type value) :
    f.isLeftOut value = false := by
  cases hnull : value.isNull with
  | false => simp [Field.isLeftOut, hnull]
  | true =>
    rw [ColumnType.eq_null_of_isNull hnull, ColumnType.inhabits_null_iff] at h
    simp [Field.isLeftOut, h]

theorem exists_entry_of_inhabits {f : Field} {value : Value} (format : LineFormat)
    (h : Inhabits f.type value) : ∃ entry, format.entry f value = .ok entry := by
  obtain ⟨text, htext⟩ := ColumnType.exists_encode_of_inhabits h
  exact ⟨_, by rw [LineFormat.entry, htext, map_ok]⟩

/-- A typed row has a line in each format, with an entry for every field that records send values
for. -/
theorem Row.IsTyped.exists_line (h : row.IsTyped) (format : LineFormat) :
    ∃ entries, List.Forall₂ (fun p entry => format.entry p.1 p.2 = .ok entry)
        (writtenPairs row.schema.fields row.values) entries ∧
      row.line format = .ok ("\t".intercalate entries ++ "\n") := by
  have hinhabits : ∀ p ∈ row.schema.fields.zip row.values, p.1.isWritable = true →
      Inhabits p.1.type p.2 := fun p hp => List.forall₂_zip h hp
  have hwrites : ∀ p ∈ row.schema.fields.zip row.values,
      format.writes p.1 p.2 = p.1.isWritable := by
    intro p hp
    cases hw : p.1.isWritable with
    | false => simp [LineFormat.writes, hw]
    | true => simp [LineFormat.writes, hw, isLeftOut_of_inhabits (hinhabits p hp hw)]
  obtain ⟨entries, hentries⟩ : ∃ entries, List.Forall₂ (fun p entry =>
      format.entry p.1 p.2 = .ok entry) (writtenPairs row.schema.fields row.values) entries := by
    refine exists_forall₂ fun p hp => ?_
    obtain ⟨hmem, hw⟩ := List.mem_filter.1 hp
    exact exists_entry_of_inhabits format (hinhabits p hmem hw)
  exact ⟨entries, hentries, encodeLine_of_entries h.length_eq.symm hwrites hentries⟩

/-! ### Columns and fields -/

/-- Every field that records send values for stands at the place of a column. -/
def Schema.IsFilledBy (s : Schema) (names : List String) : Prop :=
  ∀ i f, s.fields[i]? = some f → f.isWritable = true → ∃ name ∈ names, s.fieldIndex? name = some i

/-- Where no two fields share a name, columns of all these names fill the fields. -/
theorem isFilledBy_of_nodup (hnodup : (schema.fields.map Field.name).Nodup)
    (hnames : ∀ f ∈ schema.fields, f.name ∈ names) : schema.IsFilledBy names := by
  intro i f hf _
  obtain ⟨hi, rfl⟩ := List.getElem?_eq_some_iff.1 hf
  have hplace : i < (schema.fields.map Field.name).length := by rwa [List.length_map]
  have hname : (schema.fields.map Field.name)[i] = schema.fields[i].name := List.getElem_map _
  refine ⟨_, hnames _ (List.getElem_mem hi), ?_⟩
  rw [← hname, fieldIndex?_of_mem (List.getElem_mem hplace), hnodup.idxOf_getElem]

/-! ### Rows of lines -/

/-- What a text gives to the place of a column is a value of the type of the field there. -/
theorem LineDecoder.inhabits_of_read [Clocks] {d : LineDecoder} {column : Nat × String}
    {a : Nat × Value} (h : d.read column = .ok a) :
    a.1 = column.1 ∧ ∀ f, d.schema.fields[a.1]? = some f → Inhabits f.type a.2 := by
  rw [LineDecoder.read] at h
  split at h
  · next f hf =>
    obtain ⟨value, hvalue, rfl⟩ := map_eq_ok h
    refine ⟨rfl, fun g hg => ?_⟩
    obtain rfl := Option.some.inj (hf.symm.trans hg)
    exact ColumnType.inhabits_of_decode hvalue
  · next hnone =>
    obtain rfl := Except.ok.inj h
    exact ⟨rfl, fun f hf => absurd (hnone.symm.trans hf) (by simp)⟩

/-- A row with values of the right types put in is typed if they fill its fields. -/
theorem Row.isTyped_setAll {assignments : List (Nat × Value)}
    (htyped : ∀ a ∈ assignments, ∀ f, schema.fields[a.1]? = some f → Inhabits f.type a.2)
    (hfilled : ∀ i f, schema.fields[i]? = some f → f.isWritable = true →
      ∃ a ∈ assignments, a.1 = i) : ((Row.new schema).setAll assignments).IsTyped := by
  have hnew : (Row.new schema).values.length = schema.fields.length := List.length_map _
  have hlength : schema.fields.length = ((Row.new schema).setAll assignments).values.length := by
    rw [Row.length_setAll, hnew]
  rw [Row.IsTyped, Row.schema_setAll]
  refine List.forall₂_iff_get.2 ⟨hlength, fun i hi hi' hw => ?_⟩
  have hf : schema.fields[i]? = some schema.fields[i] := List.getElem?_eq_getElem hi
  obtain ⟨value, hlast, hmem⟩ := Row.exists_lastAt? (hfilled i _ hf hw)
  have hvalue : ((Row.new schema).setAll assignments).values[i]? = some value := by
    rw [Row.getElem?_setAll, hlast, List.getElem?_eq_getElem (hnew.symm ▸ hi)]
    rfl
  rw [List.getElem?_eq_getElem hi'] at hvalue
  rw [List.get_eq_getElem, List.get_eq_getElem, Option.some.inj hvalue]
  exact htyped _ hmem _ hf

/-- A row is typed if the columns it was read from fill its fields. -/
theorem isTyped_of_decode [Clocks] {decoder : LineDecoder} {line : String}
    (hdecoder : LineDecoder.ofNames schema names zone = .ok decoder)
    (hfilled : schema.IsFilledBy names) (h : decoder.decode line = .ok row) :
    row.schema = schema ∧ row.IsTyped := by
  obtain ⟨columns, hcolumns, h'⟩ := bind_eq_ok hdecoder
  obtain rfl := Except.ok.inj h'
  have hplaces := mapM_eq_ok_iff.1 hcolumns
  have hbound : ∀ i ∈ columns, i < schema.fields.length := by
    refine forall_mem_of_forall₂ ?_ hplaces
    intro name i hi
    exact (List.findIdx?_eq_some_iff_getElem.1 (orFail_eq_ok hi)).1
  have hcount : (Tsv.splitLine line).length = columns.length := by
    rw [LineDecoder.decode] at h
    by_contra hne
    simp only [if_neg hne] at h
    exact absurd h (by simp)
  rw [LineDecoder.decode_eq hbound hcount] at h
  obtain ⟨assignments, hread, rfl⟩ := map_eq_ok h
  have hassigned := mapM_eq_ok_iff.1 hread
  refine ⟨Row.schema_setAll _ _, Row.isTyped_setAll ?_ ?_⟩
  · refine forall_mem_of_forall₂ ?_ hassigned
    exact fun column a ha => (LineDecoder.inhabits_of_read ha).2
  · intro i f hf hw
    obtain ⟨name, hname, hi⟩ := hfilled i f hf hw
    obtain ⟨j, hj, hplace⟩ := exists_mem_of_forall₂ hplaces hname
    obtain rfl : i = j := Option.some.inj (hi.symm.trans (orFail_eq_ok hplace))
    rw [← List.map_fst_zip (le_of_eq hcount.symm)] at hj
    obtain ⟨column, hcolumn, rfl⟩ := List.mem_map.1 hj
    obtain ⟨a, ha, hvalue⟩ := exists_mem_of_forall₂ hassigned hcolumn
    exact ⟨a, ha, (LineDecoder.inhabits_of_read hvalue).1⟩

end Columnar
