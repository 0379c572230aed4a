import Columnar.Proofs.ColumnType.RoundTrip
import Columnar.Table.Line

/-!
Reading a record back from the line that an insert writes for it.

The line has one text for each writable field, in the order of the fields. Where no two fields share
a name, the columns of those names are mapped to the places of the writable fields (`places`), and
the texts are assigned there one after the other. The induction is on the fields that are still to
be read: the values before them are final, and those after them are initial.
-/

namespace Columnar

open ColumnType (WritesField)

variable {s : Schema} {zone : Calendar.Zone}

/-- The row that a reader gets for the given values: fields that are not writable stay initial. -/
def Row.written (s : Schema) (values : List Value) : Row :=
  ⟨s, (s.fields.zip values).map fun (f, value) => if f.isWritable then value else f.initial⟩

/-! ### Writing -/

/-- In the tab-separated format an entry stands for each writable field, and for no other. -/
theorem writes_tabSeparated (f : Field) (value : Value) :
    LineFormat.tabSeparated.writes f value = f.isWritable := by
  simp [LineFormat.writes]

theorem entry_tabSeparated (f : Field) (value : Value) :
    LineFormat.tabSeparated.entry f value = f.type.encode value := by
  rw [LineFormat.entry]
  cases f.type.encode value <;> rfl

/-- The fields that a record writes, with their values. -/
def writtenPairs (fields : List Field) (values : List Value) : List (Field × Value) :=
  (fields.zip values).filter fun p => p.1.isWritable

/-- A line has an entry for each field that its format writes. -/
theorem encodeLine_of_written {format : LineFormat} {values : List Value} {entries : List String}
    (hlength : values.length = s.fields.length)
    (h : List.Forall₂ (fun p entry => format.entry p.1 p.2 = .ok entry)
      ((s.fields.zip values).filter fun p => format.writes p.1 p.2) entries) :
    s.encodeLine values format = .ok ("\t".intercalate entries ++ "\n") := by
  have hline : s.encodeLine values format = Row.checkCount s values >>= fun _ =>
      ((s.fields.zip values).filter fun p => format.writes p.1 p.2).mapM
        (fun p => format.entry p.1 p.2) >>= fun entries =>
      .ok ("\t".intercalate entries ++ "\n") := rfl
  rw [hline, Row.checkCount, if_pos hlength, ok_bind]
  exact (congrArg (· >>= _) (mapM_eq_ok_iff.2 h)).trans (ok_bind _ _)

/-- Where no value is left out, a line has an entry for each field that a record writes. -/
theorem encodeLine_of_entries {format : LineFormat} {values : List Value} {entries : List String}
    (hlength : values.length = s.fields.length)
    (hwrites : ∀ p ∈ s.fields.zip values, format.writes p.1 p.2 = p.1.isWritable)
    (h : List.Forall₂ (fun p entry => format.entry p.1 p.2 = .ok entry)
      (writtenPairs s.fields values) entries) :
    s.encodeLine values format = .ok ("\t".intercalate entries ++ "\n") :=
  encodeLine_of_written hlength (by rwa [List.filter_congr hwrites])

theorem encodeLine_tabSeparated [Clocks] {values : List Value} {texts : List String}
    (hlength : values.length = s.fields.length)
    (h : List.Forall₂ (fun p text => WritesField zone p.1.type p.2 text)
      (writtenPairs s.fields values) texts) :
    s.encodeLine values .tabSeparated = .ok ("\t".intercalate texts ++ "\n") := by
  refine encodeLine_of_entries hlength (fun p _ => writes_tabSeparated p.1 p.2) ?_
  exact h.imp fun p _ hp => (entry_tabSeparated p.1 p.2).trans hp.encode

theorem exists_writesField_pairs [Clocks] (zone : Calendar.Zone) {fields : List Field}
    {values : List Value}
    (h : List.Forall₂ (fun f v => f.isWritable = true → f.type.Fits v) fields values) :
    ∃ texts, List.Forall₂ (fun p text => WritesField zone p.1.type p.2 text)
      (writtenPairs fields values) texts := by
  refine exists_forall₂ fun p hp => ?_
  obtain ⟨hmem, hw⟩ := List.mem_filter.1 hp
  exact ColumnType.exists_writesField (List.forall₂_zip h hmem hw)

theorem map_fst_writtenPairs {fields : List Field} {values : List Value}
    (h : values.length = fields.length) :
    (writtenPairs fields values).map Prod.fst = fields.filter Field.isWritable := by
  conv_rhs => rw [← @List.map_fst_zip _ _ fields values (by omega)]
  rw [List.filter_map, writtenPairs]
  rfl

theorem length_writtenPairs {fields : List Field} {values : List Value}
    (h : values.length = fields.length) :
    (writtenPairs fields values).length = (fields.filter Field.isWritable).length := by
  rw [← map_fst_writtenPairs h, List.length_map]

/-! ### The places of columns -/

/-- The places of the writable fields, where the first field stands at `k`. -/
def places : Nat → List Field → List Nat
  | _, [] => []
  | k, f :: fields => if f.isWritable then k :: places (k + 1) fields else places (k + 1) fields

theorem length_places : ∀ (k : Nat) (fields : List Field),
    (places k fields).length = (fields.filter Field.isWritable).length
  | _, [] => rfl
  | k, f :: fields => by
    rw [places, List.filter_cons]
    split <;> simp [length_places (k + 1) fields]

/-- A field is found at its place by its name, unless a field before it has that name too. -/
theorem fieldIndex?_eq {before fields : List Field} {f : Field}
    (hs : s.fields = before ++ f :: fields) (hf : f.name ∉ before.map Field.name) :
    s.fieldIndex? f.name = some before.length := by
  have hnone : before.findIdx? (fun g => decide (g.name = f.name)) = none := by
    rw [List.findIdx?_eq_none_iff]
    intro g hg
    exact decide_eq_false fun hn => hf (hn ▸ List.mem_map_of_mem hg)
  rw [Schema.fieldIndex?, hs, List.findIdx?_append, hnone, List.findIdx?_cons]
  simp

theorem mapM_fieldIndex? : ∀ {fields before : List Field}, s.fields = before ++ fields →
    (s.fields.map Field.name).Nodup →
    ((fields.filter Field.isWritable).map Field.name).mapM (fun name =>
      orFail (s.fieldIndex? name) (.parse (.noColumnField s.table name)))
        = .ok (places before.length fields)
  | [], _, _, _ => rfl
  | f :: fields, before, hs, hnodup => by
    have hf : f.name ∉ before.map Field.name := by
      rw [hs, List.map_append, List.map_cons] at hnodup
      exact fun hmem => (List.nodup_append.1 hnodup).2.2 _ hmem _ List.mem_cons_self rfl
    have ih := mapM_fieldIndex? (by simp [hs] : s.fields = (before ++ [f]) ++ fields) hnodup
    rw [List.length_append, List.length_singleton] at ih
    rw [places, List.filter_cons]
    cases hw : f.isWritable with
    | false => exact ih
    | true =>
      simp only [if_true, List.map_cons, List.mapM_cons, fieldIndex?_eq hs hf, orFail_some, ok_bind,
        ih]
      rfl

/-! ### Reading -/

/-- Assigning the texts of the remaining fields completes the row. -/
theorem foldlM_assign [Clocks] (d : LineDecoder) :
    ∀ {fields before : List Field} {values done : List Value}
    {texts : List String}, d.schema.fields = before ++ fields → done.length = before.length →
    values.length = fields.length →
    List.Forall₂ (fun p text => WritesField d.zone p.1.type p.2 text)
      (writtenPairs fields values) texts →
    ((places before.length fields).zip texts).foldlM d.assign
        ⟨d.schema, done ++ fields.map Field.initial⟩
      = .ok ⟨d.schema, done ++ (fields.zip values).map fun (f, value) =>
          if f.isWritable then value else f.initial⟩
  | [], _, [], done, _, _, _, _, .nil => rfl
  | f :: fields, before, value :: values, done, texts, hs, hdone, hlength, h => by
    -- `done` holds the values of the fields in front, so that the places of the others stay.
    have hs' : d.schema.fields = (before ++ [f]) ++ fields := by simp [hs]
    have hlen' : (before ++ [f]).length = before.length + 1 := by simp
    have ih := fun (v : Value) texts (h : List.Forall₂ _ _ texts) => foldlM_assign d hs'
      (by simp [hdone] : (done ++ [v]).length = _) (by simpa using hlength) h
    rw [hlen'] at ih
    rw [writtenPairs, List.zip_cons_cons, List.filter_cons] at h
    rw [places]
    cases hw : f.isWritable with
    | false =>
      rw [hw] at h
      simpa [hw] using ih f.initial texts h
    | true =>
      rw [hw, if_pos rfl] at h
      cases h with
      | cons htext hrest =>
        rename_i text texts
        have hget : d.schema.fields[before.length]? = some f := by
          rw [hs, List.getElem?_append_right (Nat.le_refl _)]
          simp
        have hset : (done ++ f.initial :: fields.map Field.initial).set before.length value
            = done ++ value :: fields.map Field.initial := by
          rw [← hdone, List.set_append_right _ _ (Nat.le_refl _), Nat.sub_self, List.set_cons_zero]
        rw [if_pos rfl, List.zip_cons_cons, List.foldlM_cons, LineDecoder.assign, hget]
        simp only [htext.decode, map_ok, ok_bind, Row.setAt, List.map_cons, hset]
        simpa [hw] using ih value texts hrest

/-- A record whose values fit their fields is written as one line, and a reader that is told the
names of the writable fields gets from the line the values of those fields. -/
theorem decode_encodeLine [Clocks] (s : Schema) (values : List Value) (zone : Calendar.Zone)
    (hnames : (s.fields.map Field.name).Nodup) (hwritable : s.writableFields ≠ [])
    (hfits : List.Forall₂ (fun f v => f.isWritable = true → f.type.Fits v) s.fields values) :
    ∃ line decoder, s.encodeLine values .tabSeparated = .ok line ∧
      LineDecoder.ofNames s (s.writableFields.map Field.name) zone = .ok decoder ∧
      decoder.decode line = .ok (Row.written s values) := by
  obtain ⟨texts, htexts⟩ := exists_writesField_pairs zone hfits
  have hlength : values.length = s.fields.length := hfits.length_eq.symm
  have hcount : texts.length = s.writableFields.length := by
    rw [← htexts.length_eq, length_writtenPairs hlength, Schema.writableFields]
  have htab : ∀ text ∈ texts, '\t' ∉ text.toList := by
    refine forall_mem_of_forall₂ (fun p text hp htab => ?_) htexts
    exact absurd (hp.inLine '\t' htab) (by decide)
  refine ⟨_, ⟨s, places 0 s.fields, zone⟩, encodeLine_tabSeparated hlength htexts, ?_, ?_⟩
  · rw [LineDecoder.ofNames, Schema.writableFields,
      mapM_fieldIndex? (List.nil_append s.fields).symm hnames]
    rfl
  · have hne : texts ≠ [] := by
      rintro rfl
      exact hwritable (List.eq_nil_of_length_eq_zero hcount.symm)
    rw [LineDecoder.decode, Tsv.splitLine_intercalate_newline hne htab]
    simp only [length_places, hcount, Schema.writableFields, if_true]
    have hdone : ([] : List Value).length = ([] : List Field).length := rfl
    exact foldlM_assign ⟨s, places 0 s.fields, zone⟩ (List.nil_append s.fields).symm hdone hlength
      htexts

/-- A table with texts that could be taken for marks, and with a column that the server computes. -/
def markedTable : Schema where
  table := "marks"
  fields := [
    { name := "id", type := .uint .w64 },
    { name := "day", type := .date, default := .materialized "today()" },
    { name := "tags", type := .array (.lowCardinality (.nullable .string)) },
    { name := "grid", type := .array (.array (.nullable (.fixedString 4))) },
    { name := "note", type := .nullable .string }]

/-- The texts of the table's only record. -/
def markedValues : List Value := [
  .uint 18446744073709551615, .date .epoch,
  .array [.text "NULL", .null, .text "a'],[\\", .text ""],
  .array [.array [], .array [.text "\t", .null]],
  .text "\\N"]

theorem decode_encodeLine_marked :
    ∃ line decoder, markedTable.encodeLine markedValues .tabSeparated = .ok line ∧
      LineDecoder.ofNames markedTable ["id", "tags", "grid", "note"] .utc = .ok decoder ∧
      decoder.decode line = .ok (Row.written markedTable markedValues) :=
  decode_encodeLine markedTable markedValues .utc (by decide) (by decide)
    (by simp [markedTable, markedValues, ColumnType.Fits, IntWidth.bits])

end Columnar
