import Columnar.Proofs.Table.Assign
import Columnar.Proofs.Tsv.Line
import Mathlib.Data.List.Permutation

/-!
Responses whose columns come in another order.

Columns are mapped to fields by name, so columns with distinct names have places of their own. A
line whose fields are permuted with the names of the columns is read text by text as before, in
another order; what is read is put in at the same places, where the order does not matter. The one
line gives a row exactly if the other does, and then the same row (`decode_permuted`): each column
gives the field with its name what its own text says, and all other fields stay initial.
-/

namespace Columnar

variable {schema : Schema} {names : List String} {columns columns' : List (String × String)}
  {zone : Calendar.Zone} {line line' : String}

namespace LineDecoder

/-! ### The places of columns -/

/-- The schema has a field for each of the columns. -/
def Knows (schema : Schema) (columns : List (String × String)) : Prop :=
  ∀ column ∈ columns, column.1 ∈ schema.fields.map Field.name

/-- The place of the first field with a name. -/
def placeOf (schema : Schema) (name : String) : Nat :=
  (schema.fields.map Field.name).idxOf name

/-- The texts of columns at the places of their fields. -/
def placed (schema : Schema) (columns : List (String × String)) : List (Nat × String) :=
  columns.map fun column => (placeOf schema column.1, column.2)

/-- The decoder for lines with the given columns. -/
def named (schema : Schema) (columns : List (String × String)) (zone : Calendar.Zone) :
    LineDecoder where
  schema
  columns := (placed schema columns).map Prod.fst
  zone

theorem placeOf_lt {name : String} (h : name ∈ schema.fields.map Field.name) :
    placeOf schema name < schema.fields.length := by
  have hlt := List.idxOf_lt_length_of_mem h
  rwa [List.length_map] at hlt

theorem fieldIndex?_eq_placeOf {name : String} (h : name ∈ schema.fields.map Field.name) :
    schema.fieldIndex? name = some (placeOf schema name) :=
  fieldIndex?_of_mem h

theorem ofNames_named (hknown : Knows schema columns) (zone : Calendar.Zone) :
    ofNames schema (columns.map Prod.fst) zone = .ok (named schema columns zone) := by
  rw [ofNames_eq fun name hname => ?_, named, placed, List.map_map, List.map_map]
  · rfl
  · obtain ⟨column, hcolumn, rfl⟩ := List.mem_map.1 hname
    exact hknown column hcolumn

/-- Columns with distinct names have distinct places. -/
theorem nodup_placed (hnodup : (columns.map Prod.fst).Nodup) (hknown : Knows schema columns) :
    ((placed schema columns).map Prod.fst).Nodup := by
  rw [placed, List.map_map]
  refine List.Nodup.map_on (fun a ha b hb h => ?_) hnodup.of_map
  exact List.inj_on_of_nodup_map hnodup ha hb ((List.idxOf_inj (hknown a ha)).1 h)

/-! ### The values of columns -/

variable [Clocks]

/-- The values that the texts of columns give to the places of their fields. -/
def readPlaced (schema : Schema) (columns : List (String × String)) (zone : Calendar.Zone) :
    Result (List (Nat × Value)) :=
  (placed schema columns).mapM (named schema columns zone).read

/-- A line with a text for each column is read text by text. -/
theorem decode_named (hknown : Knows schema columns)
    (hline : Tsv.splitLine line = columns.map Prod.snd) :
    (named schema columns zone).decode line
      = (readPlaced schema columns zone).map (Row.new schema).setAll := by
  have hzip : (named schema columns zone).columns.zip (columns.map Prod.snd)
      = placed schema columns := by
    rw [named, placed, List.map_map, List.zip_map']
    rfl
  rw [decode_eq, hline, hzip]
  · rfl
  · intro i hi
    obtain ⟨place, hplace, rfl⟩ := List.mem_map.1 hi
    obtain ⟨column, hcolumn, rfl⟩ := List.mem_map.1 hplace
    exact placeOf_lt (hknown column hcolumn)
  · rw [hline, named, placed, List.length_map, List.length_map, List.length_map]

theorem fst_of_read {d : LineDecoder} {column : Nat × String} {a : Nat × Value}
    (h : d.read column = .ok a) : a.1 = column.1 := by
  rw [read] at h
  split at h
  · obtain ⟨value, -, rfl⟩ := map_eq_ok h
    rfl
  · obtain rfl := Except.ok.inj h
    rfl

/-- The values of columns come to the places of the columns. -/
theorem map_fst_of_readPlaced {assignments : List (Nat × Value)}
    (h : readPlaced schema columns zone = .ok assignments) :
    assignments.map Prod.fst = (placed schema columns).map Prod.fst := by
  have hread := mapM_eq_ok_iff.1 h
  rw [← List.forall₂_eq_eq_eq, List.forall₂_map_left_iff, List.forall₂_map_right_iff]
  exact hread.flip.imp fun a column ha => fst_of_read ha

/-- Columns in another order give the same row. -/
theorem decode_of_perm {row : Row} (hperm : columns.Perm columns')
    (hnodup : (columns.map Prod.fst).Nodup) (hknown : Knows schema columns)
    (hline : Tsv.splitLine line = columns.map Prod.snd)
    (hline' : Tsv.splitLine line' = columns'.map Prod.snd)
    (h : (named schema columns zone).decode line = .ok row) :
    (named schema columns' zone).decode line' = .ok row := by
  have hknown' : Knows schema columns' := fun column hcolumn =>
    hknown column (hperm.mem_iff.2 hcolumn)
  rw [decode_named hknown hline] at h
  obtain ⟨assignments, hread, rfl⟩ := map_eq_ok h
  obtain ⟨assignments', hread', hassigned⟩ := mapM_perm (hperm.map _) hread
  have hplaces : (assignments.map Prod.fst).Nodup := by
    rw [map_fst_of_readPlaced hread]
    exact nodup_placed hnodup hknown
  have hread'' : readPlaced schema columns' zone = .ok assignments' := hread'
  rw [decode_named hknown' hline', hread'', map_ok, Row.setAll_perm _ hplaces hassigned]

/-! ### The fields of a row -/

/-- The field of a column has the value that the text of the column says. -/
theorem exists_value_of_column {row : Row} {column : String × String}
    (hnodup : (columns.map Prod.fst).Nodup) (hknown : Knows schema columns)
    (hline : Tsv.splitLine line = columns.map Prod.snd)
    (h : (named schema columns zone).decode line = .ok row) (hcolumn : column ∈ columns) :
    ∃ i f value, schema.fieldIndex? column.1 = some i ∧ schema.fields[i]? = some f ∧
      f.type.decode zone column.2 = .ok value ∧ row.values[i]? = some value := by
  rw [decode_named hknown hline] at h
  obtain ⟨assignments, hread, rfl⟩ := map_eq_ok h
  obtain ⟨a, ha, hvalue⟩ := exists_mem_of_forall₂ (mapM_eq_ok_iff.1 hread)
    (List.mem_map_of_mem hcolumn)
  have hlt := placeOf_lt (hknown column hcolumn)
  have hfield := List.getElem?_eq_getElem hlt
  have hdecode : (named schema columns zone).read (placeOf schema column.1, column.2)
      = (schema.fields[placeOf schema column.1].type.decode zone column.2).map
        fun value => (placeOf schema column.1, value) := by
    rw [read, named]
    simp only [hfield]
  obtain ⟨value, htext, rfl⟩ := map_eq_ok (hdecode.symm.trans hvalue)
  have hplaces : (assignments.map Prod.fst).Nodup := by
    rw [map_fst_of_readPlaced hread]
    exact nodup_placed hnodup hknown
  have hnew : placeOf schema column.1 < (Row.new schema).values.length := by
    rwa [Row.new, List.length_map]
  refine ⟨_, _, value, fieldIndex?_eq_placeOf (hknown column hcolumn), hfield, htext, ?_⟩
  rw [Row.getElem?_setAll, Row.lastAt?_of_mem hplaces ha, List.getElem?_eq_getElem hnew]
  rfl

/-- A field that no column is mapped to stays initial. -/
theorem initial_of_no_column {row : Row} {i : Nat} {f : Field} (hknown : Knows schema columns)
    (hline : Tsv.splitLine line = columns.map Prod.snd)
    (h : (named schema columns zone).decode line = .ok row) (hf : schema.fields[i]? = some f)
    (hno : ∀ column ∈ columns, schema.fieldIndex? column.1 ≠ some i) :
    row.values[i]? = some f.initial := by
  rw [decode_named hknown hline] at h
  obtain ⟨assignments, hread, rfl⟩ := map_eq_ok h
  have hnone : Row.lastAt? assignments i = none := by
    refine Row.lastAt?_eq_none fun a ha => ?_
    have hplace := List.mem_map_of_mem (f := Prod.fst) ha
    rw [map_fst_of_readPlaced hread, placed, List.map_map] at hplace
    obtain ⟨column, hcolumn, hi⟩ := List.mem_map.1 hplace
    rintro rfl
    exact hno column hcolumn
      ((fieldIndex?_eq_placeOf (hknown column hcolumn)).trans (congrArg some hi))
  rw [Row.getElem?_setAll, hnone, Row.new, List.getElem?_map, hf]
  rfl

end LineDecoder

/-! ### Lines and their headers -/

open LineDecoder (Knows)

/-- A line and the line with its fields permuted like the names of the columns give a row or fail
together, and then it is the same row. The field of each column has what the column's text says, and
every field without a column its initial value. -/
theorem decode_permuted [Clocks] (schema : Schema) (names : List String) (zone : Calendar.Zone)
    (line : String) (columns : List (String × String)) (hnames : names.Nodup)
    (hknown : ∀ name ∈ names, (schema.field? name).isSome = true) (hline : '\n' ∉ line.toList)
    (hcount : (Tsv.splitLine line).length = names.length)
    (hperm : columns.Perm (names.zip (Tsv.splitLine line))) :
    ∃ decoder decoder', LineDecoder.ofNames schema names zone = .ok decoder ∧
      LineDecoder.ofNames schema (columns.map Prod.fst) zone = .ok decoder' ∧
      SameSuccess (decoder.decode line)
        (decoder'.decode ("\t".intercalate (columns.map Prod.snd))) ∧
      ∀ row, decoder.decode line = .ok row →
        (∀ column ∈ columns, ∃ i f value, schema.fieldIndex? column.1 = some i ∧
          schema.fields[i]? = some f ∧ f.type.decode zone column.2 = .ok value ∧
          row.values[i]? = some value) ∧
        ∀ i f, schema.fields[i]? = some f →
          (∀ name ∈ names, schema.fieldIndex? name ≠ some i) →
          row.values[i]? = some f.initial := by
  have hfst : (names.zip (Tsv.splitLine line)).map Prod.fst = names :=
    List.map_fst_zip (Nat.le_of_eq hcount.symm)
  have hsnd : (names.zip (Tsv.splitLine line)).map Prod.snd = Tsv.splitLine line :=
    List.map_snd_zip (Nat.le_of_eq hcount)
  have hknows : Knows schema (names.zip (Tsv.splitLine line)) := fun column hcolumn =>
    List.mem_map.2 (exists_of_isSome_field? (hknown column.1 (List.of_mem_zip hcolumn).1))
  have hknows' : Knows schema columns := fun column hcolumn =>
    hknows column (hperm.mem_iff.1 hcolumn)
  have hnodup : ((names.zip (Tsv.splitLine line)).map Prod.fst).Nodup := by rwa [hfst]
  have hnodup' : (columns.map Prod.fst).Nodup := (hperm.map Prod.fst).symm.nodup hnodup
  -- The permuted line is cut into the same fields, which have no tabs.
  have hline' : Tsv.splitLine ("\t".intercalate (columns.map Prod.snd)) = columns.map Prod.snd := by
    have hfield : ∀ field ∈ columns.map Prod.snd, field ∈ Tsv.splitLine line := fun field h =>
      hsnd ▸ (hperm.map Prod.snd).mem_iff.1 h
    have hne : Tsv.splitLine line ≠ [] := Tsv.splitLine_ne_nil line
    refine Tsv.splitLine_intercalate ?_
      (fun field h => (Tsv.not_mem_of_mem_splitLine hline (hfield field h)).1)
      fun field h => (Tsv.not_mem_of_mem_splitLine hline (hfield field h)).2
    rwa [← List.length_pos_iff, (hperm.map Prod.snd).length_eq, hsnd, List.length_pos_iff]
  have hdecoder := LineDecoder.ofNames_named hknows zone
  rw [hfst] at hdecoder
  refine ⟨_, _, hdecoder, LineDecoder.ofNames_named hknows' zone, fun row => ⟨?_, ?_⟩,
    fun row hrow => ⟨fun column hcolumn => ?_, fun i f hf hno => ?_⟩⟩
  · exact LineDecoder.decode_of_perm hperm.symm hnodup hknows hsnd.symm hline'
  · exact LineDecoder.decode_of_perm hperm hnodup' hknows' hline' hsnd.symm
  · exact LineDecoder.exists_value_of_column hnodup hknows hsnd.symm hrow
      (hperm.mem_iff.1 hcolumn)
  · exact LineDecoder.initial_of_no_column hknows hsnd.symm hrow hf fun column hcolumn =>
      hno column.1 (List.of_mem_zip hcolumn).1

/-- A table with columns of one type, one of which no response carries. -/
def matchTable : Schema where
  table := "matches"
  fields := [{ name := "home", type := .string }, { name := "guest", type := .string },
    { name := "city", type := .string, default := .literal (.text "Bern") },
    { name := "note", type := .nullable .string }]

theorem decode_match : (⟨matchTable, [0, 1, 3], .utc⟩ : LineDecoder).decode "ajax\tpsv\t\\N"
    = .ok ⟨matchTable, [.text "ajax", .text "psv", .text "Bern", .null]⟩ := by
  cbv

theorem decode_permuted_match :
    let names := ["home", "guest", "note"]
    let columns := [("note", "\\N"), ("guest", "psv"), ("home", "ajax")]
    (names.Nodup ∧ (∀ name ∈ names, (matchTable.field? name).isSome = true) ∧
      '\n' ∉ "ajax\tpsv\t\\N".toList ∧
      (Tsv.splitLine "ajax\tpsv\t\\N").length = names.length ∧
      columns.Perm (names.zip (Tsv.splitLine "ajax\tpsv\t\\N"))) ∧
    ∃ decoder, LineDecoder.ofNames matchTable ["note", "guest", "home"] .utc = .ok decoder ∧
      decoder.decode "\\N\tpsv\tajax"
        = .ok ⟨matchTable, [.text "ajax", .text "psv", .text "Bern", .null]⟩ := by
  intro names columns
  have hnames : names.Nodup := by decide
  have hknown : ∀ name ∈ names, (matchTable.field? name).isSome = true := by decide
  have hline : '\n' ∉ "ajax\tpsv\t\\N".toList := by decide
  have hsplit : Tsv.splitLine "ajax\tpsv\t\\N" = ["ajax", "psv", "\\N"] := rfl
  have hcount : (Tsv.splitLine "ajax\tpsv\t\\N").length = names.length := by rw [hsplit]; rfl
  have hperm : columns.Perm (names.zip (Tsv.splitLine "ajax\tpsv\t\\N")) := by
    rw [hsplit]
    decide
  obtain ⟨decoder, decoder', hdecoder, hdecoder', hsame, -⟩ :=
    decode_permuted matchTable names .utc _ columns hnames hknown hline hcount hperm
  obtain rfl : ⟨matchTable, [0, 1, 3], .utc⟩ = decoder := Except.ok.inj hdecoder
  exact ⟨⟨hnames, hknown, hline, hcount, hperm⟩, decoder', hdecoder', (hsame _).1 decode_match⟩

end Columnar
