import Columnar.Proofs.ColumnType.Hint
import Columnar.Table.Line

/-!
Tables that were declared with hints on low cardinality.

A server that does not know the hints creates the table that the schema without them describes
(`createStatement_withoutHints`). Lines for the one schema are lines for the other: records are
written alike (`encodeLine_withoutHints`), and what is read from a line differs only in the schema
that the row carries (`decodeLine_withoutHints`).
-/

namespace Columnar

/-- The field with a type without hints. -/
def Field.withoutHints (f : Field) : Field :=
  { f with type := f.type.withoutHints }

/-- The schema with all types without hints. -/
def Schema.withoutHints (s : Schema) : Schema :=
  { s with fields := s.fields.map Field.withoutHints }

/-- The row as one of the schema without hints. -/
def Row.withoutHints (r : Row) : Row :=
  ⟨r.schema.withoutHints, r.values⟩

/-- Reads a line whose columns have the given names. -/
def Schema.decodeLine [Clocks] (s : Schema) (names : List String) (zone : Calendar.Zone)
    (line : String) :
    Result Row := do
  (← LineDecoder.ofNames s names zone).decode line

/-! ### Creating -/

theorem definition_withoutHints (server : Capabilities) (f : Field) :
    f.withoutHints.definition server
      = f.definition { server with lowCardinality := false } := by
  have htype : f.withoutHints.type.render server.lowCardinality = f.type.render false :=
    ColumnType.render_withoutHints _ f.type
  rw [Field.definition, Field.definition, htype]
  rfl

/-- A server that does not know hints creates the table of the schema without them. -/
theorem createStatement_withoutHints (s : Schema) (database : String) (server : Capabilities) :
    s.withoutHints.createStatement database server
      = s.createStatement database { server with lowCardinality := false } := by
  have hcolumns : s.withoutHints.fields.map (Field.definition server)
      = s.fields.map (Field.definition { server with lowCardinality := false }) := by
    rw [Schema.withoutHints, List.map_map]
    exact List.map_congr_left fun f _ => definition_withoutHints server f
  rw [Schema.createStatement, Schema.createStatement, hcolumns]
  rfl

/-! ### Writing -/

theorem isLeftOut_withoutHints (f : Field) (value : Value) :
    f.withoutHints.isLeftOut value = f.isLeftOut value := by
  have hnullable : f.withoutHints.type.isNullable = f.type.isNullable :=
    ColumnType.isNullable_withoutHints f.type
  rw [Field.isLeftOut, Field.isLeftOut, hnullable]
  rfl

theorem writes_withoutHints (format : LineFormat) (f : Field) (value : Value) :
    format.writes f.withoutHints value = format.writes f value := by
  rw [LineFormat.writes, LineFormat.writes, isLeftOut_withoutHints]
  rfl

theorem entry_withoutHints (format : LineFormat) (f : Field) (value : Value) :
    SameSuccess (format.entry f.withoutHints value) (format.entry f value) :=
  (ColumnType.encode_withoutHints f.type value).map _

/-- A record has the same line in both schemas. -/
theorem encodeLine_withoutHints (s : Schema) (values : List Value) (format : LineFormat) :
    SameSuccess (s.withoutHints.encodeLine values format) (s.encodeLine values format) := by
  have hcount : Row.checkCount s.withoutHints values = Row.checkCount s values := by
    rw [Row.checkCount, Row.checkCount, Schema.withoutHints, List.length_map]
  have hwritten : (s.withoutHints.fields.zip values).filter (fun p => format.writes p.1 p.2)
      = ((s.fields.zip values).filter fun p => format.writes p.1 p.2).map
        (Prod.map Field.withoutHints id) := by
    rw [Schema.withoutHints, List.zip_map_left, List.filter_map]
    refine congrArg _ (List.filter_congr fun p _ => ?_)
    exact writes_withoutHints format p.1 p.2
  rw [Schema.encodeLine, Schema.encodeLine, hcount]
  refine (SameSuccess.refl _).bind fun _ => ?_
  simp only [hwritten, List.mapM_map]
  refine SameSuccess.bind ?_ fun entries => .refl _
  exact SameSuccess.mapM fun p _ => entry_withoutHints format p.1 p.2

/-! ### Reading -/

theorem fieldIndex?_withoutHints (s : Schema) (name : String) :
    s.withoutHints.fieldIndex? name = s.fieldIndex? name := by
  rw [Schema.fieldIndex?, Schema.fieldIndex?, Schema.withoutHints, List.findIdx?_map]
  rfl

theorem new_withoutHints (s : Schema) : Row.new s.withoutHints = (Row.new s).withoutHints := by
  have hvalues : s.withoutHints.fields.map Field.initial = s.fields.map Field.initial := by
    rw [Schema.withoutHints, List.map_map]
    refine List.map_congr_left fun f _ => ?_
    have hinitial : f.withoutHints.type.initial = f.type.initial :=
      ColumnType.initial_withoutHints f.type
    rw [Function.comp_apply, Field.initial, Field.initial, hinitial]
    rfl
  rw [Row.new, hvalues]
  rfl

/-- The decoder for the same columns in the schema without hints. -/
def LineDecoder.withoutHints (d : LineDecoder) : LineDecoder :=
  { d with schema := d.schema.withoutHints }

theorem assign_withoutHints [Clocks] (d : LineDecoder) (r : Row) (column : Nat × String) :
    SameSuccess (d.withoutHints.assign r.withoutHints column)
      ((d.assign r column).map Row.withoutHints) := by
  have hfield : d.withoutHints.schema.fields[column.1]?
      = d.schema.fields[column.1]?.map Field.withoutHints := List.getElem?_map
  rw [LineDecoder.assign, LineDecoder.assign, hfield]
  cases d.schema.fields[column.1]? with
  | none => exact .refl _
  | some f =>
    have hmap : ((f.type.decode d.zone column.2).map fun value => r.setAt column.1 value).map
          Row.withoutHints
        = (f.type.decode d.zone column.2).map fun value => r.withoutHints.setAt column.1 value := by
      cases f.type.decode d.zone column.2 <;> rfl
    simp only [Option.map_some, hmap]
    exact (ColumnType.decode_withoutHints d.zone f.type column.2).map _

theorem foldlM_assign_withoutHints [Clocks] (d : LineDecoder) (columns : List (Nat × String))
    (r : Row) :
    SameSuccess (columns.foldlM d.withoutHints.assign r.withoutHints)
      ((columns.foldlM d.assign r).map Row.withoutHints) := by
  induction columns generalizing r with
  | nil => exact .refl _
  | cons column columns ih =>
    rw [List.foldlM_cons, List.foldlM_cons]
    have hstep := (assign_withoutHints d r column).bind fun r' =>
      SameSuccess.refl (columns.foldlM d.withoutHints.assign r')
    cases hrow : d.assign r column with
    | error e =>
      rw [hrow] at hstep
      exact hstep
    | ok next =>
      rw [hrow] at hstep
      exact fun a => (hstep a).trans (ih next a)

theorem ofNames_withoutHints (s : Schema) (names : List String) (zone : Calendar.Zone) :
    LineDecoder.ofNames s.withoutHints names zone
      = (LineDecoder.ofNames s names zone).map LineDecoder.withoutHints := by
  have htable : s.withoutHints.table = s.table := rfl
  simp only [LineDecoder.ofNames, fieldIndex?_withoutHints, htable]
  cases names.mapM fun name =>
    orFail (s.fieldIndex? name) (.parse (.noColumnField s.table name)) <;> rfl

theorem decode_withoutHints [Clocks] (d : LineDecoder) (line : String) :
    SameSuccess (d.withoutHints.decode line) ((d.decode line).map Row.withoutHints) := by
  have hnew : Row.new d.withoutHints.schema = (Row.new d.schema).withoutHints :=
    new_withoutHints d.schema
  rw [LineDecoder.decode, LineDecoder.decode, hnew]
  by_cases hcount : (Tsv.splitLine line).length = d.columns.length
  · have hcount' : (Tsv.splitLine line).length = d.withoutHints.columns.length := hcount
    simp only [if_pos hcount, if_pos hcount']
    exact foldlM_assign_withoutHints d _ _
  · have hcount' : ¬(Tsv.splitLine line).length = d.withoutHints.columns.length := hcount
    simp only [if_neg hcount, if_neg hcount']
    exact .error _ _

/-- A line is read as the same row in both schemas. -/
theorem decodeLine_withoutHints [Clocks] (s : Schema) (names : List String) (zone : Calendar.Zone)
    (line : String) : SameSuccess (s.withoutHints.decodeLine names zone line)
      ((s.decodeLine names zone line).map Row.withoutHints) := by
  rw [Schema.decodeLine, Schema.decodeLine, ofNames_withoutHints]
  cases LineDecoder.ofNames s names zone with
  | error e => exact .refl _
  | ok d => exact decode_withoutHints d line

/-! ### The wire format -/

/-- Hints on low cardinality do not change what travels. Types read and write as they do without
their hints, and have the same initial values. So a table that a server created without the hints is
the table of the schema without them, and takes the same lines and gives the same rows. -/
theorem sameSuccess_withoutHints [Clocks] :
    (∀ t : ColumnType,
      (∀ value, SameSuccess (t.withoutHints.encode value) (t.encode value)) ∧
      (∀ zone field, SameSuccess (t.withoutHints.decode zone field) (t.decode zone field)) ∧
      t.withoutHints.isNullable = t.isNullable ∧ t.withoutHints.initial = t.initial) ∧
    ∀ s : Schema,
      (∀ database server, s.withoutHints.createStatement database server
        = s.createStatement database { server with lowCardinality := false }) ∧
      (∀ values format,
        SameSuccess (s.withoutHints.encodeLine values format) (s.encodeLine values format)) ∧
      ∀ names zone line, SameSuccess (s.withoutHints.decodeLine names zone line)
        ((s.decodeLine names zone line).map Row.withoutHints) := by
  refine ⟨fun t => ⟨?_, ?_, ?_, ?_⟩, fun s => ⟨?_, ?_, ?_⟩⟩
  · exact ColumnType.encode_withoutHints t
  · exact fun zone => ColumnType.decode_withoutHints zone t
  · exact ColumnType.isNullable_withoutHints t
  · exact ColumnType.initial_withoutHints t
  · exact createStatement_withoutHints s
  · exact encodeLine_withoutHints s
  · exact decodeLine_withoutHints s

end Columnar
