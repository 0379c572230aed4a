import Columnar.Proofs.Client.Rows
import Columnar.Proofs.ColumnType.Name
import Columnar.Proofs.Table.Assign
import Mathlib.Data.List.Basic

/-!
Rows of queries without a schema.

The header of the response gives the table: a field for each column, with its name and type.
Columns find their fields by name, so a column whose name stands in front of it already shares the
place of the first column of that name: its text is read by the type of that one, and its value
takes the place of the other. The place of its own keeps the initial value. Where no name is
repeated, and only there, each column has its own place (`places_eq_range_iff`).
-/

namespace Columnar

variable {names typeNames : List String} {types : List ColumnType} {zone : Calendar.Zone}

/-! ### The table of a header -/

/-- The table with the columns of a header. -/
def adHocTable (names : List String) (types : List ColumnType) : Schema where
  table := RowStream.adHocTable
  fields := (names.zip types).map fun p => { name := p.1, type := p.2 }

theorem fieldsOfColumns_zip (h : typeNames.mapM ColumnType.read = .ok types) :
    Schema.fieldsOfColumns (names.zip typeNames) = .ok (adHocTable names types).fields := by
  induction names generalizing typeNames types with
  | nil => rfl
  | cons name names ih =>
    cases typeNames with
    | nil =>
      obtain rfl : [] = types := Except.ok.inj h
      rfl
    | cons typeName typeNames =>
      rw [List.mapM_cons] at h
      obtain ⟨t, ht, h⟩ := bind_eq_ok h
      obtain ⟨rest, hrest, h⟩ := bind_eq_ok h
      obtain rfl := Except.ok.inj h
      rw [List.zip_cons_cons, Schema.fieldsOfColumns, ht, ok_bind, ih hrest]
      rfl

theorem headerSchema_eq (h : typeNames.mapM ColumnType.read = .ok types) :
    RowStream.headerSchema names typeNames = .ok (adHocTable names types) := by
  rw [RowStream.headerSchema, Schema.ofColumns, fieldsOfColumns_zip h]
  rfl

/-! ### The places of columns -/

/-- The place of each column: that of the first column with its name. -/
def firstPlaces (names : List String) : List Nat :=
  names.map names.idxOf

theorem zip_firstPlaces {γ : Type} (entries : List γ) :
    (firstPlaces names).zip entries = (names.zip entries).map fun p => (names.idxOf p.1, p.2) := by
  rw [firstPlaces, List.zip_map_left]
  rfl

/-- Each column has its own place exactly if no name is repeated. -/
theorem places_eq_range_iff : firstPlaces names = List.range names.length ↔ names.Nodup := by
  constructor
  · intro h
    have hnodup : (names.map names.idxOf).Nodup := by
      rw [← firstPlaces, h]
      exact List.nodup_range
    exact List.Pairwise.of_map names.idxOf (fun a b hne heq => hne (by rw [heq])) hnodup
  · intro h
    refine List.ext_getElem (by simp [firstPlaces]) fun i hi hi' => ?_
    simp only [firstPlaces, List.getElem_map, List.getElem_range, h.idxOf_getElem]

theorem map_name_adHocTable (h : names.length = types.length) :
    (adHocTable names types).fields.map Field.name = names := by
  rw [adHocTable, List.map_map]
  exact List.map_fst_zip h.le

/-- The decoder for the lines behind a header. -/
def adHocDecoder (names : List String) (types : List ColumnType) (zone : Calendar.Zone) :
    LineDecoder where
  schema := adHocTable names types
  columns := firstPlaces names
  zone

theorem ofNames_adHocTable (h : names.length = types.length) :
    LineDecoder.ofNames (adHocTable names types) names zone
      = .ok (adHocDecoder names types zone) := by
  have hnames := map_name_adHocTable h
  rw [LineDecoder.ofNames_eq fun name hname => by rwa [hnames], hnames]
  rfl

/-- A header with as many types as names gives a decoder for all lines behind it. -/
theorem ofLines_adHoc [Clocks] {nameLine typeLine : String}
    (hnames : RowStream.readHeader nameLine = .ok names)
    (htypeNames : RowStream.readHeader typeLine = .ok typeNames)
    (htypes : typeNames.mapM ColumnType.read = .ok types) (hcount : names.length = types.length)
    (data : List (Result String)) :
    RowStream.ofLines none zone (.ok nameLine :: .ok typeLine :: data)
      = .ok ⟨adHocTable names types,
          RowStream.decodeLines (adHocDecoder names types zone) data⟩ := by
  rw [RowStream.ofLines, RowStream.ofParts, hnames, ok_bind, htypeNames, ok_bind, Option.elim_none,
    headerSchema_eq htypes, ok_bind, ofNames_adHocTable hcount, ok_bind]
  rfl

/-! ### The values of a line -/

/-- The type of the first column with a name. -/
def firstType (names : List String) (types : List ColumnType) (name : String) : ColumnType :=
  ((names.zip types).lookup name).getD .string

/-- The texts of a line, each read by the type of the first column with the name of its column. -/
def readTexts [Clocks] (names : List String) (types : List ColumnType) (zone : Calendar.Zone)
    (texts : List String) : Result (List Value) :=
  (names.zip texts).mapM fun p => (firstType names types p.1).decode zone p.2

/-- What a row holds of the values that are read from a line: the first column of a name holds the
last value of the name, and any other column of the name the initial value of its type. -/
def keptValues (names : List String) (types : List ColumnType) (values : List Value) : List Value :=
  (names.zip types).mapIdx fun i p =>
    if names.idxOf p.1 = i then ((names.zip values).reverse.lookup p.1).getD p.2.initial
    else p.2.initial

/-- A look-up by keys that are changed, where the change keeps apart what is looked up. -/
theorem lookup_map_key {γ : Type} {f : String → Nat} {a : String} {i : Nat} :
    ∀ {l : List (String × γ)}, (∀ p ∈ l, f p.1 = i ↔ p.1 = a) →
      (l.map fun p => (f p.1, p.2)).lookup i = l.lookup a
  | [], _ => rfl
  | p :: l, h => by
    have hrest := lookup_map_key fun q hq => h q (List.mem_cons_of_mem p hq)
    have hfirst := h p List.mem_cons_self
    rw [List.map_cons, List.lookup_cons, List.lookup_cons, hrest]
    by_cases hp : p.1 = a
    · rw [hfirst.2 hp, hp]
      simp
    · simp [beq_eq_false_iff_ne.2 (Ne.symm hp), beq_eq_false_iff_ne.2 (Ne.symm (mt hfirst.1 hp))]

/-- At a place there is put in last what the line gives last for the name, if the place is that of
the first column of the name, and otherwise nothing. -/
theorem lastAt?_firstPlaces {values : List Value} {i : Nat} {name : String}
    (hname : names[i]? = some name) :
    Row.lastAt? ((firstPlaces names).zip values) i
      = if names.idxOf name = i then (names.zip values).reverse.lookup name else none := by
  have hplace : ∀ p ∈ names.zip values, names.idxOf p.1 = i → p.1 = name := by
    intro p hp hi
    have hself := List.getElem?_idxOf (List.of_mem_zip hp).1
    rw [hi, hname] at hself
    exact (Option.some.inj hself).symm
  rw [zip_firstPlaces]
  split
  · next hi =>
    have hkey : ∀ p ∈ (names.zip values).reverse, names.idxOf p.1 = i ↔ p.1 = name :=
      fun p hp => ⟨hplace p (List.mem_reverse.1 hp), fun h => by rw [h, hi]⟩
    rw [Row.lastAt?, ← List.map_reverse]
    exact lookup_map_key (f := fun s => names.idxOf s) hkey
  · next hi =>
    refine Row.lastAt?_eq_none fun q hq => ?_
    obtain ⟨p, hp, rfl⟩ := List.mem_map.1 hq
    exact fun h => hi (hplace p hp h ▸ h)

theorem setAll_adHoc (values : List Value) :
    (Row.new (adHocTable names types)).setAll ((firstPlaces names).zip values)
      = ⟨adHocTable names types, keptValues names types values⟩ := by
  have hvalues : ((Row.new (adHocTable names types)).setAll
      ((firstPlaces names).zip values)).values = keptValues names types values := by
    refine List.ext_getElem? fun i => ?_
    rw [Row.getElem?_setAll, keptValues, List.getElem?_mapIdx, Row.new, adHocTable]
    simp only [List.getElem?_map, Option.map_map]
    cases hpair : (names.zip types)[i]? with
    | none => rfl
    | some p =>
      have hname : names[i]? = some p.1 := (List.getElem?_zip_eq_some.1 hpair).1
      rw [Option.map_some, Option.map_some, lastAt?_firstPlaces hname]
      split <;> rfl
  have hschema := Row.schema_setAll (Row.new (adHocTable names types))
    ((firstPlaces names).zip values)
  generalize hrow : (Row.new (adHocTable names types)).setAll ((firstPlaces names).zip values) = r
    at hvalues hschema
  rcases r with ⟨schema, values⟩
  obtain rfl : schema = adHocTable names types := hschema
  obtain rfl := hvalues
  rfl

theorem getElem?_firstType (hcount : names.length = types.length) {name : String}
    (hname : name ∈ names) :
    (names.zip types)[names.idxOf name]? = some (name, firstType names types name) := by
  induction names generalizing types with
  | nil => exact absurd hname List.not_mem_nil
  | cons first names ih =>
    cases types with
    | nil => exact absurd hcount (by simp)
    | cons t types =>
      by_cases hfirst : first = name
      · subst hfirst
        simp [firstType]
      · have hmem := (List.mem_cons.1 hname).resolve_left (Ne.symm hfirst)
        have hrest := ih (by simpa using hcount) hmem
        have hlookup : firstType (first :: names) (t :: types) name
            = firstType names types name := by
          simp [firstType, List.lookup_cons, beq_eq_false_iff_ne.2 (Ne.symm hfirst)]
        rw [List.idxOf_cons_ne _ hfirst, List.zip_cons_cons, List.getElem?_cons_succ, hrest,
          hlookup]

/-- A text is read by the type of the first column with the name of its column. -/
theorem read_adHoc [Clocks] (hcount : names.length = types.length) {name : String}
    (hname : name ∈ names) (text : String) :
    (adHocDecoder names types zone).read (names.idxOf name, text)
      = ((firstType names types name).decode zone text).map fun value =>
        (names.idxOf name, value) := by
  have hfield : (adHocDecoder names types zone).schema.fields[names.idxOf name]?
      = some { name, type := firstType names types name } := by
    rw [adHocDecoder, adHocTable, List.getElem?_map, getElem?_firstType hcount hname]
    rfl
  rw [LineDecoder.read, hfield]
  rfl

theorem mapM_read_adHoc [Clocks] (hcount : names.length = types.length) {texts : List String}
    (htexts : texts.length = names.length) :
    ((firstPlaces names).zip texts).mapM (adHocDecoder names types zone).read
      = (readTexts names types zone texts).map fun values => (firstPlaces names).zip values := by
  have hread : ∀ p ∈ names.zip texts, (adHocDecoder names types zone).read (names.idxOf p.1, p.2)
      = ((firstType names types p.1).decode zone p.2).map fun value => (names.idxOf p.1, value) :=
    fun p hp => read_adHoc hcount (List.of_mem_zip hp).1 p.2
  have hzip : ∀ values : List Value, List.zipWith (fun p value => (names.idxOf p.1, value))
      (names.zip texts) values = (firstPlaces names).zip values := by
    intro values
    have hfst : (names.zip texts).map Prod.fst = names := List.map_fst_zip htexts.ge
    have hplaces : firstPlaces names = ((names.zip texts).map Prod.fst).map names.idxOf := by
      rw [hfst, firstPlaces]
    have hpaired : (firstPlaces names).zip values
        = List.zipWith Prod.mk (firstPlaces names) values := List.zip_eq_zipWith
    rw [hpaired, hplaces, List.map_map, List.zipWith_map_left]
    rfl
  rw [zip_firstPlaces, List.mapM_map]
  refine (mapM_congr hread).trans ?_
  rw [mapM_map_zipWith, readTexts]
  simp only [hzip]

/-- A line behind a header with as many fields is read text by text, and its row holds what the
places of the columns keep. -/
theorem decode_adHoc [Clocks] (hcount : names.length = types.length) {line : String}
    (hline : (Tsv.splitLine line).length = names.length) :
    (adHocDecoder names types zone).decode line
      = (readTexts names types zone (Tsv.splitLine line)).map fun values =>
        ⟨adHocTable names types, keptValues names types values⟩ := by
  have hplaces : ∀ i ∈ (adHocDecoder names types zone).columns,
      i < (adHocDecoder names types zone).schema.fields.length := by
    intro i hi
    obtain ⟨name, hname, rfl⟩ := List.mem_map.1 hi
    have hlength := congrArg List.length (map_name_adHocTable hcount)
    rw [List.length_map] at hlength
    exact (List.idxOf_lt_length_of_mem hname).trans_eq hlength.symm
  have hcolumns : (Tsv.splitLine line).length = (adHocDecoder names types zone).columns.length := by
    rw [hline, adHocDecoder, firstPlaces, List.length_map]
  have hreads : ((adHocDecoder names types zone).columns.zip (Tsv.splitLine line)).mapM
      (adHocDecoder names types zone).read = _ := mapM_read_adHoc hcount hline
  rw [LineDecoder.decode_eq hplaces hcolumns, hreads]
  cases readTexts names types zone (Tsv.splitLine line) with
  | error e => rfl
  | ok values => exact congrArg Except.ok (setAll_adHoc values)

/-! ### Names that are not repeated -/

/-- The texts of a line, each read by the type of its own column. -/
def readInOrder [Clocks] (types : List ColumnType) (zone : Calendar.Zone) (texts : List String) :
    Result (List Value) :=
  (types.zip texts).mapM fun p => p.1.decode zone p.2

/-- Where no name is repeated, each text is read by the type of its own column. -/
theorem readTexts_of_nodup [Clocks] (hnodup : names.Nodup) (hcount : names.length = types.length)
    {texts : List String} (htexts : texts.length = names.length) :
    readTexts names types zone texts = readInOrder types zone texts := by
  induction names generalizing types texts with
  | nil =>
    obtain rfl : types = [] := List.eq_nil_of_length_eq_zero hcount.symm
    rfl
  | cons name names ih =>
    cases types with
    | nil => exact absurd hcount (by simp)
    | cons t types =>
      cases texts with
      | nil => exact absurd htexts (by simp)
      | cons text texts =>
        rw [List.nodup_cons] at hnodup
        have hfirst : firstType (name :: names) (t :: types) name = t := by simp [firstType]
        have hrest : ∀ p ∈ names.zip texts,
            (firstType (name :: names) (t :: types) p.1).decode zone p.2
              = (firstType names types p.1).decode zone p.2 := by
          intro p hp
          have hne : p.1 ≠ name := fun h => hnodup.1 (h ▸ (List.of_mem_zip hp).1)
          simp [firstType, List.lookup_cons, beq_eq_false_iff_ne.2 hne]
        have hih := ih hnodup.2 (by simpa using hcount) (by simpa using htexts)
        rw [readTexts, List.zip_cons_cons, List.mapM_cons, mapM_congr hrest, hfirst, readInOrder,
          List.zip_cons_cons, List.mapM_cons, ← readInOrder, ← hih, readTexts]

/-- Where no name is repeated, each value is kept at its own place. -/
theorem keptValues_of_nodup (hnodup : names.Nodup) (hcount : names.length = types.length)
    {values : List Value} (hvalues : values.length = names.length) :
    keptValues names types values = values := by
  refine List.ext_getElem (by simp [keptValues, hvalues, hcount]) fun i hi hi' => ?_
  have hname : i < names.length := hvalues ▸ hi'
  have hfst : ((names.zip values).reverse.map Prod.fst).Nodup := by
    rw [List.map_reverse, List.map_fst_zip hvalues.ge]
    exact (List.reverse_perm names).symm.nodup hnodup
  have hmem : (names[i], values[i]) ∈ (names.zip values).reverse := by
    rw [List.mem_reverse, List.mem_iff_getElem]
    exact ⟨i, by simp [hvalues, hname], List.getElem_zip⟩
  simp only [keptValues, List.getElem_mapIdx, List.getElem_zip, hnodup.idxOf_getElem, if_true,
    lookup_of_mem hfst hmem, Option.getD_some]

/-! ### Queries -/

namespace Action

variable {transport : Transport} {client : Client} {response : Response}

/-- A query without a schema gets its rows from the header and the lines behind it. The values of a
line are read by the types of the first columns with the same names, and the row holds them at the
places of these. Each column has its own type and place exactly if no name is repeated, and then the
values are those of the fields in their order. -/
theorem select_adHoc [Clocks] {server : Capabilities} {query : String} {options : Options}
    {nameLine typeLine : String} {data : List (Result String)}
    (hknown : client.connection.capabilities = some server)
    (hanswer : transport client.sent (selectRequest client.connection query none options)
      >>= accepted = .ok response)
    (hlines : response.body.lines = .ok nameLine :: .ok typeLine :: data)
    (hnames : RowStream.readHeader nameLine = .ok names)
    (htypeNames : RowStream.readHeader typeLine = .ok typeNames)
    (htypes : typeNames.mapM ColumnType.read = .ok types) (hcount : names.length = types.length) :
    let table := adHocTable names types
    let decoder : LineDecoder := ⟨table, firstPlaces names, server.zone⟩
    ((select query none options).run transport client).1
        = .ok ⟨table, RowStream.decodeLines decoder data⟩ ∧
      (∀ line, (Tsv.splitLine line).length = names.length → decoder.decode line
        = (readTexts names types server.zone (Tsv.splitLine line)).map fun values =>
          ⟨table, keptValues names types values⟩) ∧
      (firstPlaces names = List.range names.length ↔ names.Nodup) ∧
      (names.Nodup → ∀ line, (Tsv.splitLine line).length = names.length → decoder.decode line
        = (readInOrder types server.zone (Tsv.splitLine line)).map fun values =>
          ⟨table, values⟩) := by
  intro table decoder
  refine ⟨?_, fun line hline => decode_adHoc hcount hline, places_eq_range_iff, ?_⟩
  · rw [run_select hknown, hanswer, ok_bind, hlines, ofLines_adHoc hnames htypeNames htypes hcount]
    rfl
  · intro hnodup line hline
    have hdecode : decoder.decode line = _ := decode_adHoc hcount hline
    rw [hdecode, ← readTexts_of_nodup hnodup hcount hline]
    cases hread : readTexts names types server.zone (Tsv.splitLine line) with
    | error e => rfl
    | ok values =>
      have hvalues : values.length = names.length := by
        rw [← (mapM_eq_ok_iff.1 hread).length_eq, List.length_zip, hline, Nat.min_self]
      rw [map_ok, map_ok, keptValues_of_nodup hnodup hcount hvalues]

/-- A server that answers with two numbers in columns of the given names. -/
def numbersServer (nameLine : String) : Transport where
  answer _ _ := .ok ⟨200, .ofText (Text.terminated [nameLine, "UInt8\tUInt8", "1\t2"])⟩

theorem lines_numbers {nameLine : String} (h : '\n' ∉ nameLine.toList ∧ '\r' ∉ nameLine.toList) :
    (Body.ofText (Text.terminated [nameLine, "UInt8\tUInt8", "1\t2"])).lines
      = [.ok nameLine, .ok "UInt8\tUInt8", .ok "1\t2"] := by
  have hall : ∀ line ∈ [nameLine, "UInt8\tUInt8", "1\t2"],
      '\n' ∉ line.toList ∧ '\r' ∉ line.toList := by
    rw [List.forall_mem_cons]
    exact ⟨h, by decide⟩
  exact Body.lines_terminated hall

theorem readHeader_numbers : RowStream.readHeader "UInt8\tUInt8" = .ok ["UInt8", "UInt8"] :=
  rfl

theorem read_numbers : ["UInt8", "UInt8"].mapM ColumnType.read = .ok [.uint .w8, .uint .w8] := by
  have hread : ColumnType.read "UInt8" = .ok (.uint .w8) :=
    (ColumnType.read_of_plain rfl).trans rfl
  simp only [List.mapM_cons, hread]
  rfl

/-- The table of two numbers with names. -/
def numbersTable (names : List String) : Schema :=
  adHocTable names [.uint .w8, .uint .w8]

theorem select_adHoc_numbers :
    ((select "SELECT a, b FROM t" none {}).run (numbersServer "a\tb") shopClient).1
      = .ok ⟨numbersTable ["a", "b"], [.ok ⟨numbersTable ["a", "b"], [.uint 1, .uint 2]⟩]⟩ := by
  have hnames : RowStream.readHeader "a\tb" = .ok ["a", "b"] := rfl
  have hanswer : numbersServer "a\tb" shopClient.sent
      (selectRequest shopClient.connection "SELECT a, b FROM t" none {}) >>= accepted
        = .ok ⟨200, .ofText (Text.terminated ["a\tb", "UInt8\tUInt8", "1\t2"])⟩ := rfl
  have hknown : shopClient.connection.capabilities = some .fallback := rfl
  obtain ⟨hrun, -, -, hdecode⟩ := select_adHoc hknown hanswer (lines_numbers (by decide)) hnames
    readHeader_numbers read_numbers rfl
  have hline := hdecode (by decide) "1\t2" rfl
  rw [hrun, RowStream.decodeLines, if_neg (by decide), hline]
  rfl

/-- Of two columns with one name the first has the value of the second, which has none. -/
theorem twin_column_lost :
    ((select "SELECT a, a FROM t" none {}).run (numbersServer "a\ta") shopClient).1
      = .ok ⟨numbersTable ["a", "a"], [.ok ⟨numbersTable ["a", "a"], [.uint 2, .uint 0]⟩]⟩ ∧
      (ColumnType.uint .w8).decode .utc "1" = .ok (.uint 1) ∧
      (ColumnType.uint .w8).decode .utc "2" = .ok (.uint 2) := by
  have hnames : RowStream.readHeader "a\ta" = .ok ["a", "a"] := rfl
  have hknown : shopClient.connection.capabilities = some .fallback := rfl
  refine ⟨?_, rfl, rfl⟩
  rw [run_select hknown]
  change RowStream.ofLines none .utc
    (Body.ofText (Text.terminated ["a\ta", "UInt8\tUInt8", "1\t2"])).lines = _
  rw [lines_numbers (by decide), ofLines_adHoc hnames readHeader_numbers read_numbers rfl]
  rfl

end Action

end Columnar
