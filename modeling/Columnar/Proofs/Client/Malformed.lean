import Columnar.Proofs.Client.AdHoc
import Columnar.Proofs.Client.Cut
import Mathlib.Data.List.Zip

/-!
Headers of queries without a schema, well-formed or not.

A header has two lines with the same number of fields, names above and types below (`IsHeader`).
Names and types are put together as pairs, and what has no partner is left over: types that are left
over are not looked at, and a name that is left over is found where it stands before already. So
there are headers with unequal lines that give a table (`IsUneven`). A body that ends behind its
first line is taken for one without rows. All other malformed headers are errors
(`exists_run_select_iff`).
-/

namespace Columnar

variable {names typeNames : List String} {nameLine typeLine : String} {zone : Calendar.Zone}
  {s : Schema}

/-! ### Pairs of names and types -/

theorem map_fst_zip_take {α β : Type} : ∀ (l : List α) (l' : List β),
    (l.zip l').map Prod.fst = l.take l'.length
  | [], _ => by simp
  | _ :: _, [] => rfl
  | a :: l, b :: l' => congrArg (a :: ·) (map_fst_zip_take l l')

theorem map_snd_zip_take {α β : Type} (l : List α) (l' : List β) :
    (l.zip l').map Prod.snd = l'.take l.length := by
  rw [← List.zip_swap, List.map_map]
  exact map_fst_zip_take l' l

/-- The names of fields are those of the columns. -/
theorem map_name_fieldsOfColumns : ∀ {columns : List (String × String)} {fields : List Field},
    Schema.fieldsOfColumns columns = .ok fields → fields.map Field.name = columns.map Prod.fst
  | [], fields, h => by
    obtain rfl := Except.ok.inj h
    rfl
  | (name, typeName) :: columns, fields, h => by
    obtain ⟨t, -, h⟩ := bind_eq_ok h
    obtain ⟨rest, hrest, h⟩ := bind_eq_ok h
    obtain rfl := Except.ok.inj h
    exact congrArg (name :: ·) (map_name_fieldsOfColumns hrest)

/-- Columns give fields exactly if each of their types can be read. -/
theorem exists_fieldsOfColumns_iff : ∀ {columns : List (String × String)},
    (∃ fields, Schema.fieldsOfColumns columns = .ok fields) ↔
      ∀ typeName ∈ columns.map Prod.snd, ∃ t, ColumnType.read typeName = .ok t
  | [] => iff_of_true ⟨[], rfl⟩ (by simp)
  | (name, typeName) :: columns => by
    rw [List.map_cons, List.forall_mem_cons, ← exists_fieldsOfColumns_iff, Schema.fieldsOfColumns]
    constructor
    · rintro ⟨fields, h⟩
      obtain ⟨t, ht, h⟩ := bind_eq_ok h
      obtain ⟨rest, hrest, -⟩ := bind_eq_ok h
      exact ⟨⟨t, ht⟩, rest, hrest⟩
    · rintro ⟨⟨t, ht⟩, rest, hrest⟩
      exact ⟨{ name, type := t } :: rest, by rw [ht, ok_bind, hrest]; rfl⟩

/-- There is a decoder exactly if the schema has a field for each name. -/
theorem exists_ofNames_iff : (∃ decoder, LineDecoder.ofNames s names zone = .ok decoder) ↔
    names ⊆ s.fields.map Field.name := by
  constructor
  · rintro ⟨decoder, h⟩ name hname
    obtain ⟨columns, hcolumns, -⟩ := bind_eq_ok h
    obtain ⟨i, hi⟩ := exists_mapM_eq_ok_iff.1 ⟨columns, hcolumns⟩ name hname
    obtain ⟨hlt, hfound, -⟩ := List.findIdx?_eq_some_iff_getElem.1 (orFail_eq_ok hi)
    exact List.mem_map.2 ⟨_, List.getElem_mem hlt, of_decide_eq_true hfound⟩
  · exact fun h => ⟨_, LineDecoder.ofNames_eq (fun name hname => h hname) zone⟩

namespace RowStream

/-! ### Headers -/

/-- A header: two lines with the same number of fields, each of which can be unescaped, and the
fields of the second line name types. -/
structure IsHeader (nameLine typeLine : String) : Prop where
  count : (Tsv.splitLine nameLine).length = (Tsv.splitLine typeLine).length
  names : ∀ field ∈ Tsv.splitLine nameLine, ∃ name, Tsv.unescape? field = some name
  types : ∀ field ∈ Tsv.splitLine typeLine, ∃ typeName t, Tsv.unescape? field = some typeName ∧
    ColumnType.read typeName = .ok t

/-- The names and types of two lines give a table: the types that have a name can be read, and each
name without a type stands in front already. -/
structure GivesTable (names typeNames : List String) : Prop where
  types : ∀ typeName ∈ typeNames.take names.length, ∃ t, ColumnType.read typeName = .ok t
  names : names.drop typeNames.length ⊆ names.take typeNames.length

/-- Two lines with unequal numbers of fields that give a table nevertheless. -/
def IsUneven (nameLine typeLine : String) : Prop :=
  ∃ names typeNames, readHeader nameLine = .ok names ∧ readHeader typeLine = .ok typeNames ∧
    names.length ≠ typeNames.length ∧ GivesTable names typeNames

theorem unescapeAll_eq_ok_iff : ∀ {fields texts : List String},
    Tsv.unescapeAll fields = .ok texts ↔
      List.Forall₂ (fun field text => Tsv.unescape? field = some text) fields texts
  | [], texts => by
    rw [List.forall₂_nil_left_iff, Tsv.unescapeAll, Except.ok.injEq, eq_comm]
  | field :: fields, texts => by
    rw [List.forall₂_cons_left_iff, Tsv.unescapeAll]
    cases Tsv.unescape? field with
    | none => simp
    | some text =>
      simp only
      constructor
      · intro h
        obtain ⟨rest, hrest, rfl⟩ := map_eq_ok h
        exact ⟨text, rest, rfl, unescapeAll_eq_ok_iff.1 hrest, rfl⟩
      · rintro ⟨_, rest, ⟨⟩, hrest, rfl⟩
        rw [unescapeAll_eq_ok_iff.2 hrest, map_ok]

theorem readHeader_eq_ok_iff {line : String} {texts : List String} :
    readHeader line = .ok texts ↔
      List.Forall₂ (fun field text => Tsv.unescape? field = some text) (Tsv.splitLine line)
        texts := by
  rw [readHeader, Tsv.readLine, ← unescapeAll_eq_ok_iff]
  cases Tsv.unescapeAll (Tsv.splitLine line) <;> simp

/-- A line of a header is read exactly if each of its fields can be unescaped. -/
theorem exists_readHeader_iff {line : String} : (∃ texts, readHeader line = .ok texts) ↔
    ∀ field ∈ Tsv.splitLine line, ∃ text, Tsv.unescape? field = some text := by
  simp only [readHeader_eq_ok_iff]
  constructor
  · rintro ⟨texts, h⟩ field hfield
    obtain ⟨text, -, htext⟩ := exists_mem_of_forall₂ h hfield
    exact ⟨text, htext⟩
  · exact exists_forall₂

theorem length_of_readHeader {line : String} {texts : List String}
    (h : readHeader line = .ok texts) : (Tsv.splitLine line).length = texts.length :=
  (readHeader_eq_ok_iff.1 h).length_eq

/-- Two lines are a header exactly if they have the same number of fields and give a table. -/
theorem isHeader_iff : IsHeader nameLine typeLine ↔
    ∃ names typeNames, readHeader nameLine = .ok names ∧ readHeader typeLine = .ok typeNames ∧
      names.length = typeNames.length ∧ GivesTable names typeNames := by
  constructor
  · intro h
    obtain ⟨names, hnames⟩ := exists_readHeader_iff.2 h.names
    obtain ⟨typeNames, htypeNames⟩ := exists_readHeader_iff.2 fun field hfield =>
      have ⟨typeName, _, htypeName, _⟩ := h.types field hfield
      ⟨typeName, htypeName⟩
    have hcount : names.length = typeNames.length := by
      rw [← length_of_readHeader hnames, ← length_of_readHeader htypeNames, h.count]
    refine ⟨names, typeNames, hnames, htypeNames, hcount, ?_, ?_⟩
    · intro typeName htypeName
      obtain ⟨field, hfield, hunescape⟩ := exists_mem_of_forall₂
        (List.Forall₂.flip (readHeader_eq_ok_iff.1 htypeNames)) (List.mem_of_mem_take htypeName)
      obtain ⟨typeName', t, hunescape', ht⟩ := h.types field hfield
      obtain rfl := Option.some.inj (hunescape.symm.trans hunescape')
      exact ⟨t, ht⟩
    · rw [← hcount, List.drop_length]
      exact List.nil_subset _
  · rintro ⟨names, typeNames, hnames, htypeNames, hcount, htable⟩
    refine ⟨?_, exists_readHeader_iff.1 ⟨names, hnames⟩, fun field hfield => ?_⟩
    · rw [length_of_readHeader hnames, length_of_readHeader htypeNames, hcount]
    · obtain ⟨typeName, hmem, hunescape⟩ :=
        exists_mem_of_forall₂ (readHeader_eq_ok_iff.1 htypeNames) hfield
      rw [← List.take_of_length_le hcount.ge] at hmem
      obtain ⟨t, ht⟩ := htable.types typeName hmem
      exact ⟨typeName, t, hunescape, ht⟩

/-! ### Tables of headers -/

theorem map_name_headerSchema (h : headerSchema names typeNames = .ok s) :
    s.fields.map Field.name = names.take typeNames.length := by
  obtain ⟨fields, hfields, h⟩ := bind_eq_ok h
  obtain rfl := Except.ok.inj h
  rw [map_name_fieldsOfColumns hfields, map_fst_zip_take]

theorem exists_headerSchema_iff : (∃ s, headerSchema names typeNames = .ok s) ↔
    ∀ typeName ∈ typeNames.take names.length, ∃ t, ColumnType.read typeName = .ok t := by
  rw [← map_snd_zip_take, ← exists_fieldsOfColumns_iff]
  constructor
  · rintro ⟨s, h⟩
    obtain ⟨fields, hfields, -⟩ := bind_eq_ok h
    exact ⟨fields, hfields⟩
  · rintro ⟨fields, hfields⟩
    exact ⟨{ table := adHocTable, fields }, by rw [headerSchema, Schema.ofColumns, hfields]; rfl⟩

/-- All names have a type exactly if those without one of their own stand in front already. -/
theorem subset_take_iff {k : Nat} : names ⊆ names.take k ↔ names.drop k ⊆ names.take k := by
  have h : names.take k ++ names.drop k ⊆ names.take k ↔ names.drop k ⊆ names.take k := by
    rw [List.append_subset, and_iff_right (List.Subset.refl _)]
  rwa [List.take_append_drop] at h

theorem ofParts_eq [Clocks] {decoder : LineDecoder} (hnames : readHeader nameLine = .ok names)
    (htypeNames : readHeader typeLine = .ok typeNames) (hs : headerSchema names typeNames = .ok s)
    (hdecoder : LineDecoder.ofNames s names zone = .ok decoder) (data : List (Result String)) :
    ofParts none zone nameLine typeLine data = .ok ⟨s, decodeLines decoder data⟩ := by
  rw [ofParts, hnames, ok_bind, htypeNames, ok_bind, Option.elim_none, hs, ok_bind, hdecoder]
  rfl

theorem exists_ofParts_iff [Clocks] {data : List (Result String)} :
    (∃ stream, ofParts none zone nameLine typeLine data = .ok stream) ↔
      ∃ names typeNames, readHeader nameLine = .ok names ∧ readHeader typeLine = .ok typeNames ∧
        GivesTable names typeNames := by
  constructor
  · rintro ⟨stream, h⟩
    obtain ⟨names, hnames, h⟩ := bind_eq_ok h
    obtain ⟨typeNames, htypeNames, h⟩ := bind_eq_ok h
    obtain ⟨s, hs, h⟩ := bind_eq_ok h
    obtain ⟨decoder, hdecoder, -⟩ := bind_eq_ok h
    have hsubset := exists_ofNames_iff.1 ⟨decoder, hdecoder⟩
    rw [map_name_headerSchema hs] at hsubset
    exact ⟨names, typeNames, hnames, htypeNames, exists_headerSchema_iff.1 ⟨s, hs⟩,
      subset_take_iff.1 hsubset⟩
  · rintro ⟨names, typeNames, hnames, htypeNames, htable⟩
    obtain ⟨s, hs⟩ := exists_headerSchema_iff.2 htable.types
    have hnamed : names ⊆ s.fields.map Field.name := by
      rw [map_name_headerSchema hs]
      exact subset_take_iff.2 htable.names
    obtain ⟨decoder, hdecoder⟩ : ∃ decoder, LineDecoder.ofNames s names zone = .ok decoder :=
      exists_ofNames_iff.2 hnamed
    exact ⟨_, ofParts_eq hnames htypeNames hs hdecoder data⟩

/-- Lines give rows exactly if there are none, if there is only one, or if the first two are a
header or pass for one. -/
theorem exists_ofLines_iff [Clocks] {lines : List (Result String)} :
    (∃ stream, ofLines none zone lines = .ok stream) ↔
      lines = [] ∨ (∃ nameLine, lines = [.ok nameLine]) ∨
        ∃ nameLine typeLine data, lines = .ok nameLine :: .ok typeLine :: data ∧
          (IsHeader nameLine typeLine ∨ IsUneven nameLine typeLine) := by
  rcases lines with _ | ⟨e | nameLine, rest⟩
  · simp [ofLines]
  · simp [ofLines]
  rcases rest with _ | ⟨e | typeLine, data⟩
  · simp [ofLines]
  · simp [ofLines]
  rw [ofLines, exists_ofParts_iff]
  constructor
  · rintro ⟨names, typeNames, hnames, htypeNames, htable⟩
    refine .inr (.inr ⟨nameLine, typeLine, data, rfl, ?_⟩)
    by_cases hcount : names.length = typeNames.length
    · exact .inl (isHeader_iff.2 ⟨names, typeNames, hnames, htypeNames, hcount, htable⟩)
    · exact .inr ⟨names, typeNames, hnames, htypeNames, hcount, htable⟩
  · rintro (⟨⟨⟩⟩ | ⟨_, ⟨⟩⟩ | ⟨_, _, _, ⟨⟩, h | h⟩)
    · obtain ⟨names, typeNames, hnames, htypeNames, -, htable⟩ := isHeader_iff.1 h
      exact ⟨names, typeNames, hnames, htypeNames, htable⟩
    · obtain ⟨names, typeNames, hnames, htypeNames, -, htable⟩ := h
      exact ⟨names, typeNames, hnames, htypeNames, htable⟩

end RowStream

namespace Action

open RowStream (IsHeader IsUneven)

variable {transport : Transport} {client known : Client}

/-- A query without a schema succeeds on a response exactly if the body is empty or begins with a
header, and besides if it ends behind its first line, or if its first two lines have unequal numbers
of fields and pass for a header. -/
theorem exists_run_select_iff [Clocks] {server : Capabilities} {response : Response}
    (query : String) (options : Options)
    (hserver : capabilities.run transport client = (.ok server, known))
    (hanswer : transport known.sent (selectRequest known.connection query none options)
      = .ok response)
    (hsuccess : response.isSuccess = true) :
    (∃ stream after, (select query none options).run transport client = (.ok stream, after)) ↔
      response.body.read = ([], none) ∨
      (∃ nameLine, response.body.lines = [.ok nameLine]) ∨
      ∃ nameLine typeLine data, response.body.lines = .ok nameLine :: .ok typeLine :: data ∧
        (IsHeader nameLine typeLine ∨ IsUneven nameLine typeLine) := by
  rw [run_select_of_capabilities hserver, run_select (capabilities_known hserver), hanswer, ok_bind,
    accepted, if_pos hsuccess, ok_bind, ← Body.lines_eq_nil_iff,
    ← @RowStream.exists_ofLines_iff server.zone]
  simp [Prod.ext_iff]

/-- A server that answers with the lines. -/
def linesServer (lines : List String) : Transport where
  answer _ _ := .ok ⟨200, .ofText (Text.terminated lines)⟩

theorem run_select_linesServer [Clocks] (query : String) {lines : List String}
    (h : ∀ line ∈ lines, '\n' ∉ line.toList ∧ '\r' ∉ line.toList) :
    ((select query none {}).run (linesServer lines) shopClient).1
      = RowStream.ofLines none .utc (lines.map .ok) := by
  have hknown : shopClient.connection.capabilities = some .fallback := rfl
  rw [run_select hknown, ← Body.lines_terminated h]
  rfl

/-- A second column without a type is an error, since no column in front of it has its name. -/
theorem exists_run_select_untyped :
    ¬ ∃ stream after, (select "SELECT a, b FROM t" none {}).run
      (linesServer ["a\tb", "UInt8", "1\t2"]) shopClient = (.ok stream, after) := by
  have hserver : capabilities.run (linesServer ["a\tb", "UInt8", "1\t2"]) shopClient
      = (.ok .fallback, shopClient) := run_capabilities rfl
  have hlines : (Body.ofText (Text.terminated ["a\tb", "UInt8", "1\t2"])).lines
      = [.ok "a\tb", .ok "UInt8", .ok "1\t2"] := Body.lines_terminated (by decide)
  rw [exists_run_select_iff "SELECT a, b FROM t" {} hserver rfl rfl, ← Body.lines_eq_nil_iff,
    hlines]
  rintro (h | ⟨_, h⟩ | ⟨_, _, _, ⟨⟩, h | ⟨names, typeNames, hnames, htypeNames, -, htable⟩⟩)
  · exact nomatch h
  · exact nomatch h
  · exact absurd h.count (by decide)
  · obtain rfl : ["a", "b"] = names := Except.ok.inj hnames
    obtain rfl : ["UInt8"] = typeNames := Except.ok.inj htypeNames
    exact absurd htable.names (by decide)

/-- A body that ends behind the names, a type that belongs to no name, and a name without a type
that stands in front already: none of these is a header, and none is an error. -/
theorem malformed_headers_pass :
    ((select "SELECT a FROM t" none {}).run (linesServer ["a"]) shopClient).1
        = .ok ⟨{ table := RowStream.adHocTable }, []⟩ ∧
      ((select "SELECT a FROM t" none {}).run
          (linesServer ["a", "UInt8\tString", "1"]) shopClient).1
        = .ok ⟨adHocTable ["a"] [.uint .w8], [.ok ⟨adHocTable ["a"] [.uint .w8], [.uint 1]⟩]⟩ ∧
      ((select "SELECT a, a FROM t" none {}).run
          (linesServer ["a\ta", "UInt8", "1\t2"]) shopClient).1
        = .ok ⟨adHocTable ["a"] [.uint .w8], [.ok ⟨adHocTable ["a"] [.uint .w8], [.uint 2]⟩]⟩ ∧
      ¬ IsHeader "a" "UInt8\tString" ∧ ¬ IsHeader "a\ta" "UInt8" := by
  have hread : ["UInt8"].mapM ColumnType.read = .ok [.uint .w8] := by
    rw [List.mapM_cons, (ColumnType.read_of_plain rfl).trans rfl]
    rfl
  have htable : RowStream.headerSchema ["a"] ["UInt8"] = .ok (adHocTable ["a"] [.uint .w8]) :=
    headerSchema_eq hread
  refine ⟨?_, ?_, ?_, fun h => absurd h.count (by decide), fun h => absurd h.count (by decide)⟩
  · rw [run_select_linesServer _ (by decide)]
    rfl
  · rw [run_select_linesServer _ (by decide)]
    have htypes : RowStream.readHeader "UInt8\tString" = .ok ["UInt8", "String"] := rfl
    have hdecoder : LineDecoder.ofNames (adHocTable ["a"] [.uint .w8]) ["a"] .utc
        = .ok ⟨_, [0], .utc⟩ := rfl
    exact (RowStream.ofParts_eq rfl htypes htable hdecoder [.ok "1"]).trans rfl
  · rw [run_select_linesServer _ (by decide)]
    have hnames : RowStream.readHeader "a\ta" = .ok ["a", "a"] := rfl
    have hdecoder : LineDecoder.ofNames (adHocTable ["a"] [.uint .w8]) ["a", "a"] .utc
        = .ok ⟨_, [0, 0], .utc⟩ := rfl
    have htypes : RowStream.readHeader "UInt8" = .ok ["UInt8"] := rfl
    exact (RowStream.ofParts_eq hnames htypes htable hdecoder [.ok "1\t2"]).trans rfl

end Action

end Columnar
