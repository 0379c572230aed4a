import Columnar.Proofs.Client.Aligned
import Columnar.Proofs.Table.Typed

/-!
Rows of a query, inserted again.

What is read from a field is a value of its type, and can be written. So a row that a query gives
has a line if the columns of the response fill its fields, and an insert of such rows is not broken
off by any of them: it posts them all, and fares as the server answers (`run_insertWith_selected`).
-/

namespace Columnar

open ColumnType (Inhabits)

/-! ### Typed rows of responses -/

namespace RowStream

/-- A row among the items was decoded from a line. -/
theorem exists_decode_of_mem [Clocks] {decoder : LineDecoder} {row : Row} :
    ∀ {data : List (Result String)}, .ok row ∈ decodeLines decoder data →
      ∃ line, decoder.decode line = .ok row
  | [], h => absurd h List.not_mem_nil
  | .error e :: _, h => absurd (List.mem_singleton.1 h) (by simp)
  | .ok line :: data, h => by
    rw [decodeLines] at h
    split at h
    · exact exists_decode_of_mem h
    split at h
    · next found hfound =>
      rcases List.mem_cons.1 h with heq | h
      · exact ⟨line, by rw [hfound, heq]⟩
      · exact exists_decode_of_mem h
    · exact absurd (List.mem_singleton.1 h) (by simp)

/-- The rows of a response are typed if its columns fill their fields. -/
theorem isTyped_of_mem_items [Clocks] {given : Option Schema} {zone : Calendar.Zone}
    {nameLine : String} {data : List (Result String)} {names : List String} {stream : RowStream}
    {row : Row} (h : ofLines given zone (.ok nameLine :: data) = .ok stream)
    (hnames : readHeader nameLine = .ok names) (hfilled : stream.schema.IsFilledBy names)
    (hrow : .ok row ∈ stream.items) : row.schema = stream.schema ∧ row.IsTyped := by
  match data with
  | [] =>
    obtain rfl := Except.ok.inj h
    exact absurd hrow List.not_mem_nil
  | .error e :: data => exact absurd h (by simp [ofLines])
  | .ok typeLine :: data =>
    rw [ofLines, ofParts, hnames, ok_bind] at h
    obtain ⟨types, -, h⟩ := bind_eq_ok h
    obtain ⟨schema, -, h⟩ := bind_eq_ok h
    obtain ⟨decoder, hdecoder, h⟩ := bind_eq_ok h
    obtain rfl := Except.ok.inj h
    obtain ⟨line, hline⟩ := exists_decode_of_mem hrow
    exact isTyped_of_decode hdecoder hfilled hline

end RowStream

/-- The columns of the last answer fill all fields that records send values for. -/
def Client.GotColumns (client : Client) (transport : Transport) (s : Schema) : Prop :=
  ∃ response nameLine data names, client.lastAnswer? transport = some (.ok response) ∧
    response.body.lines = .ok nameLine :: data ∧ RowStream.readHeader nameLine = .ok names ∧
    s.IsFilledBy names

namespace Action

variable {transport : Transport} {client after : Client} {query : String} {given : Option Schema}
  {options : Options} {stream : RowStream}

/-- The rows of a query for all columns are typed. -/
theorem isTyped_of_select [Clocks] {row : Row}
    (hselect : (select query given options).run transport client = (.ok stream, after))
    (hcolumns : after.GotColumns transport stream.schema) (hrow : .ok row ∈ stream.items) :
    row.schema = stream.schema ∧ row.IsTyped := by
  obtain ⟨known, response, -, hanswer, hstream⟩ := select_eq_ok hselect
  obtain ⟨response', nameLine, data, names, hanswer', hlines, hnames, hfilled⟩ := hcolumns
  obtain rfl : response' = response :=
    Except.ok.inj (Option.some.inj (hanswer'.symm.trans hanswer))
  rw [hlines] at hstream
  exact RowStream.isTyped_of_mem_items hstream hnames hfilled hrow

/-- What is read from a field is a value of its type and can be written. So each row of a query for
all columns has a line in either format, with an entry for every field that records send values
for; and an insert of such rows into a table that may be written posts all of them, and fares as the
server answers. -/
theorem run_insertWith_selected [Clocks] :
    (∀ (t : ColumnType) (zone : Calendar.Zone) (field : String) (v : Value),
      t.decode zone field = .ok v → Inhabits t v ∧ ∃ text, t.encode v = .ok text) ∧
    ∀ {transport client after query given options stream},
      (select query given options).run transport client = (.ok stream, after) →
      after.GotColumns transport stream.schema →
      (∀ row, .ok row ∈ stream.items → row.schema = stream.schema ∧ ∀ format, ∃ entries,
        List.Forall₂ (fun p entry => LineFormat.entry format p.1 p.2 = .ok entry)
          (writtenPairs row.schema.fields row.values) entries ∧
        row.line format = .ok ("\t".intercalate entries ++ "\n")) ∧
      ∀ {first others size later known} (server : Transport) (options : Options),
        (∀ row ∈ first :: others, .ok row ∈ stream.items) → size ≠ 0 →
        (stream.schema.isReadOnly || stream.schema.isSystem) = false →
        later.connection.capabilities = some known →
        ∃ (lines : List String) (body : Body),
          List.Forall₂ (Row.Writes first.schema) (first :: others) lines ∧
          body.read = (Text.encodeUtf8
            (first.schema.sentHeader later.connection.config.database ++ String.join lines),
            none) ∧
          (insertWith (first :: others) size options).run server later
            = (server later.sent (request later.connection body options) >>= accepted >>=
                  fun response => response.body.drain.map fun _ => (),
                { later with
                  sent := later.sent ++ [request later.connection body options] }) := by
  refine ⟨fun t zone field v h => ?_, ?_⟩
  · have hinhabits := ColumnType.inhabits_of_decode h
    exact ⟨hinhabits, ColumnType.exists_encode_of_inhabits hinhabits⟩
  intro transport client after query given options stream hselect hcolumns
  refine ⟨fun row hrow => ?_, ?_⟩
  · obtain ⟨hschema, htyped⟩ := isTyped_of_select hselect hcolumns hrow
    exact ⟨hschema, htyped.exists_line⟩
  intro first others size later known server options hrows hsize hwritable hknown
  obtain ⟨hfirst, -⟩ := isTyped_of_select hselect hcolumns (hrows first List.mem_cons_self)
  obtain ⟨lines, hlines⟩ : ∃ lines,
      List.Forall₂ (Row.Writes first.schema) (first :: others) lines := by
    refine exists_forall₂ fun row hrow => ?_
    obtain ⟨hschema, htyped⟩ := isTyped_of_select hselect hcolumns (hrows row hrow)
    obtain ⟨entries, -, hline⟩ := htyped.exists_line first.schema.insertFormat
    exact ⟨_, by rw [hschema, hfirst], hline⟩
  obtain ⟨body, hread, hrun⟩ := run_insertWith_of_writes server later options hsize
    (hfirst ▸ hwritable) hknown hlines
  exact ⟨lines, body, hlines, hread, hrun⟩

/-- A row of two texts is read by a query and inserted again; so is a number. -/
theorem run_insertWith_selected_pairs :
    (Inhabits (.nullable (.int .w8)) (.int (-5)) ∧
      ∃ text, (ColumnType.nullable (.int .w8)).encode (.int (-5)) = .ok text) ∧
    ∃ (lines : List String) (body : Body),
      List.Forall₂ (Row.Writes pairTable) [pairRow "x" "\t"] lines ∧
      body.read = (Text.encodeUtf8 (pairTable.sentHeader "shop" ++ String.join lines), none) ∧
      (insertWith [pairRow "x" "\t"] 1 {}).run (pairServer []) pairAfter
        = (.ok (), { pairAfter with
            sent := pairAfter.sent ++ [request pairAfter.connection body {}] }) := by
  obtain ⟨hvalue, hinsert⟩ := run_insertWith_selected
  refine ⟨hvalue _ .utc "-5" _ rfl, ?_⟩
  have hlines : ∀ line ∈ ["x\t\\t"], '\n' ∉ line.toList ∧ '\r' ∉ line.toList := by decide
  have hcolumns : pairAfter.GotColumns (pairServer ["x\t\\t"]) pairTable := by
    have hfilled : pairTable.IsFilledBy ["a", "b"] := isFilledBy_of_nodup (by decide) (by decide)
    exact ⟨_, "a\tb", _, _, rfl, lines_pairs hlines, rfl, hfilled⟩
  obtain ⟨-, hrun⟩ := hinsert (run_select_pairs hlines) hcolumns
  have hrows : ∀ row ∈ [pairRow "x" "\t"],
      .ok row ∈ (pairStream ["x\t\\t"]).items := by
    rintro row hrow
    rw [List.mem_singleton.1 hrow]
    exact List.mem_singleton_self _
  have hknown : pairAfter.connection.capabilities = some .fallback := rfl
  obtain ⟨lines, body, hwrites, hread, hinserted⟩ :=
    hrun (pairServer []) {} hrows (by decide : 1 ≠ 0) rfl hknown
  refine ⟨lines, body, hwrites, hread, hinserted.trans ?_⟩
  obtain ⟨response, bytes, hanswer, hsuccess, hdrain⟩ :=
    pairServer_accepts pairAfter.sent (request pairAfter.connection body {})
  simp only [hanswer, ok_bind, accepted, if_pos hsuccess, hdrain, map_ok]

end Action

end Columnar
