import Columnar.Client.Select
import Columnar.Proofs.Client.Run
import Columnar.Proofs.Http.Lines

/-!
The rows of a query, line by line.

Behind the two lines of the header each line becomes one item, except that blank lines are passed
over, and not only the empty one in front of totals: a row whose values are all empty or blank texts
is written as a blank line and gives no item. So the items are those of the lines that are not blank
(`items_select`), and they are one for each line exactly if no blank line comes before the first one
that cannot be decoded.
-/

namespace Columnar

open Text (Bytes)

/-! ### Items of lines -/

/-- Whether the line is read as a row. -/
def LineDecoder.decodes [Clocks] (d : LineDecoder) (line : String) : Bool :=
  (d.decode line).toBool

/-- Whether the line has a character that is not blank. -/
def isFilled (line : String) : Bool :=
  !Text.isBlankText line

namespace RowStream

variable [Clocks]

theorem decodeLines_map_ok (d : LineDecoder) : ∀ lines : List String,
    decodeLines d (lines.map .ok) = Body.upToError ((lines.filter isFilled).map d.decode)
  | [] => rfl
  | line :: lines => by
    rw [List.map_cons, decodeLines, List.filter_cons, isFilled]
    cases Text.isBlankText line with
    | true => exact decodeLines_map_ok d lines
    | false =>
      rw [Bool.not_false, if_pos rfl, if_neg Bool.false_ne_true, List.map_cons,
        decodeLines_map_ok d lines]
      cases d.decode line <;> rfl

/-- Passing over lines makes the items no more, if the first line that fails is not passed over. -/
theorem length_upToError_filter_le {d : LineDecoder} : ∀ {lines : List String},
    (∀ line, lines.find? (!d.decodes ·) = some line → isFilled line = true) →
    (Body.upToError ((lines.filter isFilled).map d.decode)).length
      ≤ (Body.upToError (lines.map d.decode)).length
  | [], _ => Nat.le_refl _
  | line :: lines, h => by
    rw [List.find?_cons, LineDecoder.decodes] at h
    cases hd : d.decode line with
    | error e =>
      rw [hd] at h
      rw [List.filter_cons, if_pos (h line rfl), List.map_cons, List.map_cons, hd]
      exact Nat.le_refl _
    | ok row =>
      rw [hd] at h
      have ih := length_upToError_filter_le h
      rw [List.filter_cons, List.map_cons, hd, Body.upToError, List.length_cons]
      split
      · rw [List.map_cons, hd, Body.upToError, List.length_cons]
        omega
      · omega

/-- Passing over lines changes the items exactly if a line that gives a row is passed over. -/
theorem upToError_filter_eq_iff {d : LineDecoder} : ∀ {lines : List String},
    (∀ line, lines.find? (!d.decodes ·) = some line → isFilled line = true) →
    (Body.upToError ((lines.filter isFilled).map d.decode) = Body.upToError (lines.map d.decode) ↔
      ∀ line ∈ lines.takeWhile d.decodes, isFilled line = true)
  | [], _ => by simp
  | line :: lines, h => by
    rw [List.find?_cons, LineDecoder.decodes] at h
    cases hd : d.decode line with
    | error e =>
      rw [hd] at h
      have hstop : d.decodes line = false := by rw [LineDecoder.decodes, hd]; rfl
      rw [List.filter_cons, if_pos (h line rfl), List.map_cons, List.map_cons, hd,
        List.takeWhile_cons, hstop]
      simp [Body.upToError]
    | ok row =>
      rw [hd] at h
      have hgo : d.decodes line = true := by rw [LineDecoder.decodes, hd]; rfl
      rw [List.filter_cons, List.map_cons, hd, List.takeWhile_cons, hgo, if_pos rfl,
        List.forall_mem_cons, Body.upToError]
      cases hf : isFilled line with
      | true =>
        rw [if_pos rfl, List.map_cons, hd, Body.upToError, List.cons.injEq, and_iff_right rfl,
          upToError_filter_eq_iff h, and_iff_right rfl]
      | false =>
        rw [if_neg Bool.false_ne_true]
        refine ⟨fun heq => ?_, fun hall => absurd hall.1 Bool.false_ne_true⟩
        have hle := length_upToError_filter_le h
        rw [heq, List.length_cons] at hle
        omega

/-! ### Header and lines -/

/-- A stream behind a header has been given its decoder by the header. -/
theorem items_of_ofLines {given : Option Schema} {zone : Calendar.Zone} {nameLine typeLine : String}
    {lines : List String} {stream : RowStream}
    (h : ofLines given zone (.ok nameLine :: .ok typeLine :: lines.map .ok) = .ok stream) :
    ∃ names decoder, readHeader nameLine = .ok names ∧
      LineDecoder.ofNames stream.schema names zone = .ok decoder ∧
      stream.items = Body.upToError ((lines.filter isFilled).map decoder.decode) := by
  rw [ofLines, ofParts] at h
  obtain ⟨names, hnames, h⟩ := bind_eq_ok h
  obtain ⟨types, -, h⟩ := bind_eq_ok h
  obtain ⟨schema, -, h⟩ := bind_eq_ok h
  obtain ⟨decoder, hdecoder, h⟩ := bind_eq_ok h
  obtain rfl := Except.ok.inj h
  exact ⟨names, decoder, hnames, hdecoder, decodeLines_map_ok decoder lines⟩

/-- The header of a stream is text. -/
theorem header_of_ofLines {given : Option Schema} {zone : Calendar.Zone} {body : Body}
    {header nameBytes typeBytes : Bytes} {text : String} {stream : RowStream}
    (hheader : Text.cutLines 0x0A 0x0D header = ([nameBytes, typeBytes], []))
    (hbody : body.read = (header ++ Text.encodeUtf8 text, none))
    (h : ofLines given zone body.lines = .ok stream) :
    ∃ nameLine typeLine, Text.decodeUtf8? nameBytes = some nameLine ∧
      Text.decodeUtf8? typeBytes = some typeLine ∧
      body.lines = .ok nameLine :: .ok typeLine :: (Text.lines text).map .ok := by
  have hlines : body.lines = Body.upToError (Body.lineText [0x0A] nameBytes ::
      Body.lineText [0x0A] typeBytes :: (Text.lines text).map .ok) := by
    rw [Body.lines_eq, hbody, Body.wholeLines_append_text hheader]
    rfl
  rw [hlines] at h ⊢
  cases hname : Text.decodeUtf8? nameBytes with
  | none =>
    rw [Body.lineText, hname, orFail_none, Body.upToError] at h
    exact absurd h (by simp [ofLines])
  | some nameLine =>
    cases htype : Text.decodeUtf8? typeBytes with
    | none =>
      rw [Body.lineText, hname, orFail_some, Body.lineText, htype, orFail_none, Body.upToError,
        Body.upToError] at h
      exact absurd h (by simp [ofLines])
    | some typeLine =>
      refine ⟨nameLine, typeLine, rfl, rfl, ?_⟩
      rw [Body.lineText, hname, Body.lineText, htype]
      simp only [orFail_some, Body.upToError, Body.upToError_map_ok]

end RowStream

/-! ### Queries -/

/-- The transport's answer to the last request that the client has sent. -/
def Client.lastAnswer? (client : Client) (transport : Transport) : Option (Result Response) :=
  client.sent.getLast?.map (transport client.sent.dropLast)

namespace Action

variable {transport : Transport} {client after : Client}

/-- What the server can do is known from then on. -/
theorem capabilities_known {server : Capabilities}
    (h : capabilities.run transport client = (.ok server, after)) :
    after.connection.capabilities = some server := by
  rw [capabilities, run_bind_ok run_connection] at h
  cases hknown : client.connection.capabilities with
  | some known =>
    simp only [hknown, run_pure, Prod.mk.injEq, Except.ok.injEq] at h
    rw [← h.2, ← h.1, hknown]
  | none =>
    rw [hknown] at h
    obtain ⟨found, probed, -, h⟩ := run_bind_eq_ok h
    simp only [run_bind_ok (run_changeConnection _), run_pure, Prod.mk.injEq,
      Except.ok.injEq] at h
    rw [← h.2, ← h.1]

/-- A known server is not asked again. -/
theorem run_capabilities {server : Capabilities}
    (h : client.connection.capabilities = some server) :
    capabilities.run transport client = (.ok server, client) := by
  rw [capabilities, run_bind_ok run_connection, h]
  rfl

/-- A query that succeeds reads the lines of the response to its last request. -/
theorem select_eq_ok [Clocks] {query : String} {schema : Option Schema} {options : Options}
    {stream : RowStream}
    (h : (select query schema options).run transport client = (.ok stream, after)) :
    ∃ server response, after.connection.capabilities = some server ∧
      after.lastAnswer? transport = some (.ok response) ∧
      RowStream.ofLines schema server.zone response.body.lines = .ok stream := by
  rw [select, run_bind_ok run_connection] at h
  obtain ⟨server, known, hserver, h⟩ := run_bind_eq_ok h
  obtain ⟨response, sent, hdispatch, h⟩ := run_bind_eq_ok h
  obtain ⟨hstream, rfl⟩ := ofResult_eq_ok h
  obtain ⟨hanswer, -, rfl⟩ := dispatch_eq_ok hdispatch
  have hknown := capabilities_known hserver
  refine ⟨server, response, hknown, ?_, hstream⟩
  simp only [Client.lastAnswer?, List.getLast?_concat, List.dropLast_concat, Option.map_some,
    hanswer]

/-- The request of a query. -/
def selectRequest (c : Connection) (query : String) (schema : Option Schema) (options : Options) :
    Request :=
  request c (.ofText (c.fill schema (query ++ " FORMAT TabSeparatedWithNamesAndTypes"))) options

/-- A query on a known server is one request; the rows are read from the response to it. -/
theorem run_select [Clocks] {server : Capabilities}
    (hknown : client.connection.capabilities = some server) (query : String)
    (schema : Option Schema) (options : Options) :
    (select query schema options).run transport client =
      (transport client.sent (selectRequest client.connection query schema options) >>= accepted >>=
          fun response => RowStream.ofLines schema server.zone response.body.lines,
        { client with
          sent := client.sent ++ [selectRequest client.connection query schema options] }) := by
  rw [select, run_bind_ok run_connection, run_bind_ok (run_capabilities hknown), run_bind,
    run_dispatch, ← selectRequest]
  cases transport client.sent (selectRequest client.connection query schema options) >>= accepted
    with
  | error e => rfl
  | ok response => simp only [run_ofResult, ok_bind]

/-- The items of a query are those of the lines that are not blank, up to the first error. Unless
the first line that fails is blank, they are one for each line exactly if no line before it is. -/
theorem items_select [Clocks] {query : String} {schema : Option Schema} {options : Options}
    {stream : RowStream} {response : Response} {header nameBytes typeBytes : Bytes}
    {lines : List String}
    (hrun : (select query schema options).run transport client = (.ok stream, after))
    (hanswer : after.lastAnswer? transport = some (.ok response))
    (hheader : Text.cutLines 0x0A 0x0D header = ([nameBytes, typeBytes], []))
    (hbody : response.body.read = (header ++ Text.encodeUtf8 (Text.terminated lines), none))
    (hlines : ∀ line ∈ lines, '\n' ∉ line.toList ∧ '\r' ∉ line.toList) :
    ∃ nameLine names server decoder, Text.decodeUtf8? nameBytes = some nameLine ∧
      RowStream.readHeader nameLine = .ok names ∧ after.connection.capabilities = some server ∧
      LineDecoder.ofNames stream.schema names server.zone = .ok decoder ∧
      stream.items = Body.upToError ((lines.filter isFilled).map decoder.decode) ∧
      ((∀ line, lines.find? (!decoder.decodes ·) = some line → isFilled line = true) →
        (stream.items = Body.upToError (lines.map decoder.decode) ↔
          ∀ line ∈ lines.takeWhile decoder.decodes, isFilled line = true)) := by
  obtain ⟨server, response', hserver, hanswer', hstream⟩ := select_eq_ok hrun
  obtain rfl : response = response' := by
    rw [hanswer] at hanswer'
    exact Except.ok.inj (Option.some.inj hanswer')
  obtain ⟨nameLine, typeLine, hname, -, hall⟩ := RowStream.header_of_ofLines hheader hbody hstream
  rw [hall, Text.lines_terminated hlines] at hstream
  obtain ⟨names, decoder, hnames, hdecoder, hitems⟩ := RowStream.items_of_ofLines hstream
  refine ⟨nameLine, names, server, decoder, hname, hnames, hserver, hdecoder, hitems, ?_⟩
  rw [hitems]
  exact RowStream.upToError_filter_eq_iff

/-- A table of two texts. -/
def pairTable : Schema where
  table := "pairs"
  fields := [{ name := "a", type := .string }, { name := "b", type := .string }]

/-- A row of the table. -/
def pairRow (a b : String) : Row :=
  ⟨pairTable, [.text a, .text b]⟩

/-- A client that knows its server. -/
def shopClient : Client where
  connection := { config := { database := "shop" }, capabilities := some .fallback }

/-- A server that answers every request with nothing. -/
def silentServer : Transport where
  answer _ _ := .ok ⟨200, []⟩

/-- A server that answers every request with the number one. -/
def onesServer : Transport where
  answer _ _ := .ok ⟨200, .ofText "1\n"⟩

/-- The header of the answers. -/
def pairHeader : List String := ["a\tb", "String\tString"]

/-- A server that answers every request with the header and the given lines. -/
def pairServer (lines : List String) : Transport where
  answer _ _ := .ok ⟨200, .ofText (Text.terminated (pairHeader ++ lines))⟩

/-- The rows that the client gets for a query. -/
def pairStream [Clocks] (lines : List String) : RowStream :=
  ⟨pairTable, Body.upToError ((lines.filter isFilled).map
    (LineDecoder.decode ⟨pairTable, [0, 1], .utc⟩))⟩

/-- The client after a query. -/
def pairAfter : Client :=
  { shopClient with
    sent := [selectRequest shopClient.connection "SELECT a, b FROM $table" (some pairTable) {}] }

theorem lines_pairs {lines : List String}
    (hlines : ∀ line ∈ lines, '\n' ∉ line.toList ∧ '\r' ∉ line.toList) :
    (Body.ofText (Text.terminated (pairHeader ++ lines))).lines
      = .ok "a\tb" :: .ok "String\tString" :: lines.map .ok := by
  have hall : ∀ line ∈ pairHeader ++ lines, '\n' ∉ line.toList ∧ '\r' ∉ line.toList := by
    rw [List.forall_mem_append]
    exact ⟨by decide, hlines⟩
  exact Body.lines_terminated hall

theorem run_select_pairs [Clocks] {lines : List String}
    (hlines : ∀ line ∈ lines, '\n' ∉ line.toList ∧ '\r' ∉ line.toList) :
    (select "SELECT a, b FROM $table" (some pairTable) {}).run (pairServer lines) shopClient
      = (.ok (pairStream lines), pairAfter) := by
  have hknown : shopClient.connection.capabilities = some .fallback := rfl
  rw [run_select hknown]
  refine Prod.ext ?_ rfl
  change RowStream.ofLines (some pairTable) .utc
    (Body.ofText (Text.terminated (pairHeader ++ lines))).lines = _
  rw [lines_pairs hlines, pairStream, ← RowStream.decodeLines_map_ok]
  rfl

theorem items_select_pairs :
    ∃ decoder : LineDecoder, (pairStream ["\t", "x\ty"]).items
      = Body.upToError ((["\t", "x\ty"].filter isFilled).map decoder.decode) := by
  have hlines : ∀ line ∈ ["\t", "x\ty"], '\n' ∉ line.toList ∧ '\r' ∉ line.toList := by decide
  have hheader : Text.cutLines 0x0A 0x0D (Text.encodeUtf8 (Text.terminated pairHeader))
      = ([Text.encodeUtf8 "a\tb", Text.encodeUtf8 "String\tString"], []) := by
    rw [Text.encodeUtf8_eq_encodeChars, Text.cutLines_encodeChars]
    rfl
  obtain ⟨_, _, _, decoder, -, -, -, -, hitems, -⟩ := items_select (run_select_pairs hlines) rfl
    hheader (by simp [Text.terminated_append]) hlines
  exact ⟨decoder, hitems⟩

/-- A row of two empty texts is written as a tab, and a query does not give it. -/
theorem pair_of_empty_texts_lost :
    (select "SELECT a, b FROM $table" (some pairTable) {}).run (pairServer ["\t"]) shopClient
        = (.ok ⟨pairTable, []⟩, pairAfter) ∧
      LineDecoder.ofNames pairTable ["a", "b"] .utc = .ok ⟨pairTable, [0, 1], .utc⟩ ∧
      LineDecoder.decode ⟨pairTable, [0, 1], .utc⟩ "\t" = .ok ⟨pairTable, [.text "", .text ""]⟩ :=
  ⟨run_select_pairs (by decide), rfl, rfl⟩

end Action

end Columnar
