import Columnar.Migration.History
import Columnar.Proofs.Client.Composed
import Columnar.Proofs.Client.Header
import Columnar.Proofs.Client.Rows
import Columnar.Proofs.Literal
import Columnar.Proofs.Table.RoundTrip
import Mathlib.Data.List.Basic

/-!
The history of migrations as a server keeps it.

A server keeps pairs of a package and a migration. It reads the text of an insert as such pairs, and
it reads from the literal of a query the package that it compares with (`comparedName?`). That is
the package asked for exactly if no placeholder occurs in its name (`comparedName?_eq_some_iff`).
The client gets the names recorded for the package that is compared with, except those that are
written as blank lines (`run_appliedMigrations`).
-/

namespace Columnar

/-! ### The query -/

namespace HistoryQuery

/-- The query of the names recorded for a package, as the client sends it. -/
def statement (database package : String) : String :=
  Placeholder.fill database (some HistoryRecord.schema)
    ("SELECT module_name FROM $table WHERE package_name = " ++ Tsv.quote package
      ++ " FORMAT TabSeparatedWithNamesAndTypes")

/-- The query in front of the literal, up to the opening quote. -/
def front (database : String) : List Char :=
  ("SELECT module_name FROM " ++ HistoryRecord.schema.reference database
    ++ " WHERE package_name = '").toList

/-- The query behind the closing quote. -/
def back : List Char :=
  " FORMAT TabSeparatedWithNamesAndTypes".toList

/-- The package that a server compares with when it gets a query. -/
def comparedName? (database statement : String) : Option String := do
  let literal ← statement.toList.dropPrefix? (front database)
  let (package, rest) ← ColumnType.readQuoted? literal
  if rest = back then some (String.ofList package) else none

theorem toList_statement (database package : String) :
    (statement database package).toList = front database
      ++ Placeholder.fillChars database (some HistoryRecord.schema)
        (Tsv.escapeChars package.toList ++ '\'' :: back) := by
  have hfront : "SELECT module_name FROM $table WHERE package_name = ".toList ++ ['\'']
      = "SELECT module_name FROM ".toList
        ++ ("$table ".toList ++ "WHERE package_name = '".toList) := by decide
  have hquote : ∀ {a b c d : List Char} (name rest : List Char), a ++ ['\''] = b ++ (c ++ d) →
      a ++ '\'' :: (name ++ ['\'']) ++ rest = b ++ (c ++ (d ++ (name ++ '\'' :: rest))) := by
    intro a b c d name rest h
    rw [← List.singleton_append, ← List.append_assoc, h]
    simp
  have hsplit : ("SELECT module_name FROM $table WHERE package_name = " ++ Tsv.quote package
      ++ " FORMAT TabSeparatedWithNamesAndTypes").toList
        = "SELECT module_name FROM ".toList ++ ("$table ".toList
          ++ ("WHERE package_name = '".toList
            ++ (Tsv.escapeChars package.toList ++ '\'' :: back))) := by
    rw [String.toList_append, String.toList_append, Tsv.toList_quote]
    exact hquote _ _ hfront
  rw [statement, Placeholder.fill, String.toList_ofList, hsplit,
    Placeholder.fillChars_append (by decide), Placeholder.fillChars_table,
    Placeholder.fillChars_cons (by decide), Placeholder.fillChars_append (by decide)]
  simp [front]

theorem dropPrefix?_statement (database package : String) :
    (statement database package).toList.dropPrefix? (front database)
      = some (Placeholder.fillChars database (some HistoryRecord.schema)
          (Tsv.escapeChars package.toList ++ '\'' :: back)) := by
  rw [toList_statement]
  exact List.dropPrefix?_append_of_beq _ (by simp)

/-- The server compares with the package asked for exactly if no placeholder occurs in its name. -/
theorem comparedName?_eq_some_iff (database package : String) :
    comparedName? database (statement database package) = some package
      ↔ Placeholder.occurs package.toList = false := by
  rw [comparedName?, dropPrefix?_statement]
  constructor
  · intro h
    rw [Option.bind_eq_bind, Option.bind_some] at h
    obtain ⟨⟨name, rest⟩, hread, h⟩ := Option.bind_eq_some_iff.1 h
    have hname : name = package.toList := by
      dsimp only at h
      split at h
      · rw [← Option.some.inj h, String.toList_ofList]
      · exact absurd h (by simp)
    have hfilled : Placeholder.readFilled? database HistoryRecord.schema package.toList back
        = some package.toList := by
      rw [Placeholder.readFilled?, hread, hname]
      rfl
    exact (Placeholder.readFilled?_eq_some_iff package.toList).1 hfilled
  · intro h
    have hback : Placeholder.occurs back = false := by decide
    have hliteral :
        Placeholder.occurs (Tsv.escapeChars package.toList ++ '\'' :: back) = false := by
      rw [Placeholder.occurs_escapeChars, h, hback, Bool.or_false]
    rw [Placeholder.fillChars_of_occurs hliteral]
    simp [Placeholder.readQuoted?_escapeChars]

end HistoryQuery

/-! ### Inserts -/

namespace HistoryRecord

/-- The text of an insert in front of its lines. -/
def insertFront (database : String) : String :=
  "INSERT INTO " ++ schema.reference database
    ++ " (`package_name`,`module_name`,`applied`) FORMAT TabSeparated\n"

/-- The package and the migration in a line of an insert. -/
def pairOfLine? (line : String) : Option (String × String) :=
  match Tsv.readLine line with
  | .ok [package, name, _] => some (package, name)
  | _ => none

/-- The pairs that a request inserts into the history of a database. -/
def insertedPairs (database : String) (request : Request) : List (String × String) :=
  match (Text.decodeUtf8? request.body.read.1).bind fun text =>
      text.toList.dropPrefix? (insertFront database).toList with
  | some lines => (Text.lines (String.ofList lines)).filterMap pairOfLine?
  | none => []

theorem fill_insertHeader (database : String) :
    Placeholder.fill database (some schema) schema.insertHeader = insertFront database := by
  have hcolumns : (columnList schema.writableNames).toList ++ schema.headerEnd
      = "`package_name`,`module_name`,`applied`) FORMAT TabSeparated\n".toList := by decide
  have hplain : schema.sentHeader database = schema.plainHeader database :=
    (sentHeader_eq_iff schema).2 (by decide)
  rw [← Schema.sentHeader, hplain, ← String.toList_inj, toList_plainHeader, hcolumns]
  simp [insertFront]

/-- The texts of a record, in the order of the columns. -/
def texts (r : HistoryRecord) : List String :=
  [r.package, r.migration, r.applied.text]

/-- The line of a record in front of its newline. -/
def line (r : HistoryRecord) : String :=
  "\t".intercalate (r.texts.map Tsv.escape)

theorem line_row (r : HistoryRecord) : r.row.line schema.insertFormat = .ok (r.line ++ "\n") := by
  have htext : ∀ s, ColumnType.WritesField .utc .string (.text s) (Tsv.escape s) := fun s =>
    ColumnType.writesField_of_encode (by simp [ColumnType.Fits]) rfl
  have hdate : ColumnType.WritesField .utc .date (.date r.applied) (Tsv.escape r.applied.text) :=
    ColumnType.writesField_of_encode (by simp [ColumnType.Fits]) rfl
  have htexts : List.Forall₂ (fun p text => ColumnType.WritesField .utc p.1.type p.2 text)
      (writtenPairs schema.fields r.row.values) (r.texts.map Tsv.escape) :=
    .cons (htext r.package) (.cons (htext r.migration) (.cons hdate .nil))
  exact encodeLine_tabSeparated (s := schema) rfl htexts

theorem pairOfLine?_line (r : HistoryRecord) :
    pairOfLine? r.line = some (r.package, r.migration) := by
  rw [pairOfLine?, line, Tsv.readLine_intercalate_escape (by simp [texts])]
  rfl

/-- The only newline of the line is the one that ends it. -/
theorem lines_line (r : HistoryRecord) : Text.lines (r.line ++ "\n") = [r.line] := by
  have hterminated : r.line ++ "\n" = Text.terminated [r.line] := by
    rw [← String.toList_inj, Text.toList_terminated_cons, String.toList_append]
    rfl
  have hline : ∀ c ∈ r.line.toList, c = '\t' ∨ Tsv.isControl c = false := by
    intro c hc
    rcases Tsv.mem_toList_intercalate hc with hc | ⟨f, hf, hc⟩
    · exact .inl (by simpa using hc)
    · obtain ⟨s, -, rfl⟩ := List.mem_map.1 hf
      rw [Tsv.toList_escape] at hc
      exact .inr (Tsv.isControl_of_mem_escapeChars hc)
  rw [hterminated, Text.lines_terminated]
  simp only [List.mem_singleton, forall_eq]
  exact ⟨fun h => absurd (hline _ h) (by decide), fun h => absurd (hline _ h) (by decide)⟩

/-- A request with the line of a record inserts the pair of the record. -/
theorem insertedPairs_line {database : String} {request : Request} {r : HistoryRecord}
    (h : request.body = .ofText (insertFront database ++ (r.line ++ "\n"))) :
    insertedPairs database request = [(r.package, r.migration)] := by
  have hread : request.body.read.1
      = Text.encodeUtf8 (insertFront database ++ (r.line ++ "\n")) := by
    rw [h, Body.read_ofText]
  have hdrop : (insertFront database ++ (r.line ++ "\n")).toList.dropPrefix?
      (insertFront database).toList = some (r.line ++ "\n").toList := by
    rw [String.toList_append]
    exact List.dropPrefix?_append_of_beq _ (by simp)
  rw [insertedPairs, hread, Text.decodeUtf8?_encodeUtf8, Option.bind_some, hdrop]
  simp only [String.ofList_toList, lines_line, List.filterMap_cons, pairOfLine?_line,
    List.filterMap_nil]

end HistoryRecord

/-! ### Servers -/

/-- A server that keeps the history of a database. It stores what is inserted, and a query gets one
escaped line for each pair with the package that its literal names. -/
structure HistoryServer (database : String) (transport : Transport) where
  /-- The pairs that are recorded after some requests. -/
  content : List Request → List (String × String)
  stores : ∀ {sent : List Request} {r : Request} {response : Response},
    transport sent r = .ok response → response.isSuccess = true →
    HistoryRecord.insertedPairs database r ⊆ content (sent ++ [r])
  answers : ∀ {sent : List Request} {params : Settings} {statement package : String}
    {response : Response}, HistoryQuery.comparedName? database statement = some package →
    transport sent ⟨params, .ofText statement⟩ = .ok response → response.isSuccess = true →
    ∃ names : List String,
      names.Perm (((content sent).filter fun pair => pair.1 = package).map Prod.snd) ∧
      response.body.read = (Text.encodeUtf8 (Text.terminated
        ("module_name" :: "String" :: names.map Tsv.escape)), none)

variable {database : String} {transport : Transport} {client created after : Client}

/-- The names that are recorded for a package after some requests. -/
def HistoryServer.names (server : HistoryServer database transport) (sent : List Request)
    (package : String) : List String :=
  ((server.content sent).filter fun pair => pair.1 = package).map Prod.snd

@[simp] theorem HistoryServer.mem_names {server : HistoryServer database transport}
    {sent : List Request} {package name : String} :
    name ∈ server.names sent package ↔ (package, name) ∈ server.content sent := by
  simp [HistoryServer.names]

/-- The request for the names recorded for a package. -/
def HistoryQuery.request (c : Connection) (package : String) : Request :=
  Action.request c (.ofText (statement c.config.database package)) {}

theorem HistoryQuery.request_eq {c : Connection} (h : c.config.database = database)
    (package : String) :
    request c package = ⟨c.params {}, .ofText (statement database package)⟩ := by
  rw [request, Action.request, h]

/-! ### Reading names -/

/-- The decoder of an answer. -/
def HistoryQuery.decoder (zone : Calendar.Zone) : LineDecoder :=
  ⟨HistoryRecord.schema, [1], zone⟩

/-- The row of a name. -/
def HistoryQuery.row (name : String) : Row :=
  ⟨HistoryRecord.schema, [.text "", .text name, .date .epoch]⟩

theorem HistoryQuery.decode_escape [Clocks] (zone : Calendar.Zone) (name : String) :
    (decoder zone).decode (Tsv.escape name) = .ok (row name) := by
  have hsplit : Tsv.splitLine (Tsv.escape name) = [Tsv.escape name] :=
    Tsv.splitLine_eq_singleton
      (by rw [Tsv.toList_escape]; exact Tsv.tab_not_mem_escapeChars name.toList)
      (by rw [Tsv.toList_escape]; exact Tsv.newline_not_mem_escapeChars name.toList)
  have hvalue : ColumnType.string.decode zone (Tsv.escape name) = .ok (.text name) := by
    rw [ColumnType.decode_plain rfl, Tsv.unescape?_escape]
    rfl
  have hassign : (decoder zone).assign (Row.new HistoryRecord.schema) (1, Tsv.escape name)
      = .ok (row name) := by
    have hfield : (decoder zone).schema.fields[1]?
        = some { name := "module_name", type := .string } := rfl
    rw [LineDecoder.assign, hfield]
    simp only [decoder, hvalue, map_ok]
    rfl
  have hcolumns : (decoder zone).columns = [1] := rfl
  have hlength : [Tsv.escape name].length = [1].length := rfl
  have hschema : (decoder zone).schema = HistoryRecord.schema := rfl
  rw [LineDecoder.decode, hsplit, hcolumns, if_pos hlength, List.zip_cons_cons, List.foldlM_cons,
    hschema, hassign]
  rfl

theorem HistoryQuery.ofLines_answer [Clocks] (zone : Calendar.Zone) (names : List String) :
    RowStream.ofLines (some HistoryRecord.schema) zone
        (("module_name" :: "String" :: names.map Tsv.escape).map .ok)
      = .ok ⟨HistoryRecord.schema,
          ((names.filter fun name => isFilled (Tsv.escape name)).map row).map .ok⟩ := by
  have hdecoder : LineDecoder.ofNames HistoryRecord.schema ["module_name"] zone
      = .ok (decoder zone) := rfl
  have hdecode : (decoder zone).decode ∘ Tsv.escape = Except.ok ∘ row := by
    funext name
    rw [Function.comp_apply, Function.comp_apply, decode_escape]
  have hitems : RowStream.decodeLines (decoder zone) ((names.map Tsv.escape).map .ok)
      = ((names.filter fun name => isFilled (Tsv.escape name)).map row).map .ok := by
    rw [RowStream.decodeLines_map_ok, List.filter_map, List.map_map, hdecode, ← List.map_map,
      Body.upToError_map_ok]
    rfl
  have hnames : RowStream.readHeader "module_name" = .ok ["module_name"] := rfl
  have htypes : RowStream.readHeader "String" = .ok ["String"] := rfl
  rw [List.map_cons, List.map_cons, RowStream.ofLines, RowStream.ofParts, hnames, htypes]
  simp only [ok_bind, Option.elim_some, pure_bind, hdecoder, hitems]
  rfl

theorem HistoryQuery.lines_answer {body : Body} {names : List String}
    (h : body.read = (Text.encodeUtf8 (Text.terminated
      ("module_name" :: "String" :: names.map Tsv.escape)), none)) :
    body.lines = ("module_name" :: "String" :: names.map Tsv.escape).map .ok := by
  rw [Body.lines_of_text h, Text.lines_terminated]
  simp only [List.forall_mem_cons, List.forall_mem_map, Tsv.toList_escape]
  exact ⟨by decide, by decide, fun name _ => ⟨Tsv.newline_not_mem_escapeChars name.toList,
    Tsv.carriageReturn_not_mem_escapeChars name.toList⟩⟩

theorem HistoryQuery.mapM_migration (names : List String) :
    (((names.map row).map Except.ok).map (· >>= HistoryRecord.ofRow)).mapM
      (fun record : Result HistoryRecord => record.map (·.migration)) = .ok names := by
  rw [mapM_eq_ok_iff, List.forall₂_map_left_iff, List.forall₂_map_left_iff,
    List.forall₂_map_left_iff, List.forall₂_same]
  exact fun name _ => rfl

namespace Action

theorem createTable_known {schema : Schema}
    (h : (createTable schema).run transport client = (.ok (), created)) :
    ∃ known, created.connection.capabilities = some known := by
  obtain ⟨_, checked, hcheck, h⟩ := run_bind_eq_ok h
  obtain ⟨-, rfl⟩ := ofResult_eq_ok hcheck
  obtain ⟨known, probed, hprobe, h⟩ := run_bind_eq_ok h
  rw [run_bind_ok run_connection] at h
  obtain ⟨statement, written, hstatement, h⟩ := run_bind_eq_ok h
  obtain ⟨-, rfl⟩ := ofResult_eq_ok hstatement
  obtain ⟨reply, sent, hdispatch, h⟩ := run_bind_eq_ok h
  rw [run_dispatchText] at hdispatch
  obtain ⟨-, rfl⟩ := Prod.ext_iff.1 hdispatch
  obtain ⟨-, rfl⟩ := Prod.ext_iff.1 h
  have hknown := capabilities_known hprobe
  exact ⟨known, hknown⟩

/-- The query of the names recorded for a package. -/
theorem run_select_history [Clocks] {known : Capabilities} (transport : Transport)
    (package : String) (hknown : created.connection.capabilities = some known) :
    (select ("SELECT module_name FROM $table WHERE package_name = " ++ Tsv.quote package)
        (some HistoryRecord.schema) {}).run transport created
      = (transport created.sent (HistoryQuery.request created.connection package) >>= accepted >>=
          fun response =>
            RowStream.ofLines (some HistoryRecord.schema) known.zone response.body.lines,
        { created with
          sent := created.sent ++ [HistoryQuery.request created.connection package] }) :=
  run_select hknown _ _ _

/-- The names of a stream of records, each once and in order. -/
theorem run_appliedMigrations_of_select [Clocks] {package : String} {stream : RowStream}
    {names : List String}
    (hcreate : (createTable HistoryRecord.schema).run transport client = (.ok (), created))
    (hselect : (select ("SELECT module_name FROM $table WHERE package_name = "
        ++ Tsv.quote package) (some HistoryRecord.schema) {}).run transport created
      = (.ok stream, after))
    (hnames : (stream.items.map (· >>= HistoryRecord.ofRow)).mapM
      (fun record => record.map (·.migration)) = .ok names) :
    (appliedMigrations package).run transport client
      = (.ok (names.eraseDups.mergeSort fun a b => a ≤ b), after) := by
  rw [appliedMigrations, run_bind_ok hcreate, selectHistory, bind_assoc, run_bind_ok hselect,
    pure_bind, hnames]
  rfl

/-- Where the table is there and the server answers the query, the names of the package that the
server compares with are read, except those that are written as blank lines. -/
theorem run_appliedMigrations [Clocks] (server : HistoryServer database transport)
    {package compared : String} {response : Response}
    (hdatabase : client.connection.config.database = database)
    (hcreate : (createTable HistoryRecord.schema).run transport client = (.ok (), created))
    (hcompared : HistoryQuery.comparedName? database (HistoryQuery.statement database package)
      = some compared)
    (hanswer : transport created.sent (HistoryQuery.request created.connection package)
      = .ok response)
    (hsuccess : response.isSuccess = true) :
    ∃ applied, (appliedMigrations package).run transport client
        = (.ok applied, { created with
            sent := created.sent ++ [HistoryQuery.request created.connection package] }) ∧
      ∀ name, name ∈ applied ↔
        name ∈ server.names created.sent compared ∧ isFilled (Tsv.escape name) = true := by
  obtain ⟨known, hknown⟩ := createTable_known hcreate
  obtain ⟨-, hconfig⟩ := Composed.keeps
    (fun _ => composed_createTable HistoryRecord.schema) transport client
  rw [hcreate] at hconfig
  have hrequest := HistoryQuery.request_eq ((congrArg Config.database hconfig).trans hdatabase)
  obtain ⟨names, hperm, hread⟩ := server.answers hcompared (hrequest package ▸ hanswer) hsuccess
  have hselect := run_select_history transport package hknown
  rw [hanswer, ok_bind, accepted, if_pos hsuccess, ok_bind, HistoryQuery.lines_answer hread,
    HistoryQuery.ofLines_answer] at hselect
  have hnames := HistoryQuery.mapM_migration (names.filter fun name => isFilled (Tsv.escape name))
  have hrun := run_appliedMigrations_of_select hcreate hselect hnames
  refine ⟨_, hrun, ?_⟩
  intro name
  rw [List.mem_mergeSort, List.mem_eraseDups, List.mem_filter, hperm.mem_iff, HistoryServer.names]

/-- Names that have been read come from an answer to the query behind the creation of the table. -/
theorem appliedMigrations_eq_ok [Clocks] {package : String} {applied : List String}
    (h : (appliedMigrations package).run transport client = (.ok applied, after)) :
    ∃ created response,
      (createTable HistoryRecord.schema).run transport client = (.ok (), created) ∧
      transport created.sent (HistoryQuery.request created.connection package) = .ok response ∧
      response.isSuccess = true ∧ after = { created with
        sent := created.sent ++ [HistoryQuery.request created.connection package] } := by
  obtain ⟨_, created, hcreate, h⟩ := run_bind_eq_ok h
  obtain ⟨known, hknown⟩ := createTable_known hcreate
  obtain ⟨records, queried, hquery, h⟩ := run_bind_eq_ok h
  obtain ⟨names, collected, hnames, h⟩ := run_bind_eq_ok h
  obtain ⟨-, rfl⟩ := ofResult_eq_ok hnames
  obtain ⟨-, rfl⟩ := Prod.ext_iff.1 h
  obtain ⟨stream, sent, hselect, hquery⟩ := run_bind_eq_ok hquery
  obtain ⟨-, rfl⟩ := Prod.ext_iff.1 hquery
  rw [run_select_history transport package hknown] at hselect
  obtain ⟨hstream, rfl⟩ := Prod.ext_iff.1 hselect
  obtain ⟨response, haccepted, -⟩ := bind_eq_ok hstream
  obtain ⟨answer, hanswer, haccepted⟩ := bind_eq_ok haccepted
  obtain ⟨rfl, hsuccess⟩ := accepted_eq_ok haccepted
  exact ⟨created, answer, hcreate, hanswer, hsuccess, rfl⟩

/-- A record is inserted where the server is known and answers with success. -/
theorem run_insertHistory {r : HistoryRecord} {known : Capabilities} {response : Response}
    {bytes : Text.Bytes} (hknown : client.connection.capabilities = some known)
    (hanswer : transport client.sent (insertRequest client.connection r.row (r.line ++ "\n") {})
      = .ok response)
    (hsuccess : response.isSuccess = true) (hdrain : response.body.drain = .ok bytes) :
    (insertHistory [r]).run transport client = (.ok (), { client with
      sent := client.sent ++ [insertRequest client.connection r.row (r.line ++ "\n") {}] }) :=
  have hsize : defaultBatchSize ≠ 0 := by decide
  run_insertWith_singleton hsize rfl r.line_row hknown hanswer hsuccess hdrain

/-- A record whose insert succeeds is in the history from then on. -/
theorem mem_names_of_insertHistory (server : HistoryServer database transport) {r : HistoryRecord}
    (hdatabase : client.connection.config.database = database)
    (h : (insertHistory [r]).run transport client = (.ok (), after)) :
    r.migration ∈ server.names after.sent r.package := by
  have hinsert : insertHistory [r] = insertWith [r.row] defaultBatchSize {} := rfl
  rw [hinsert] at h
  obtain ⟨known, request, response, -, hbody, hanswer, hsuccess, hsent⟩ :=
    insertWith_singleton_eq_ok r.line_row h
  have hpairs : HistoryRecord.insertedPairs database request = [(r.package, r.migration)] := by
    refine HistoryRecord.insertedPairs_line ?_
    rw [hbody, ← hdatabase, ← HistoryRecord.fill_insertHeader]
    rfl
  have hstored := server.stores hanswer hsuccess
  rw [hpairs] at hstored
  rw [HistoryServer.mem_names, hsent]
  exact hstored List.mem_cons_self

end Action

end Columnar
