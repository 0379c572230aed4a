import Columnar.Proofs.Client.Unsent
import Columnar.Proofs.ColumnType.Name
import Columnar.Proofs.Migration.Posted
import Columnar.Proofs.Tsv.Line

/-!
A live table as a schema, and altering the table to that schema.

A description is read twice: as the schema of the table, and as the live columns that the table is
altered from. Both readings give the same names and types, since the name of a type is read as the
type. But the schema leaves out the kinds of the defaults. So it takes each column for one that
records send values for, and altering the table to its own schema modifies exactly the columns that
have a default (`Action.alterTable_of_description`).
-/

namespace Columnar

/-- A field of a line, as it stands there: without tabs and line ends, and not cut off in the middle
of an escape. -/
structure IsFieldText (field : String) : Prop where
  noTab : '\t' ∉ field.toList
  noNewline : '\n' ∉ field.toList
  noReturn : '\r' ∉ field.toList
  isRead : (Tsv.unescape? field).isSome = true

/-- A column as a description has it. The text of its type is the name of a type that some text is
read as. -/
structure DescribedColumn where
  name : String
  type : ColumnType
  isRead : ∃ text, ColumnType.read text = .ok type
  defaultKind : String := ""
  /-- What stands behind the kind of the default. -/
  further : List String := []
  isFieldText : ∀ field ∈ further, IsFieldText field := by simp

namespace DescribedColumn

/-- The fields of the line of a column. -/
def fields (c : DescribedColumn) : List String :=
  Tsv.escape c.name :: Tsv.escape c.type.name :: Tsv.escape c.defaultKind :: c.further

/-- The line of a column. -/
def line (c : DescribedColumn) : String :=
  "\t".intercalate c.fields

/-- The description of some columns. -/
def reply (columns : List DescribedColumn) : String :=
  Text.terminated (columns.map line)

/-- The column as the client reads it. -/
def live (c : DescribedColumn) : LiveColumn :=
  ⟨c.name, c.type.name, c.defaultKind⟩

/-- The field with the name and the type of the column. -/
def field (c : DescribedColumn) : Field :=
  { name := c.name, type := c.type }

/-- The schema with a field for each column. -/
def schema (table : String) (columns : List DescribedColumn) : Schema :=
  { table, fields := columns.map field }

variable {table : String} {columns : List DescribedColumn}

/-! ### Reading the description -/

theorem isFieldText_escape (s : String) : IsFieldText (Tsv.escape s) where
  noTab := by rw [Tsv.toList_escape]; exact Tsv.tab_not_mem_escapeChars s.toList
  noNewline := by rw [Tsv.toList_escape]; exact Tsv.newline_not_mem_escapeChars s.toList
  noReturn := by rw [Tsv.toList_escape]; exact Tsv.carriageReturn_not_mem_escapeChars s.toList
  isRead := by rw [Tsv.unescape?_escape]; rfl

theorem isFieldText_of_mem {c : DescribedColumn} {field : String} (h : field ∈ c.fields) :
    IsFieldText field := by
  simp only [fields, List.mem_cons] at h
  rcases h with rfl | rfl | rfl | h
  · exact isFieldText_escape _
  · exact isFieldText_escape _
  · exact isFieldText_escape _
  · exact c.isFieldText field h

/-- Texts that are fields are unescaped one by one. -/
theorem exists_unescapeAll : ∀ {fields : List String}, (∀ f ∈ fields, IsFieldText f) →
    ∃ texts, Tsv.unescapeAll fields = .ok texts
  | [], _ => ⟨[], rfl⟩
  | f :: fields, h => by
    obtain ⟨text, htext⟩ := Option.isSome_iff_exists.1 (h f List.mem_cons_self).isRead
    obtain ⟨texts, htexts⟩ := exists_unescapeAll fun g hg => h g (List.mem_cons_of_mem f hg)
    refine ⟨text :: texts, ?_⟩
    rw [Tsv.unescapeAll, htext]
    simp only [htexts]
    rfl

theorem splitLine_line (c : DescribedColumn) : Tsv.splitLine c.line = c.fields :=
  Tsv.splitLine_intercalate (List.cons_ne_nil _ _) (fun _ hf => (isFieldText_of_mem hf).noTab)
    fun _ hf => (isFieldText_of_mem hf).noNewline

theorem not_mem_line (c : DescribedColumn) : '\n' ∉ c.line.toList ∧ '\r' ∉ c.line.toList := by
  constructor
  · intro h
    rcases Tsv.mem_toList_intercalate h with h | ⟨f, hf, h⟩
    · exact absurd h (by decide)
    · exact (isFieldText_of_mem hf).noNewline h
  · intro h
    rcases Tsv.mem_toList_intercalate h with h | ⟨f, hf, h⟩
    · exact absurd h (by decide)
    · exact (isFieldText_of_mem hf).noReturn h

theorem line_ne_empty (c : DescribedColumn) : c.line ≠ "" := by
  intro h
  have hsplit := c.splitLine_line
  rw [h] at hsplit
  have hlength := congrArg List.length hsplit
  exact absurd hlength (by simp [fields, Tsv.splitLine, Text.dropEnd])

theorem ofLine_line (c : DescribedColumn) : LiveColumn.ofLine c.line = .ok c.live := by
  obtain ⟨texts, htexts⟩ := exists_unescapeAll c.isFieldText
  have hread : Tsv.readLine c.line = .ok (c.name :: c.type.name :: c.defaultKind :: texts) := by
    rw [Tsv.readLine, splitLine_line, fields]
    simp only [Tsv.unescapeAll, Tsv.unescape?_escape, htexts, map_ok]
  rw [LiveColumn.ofLine, hread]
  rfl

/-- A description is read as its columns. -/
theorem ofText_reply (columns : List DescribedColumn) :
    LiveColumn.ofText (reply columns) = .ok (columns.map live) := by
  have hlines : Text.lines (reply columns) = columns.map line := by
    refine Text.lines_terminated fun line hline => ?_
    obtain ⟨c, -, rfl⟩ := List.mem_map.1 hline
    exact c.not_mem_line
  have hfilter : (columns.map line).filter (· != "") = columns.map line := by
    refine List.filter_eq_self.2 fun line hline => ?_
    obtain ⟨c, -, rfl⟩ := List.mem_map.1 hline
    exact bne_iff_ne.2 c.line_ne_empty
  rw [LiveColumn.ofText, hlines, hfilter, mapM_eq_ok_iff, List.forall₂_map_left_iff,
    List.forall₂_map_right_iff, List.forall₂_same]
  exact fun c _ => c.ofLine_line

theorem fieldsOfColumns_live : ∀ columns : List DescribedColumn,
    Schema.fieldsOfColumns ((columns.map live).map fun c => (c.name, c.type))
      = .ok (columns.map field)
  | [] => rfl
  | c :: columns => by
    obtain ⟨text, htext⟩ := c.isRead
    have hread : ColumnType.read c.type.name = .ok c.type :=
      ColumnType.read_name (ColumnType.isReadable_of_read htext)
    rw [List.map_cons, List.map_cons, Schema.fieldsOfColumns, live, hread,
      fieldsOfColumns_live columns]
    rfl

/-- The schema that a description gives. -/
theorem ofDescription_reply (table : String) (columns : List DescribedColumn) :
    Schema.ofDescription table (reply columns) = .ok (schema table columns) := by
  rw [Schema.ofDescription, ofText_reply, ok_bind, Schema.ofColumns, fieldsOfColumns_live]
  rfl

/-- Records send values for all columns. -/
theorem isWritable_of_mem {f : Field} (h : f ∈ (schema table columns).fields) :
    f.isWritable = true := by
  obtain ⟨c, -, rfl⟩ := List.mem_map.1 h
  rfl

/-! ### Altering the table -/

/-- The columns with a default. -/
def withDefault (columns : List DescribedColumn) : List DescribedColumn :=
  columns.filter fun c => c.defaultKind ≠ ""

theorem agrees_field {server : Capabilities} (hserver : server.lowCardinality = true)
    (c : DescribedColumn) :
    Alteration.agrees server c.field c.live = decide (c.defaultKind = "") := by
  have htype : c.live.type = c.field.type.render server.lowCardinality := by
    rw [hserver]
    rfl
  rw [Alteration.agrees, htype]
  by_cases hkind : c.defaultKind = "" <;> simp [field, live, FieldDefault.kind, hkind]

/-- The definition of a field has no default. -/
theorem definition_field {server : Capabilities} (hserver : server.lowCardinality = true)
    (c : DescribedColumn) :
    c.field.definition server = backquoted c.name ++ " " ++ c.type.name := by
  rw [Field.definition, hserver]
  cases server.codecs <;> simp [field, FieldDefault.clause, ColumnType.name]

theorem ofFields_field {server : Capabilities} (hserver : server.lowCardinality = true)
    (hnames : (columns.map DescribedColumn.name).Nodup) : ∀ {front : List DescribedColumn}
    {previous : Option String}, front ⊆ columns →
      Alteration.ofFields server (columns.map live) previous (front.map field)
        = (withDefault front).map fun c => .modify c.field
  | [], _, _ => rfl
  | c :: front, previous, hfront => by
    obtain ⟨hc, hfront⟩ := List.cons_subset.1 hfront
    have hlive : ((columns.map live).map LiveColumn.name).Nodup := by
      rw [List.map_map]
      exact hnames
    rw [List.map_cons, Alteration.ofFields, ofFields_field hserver hnames hfront,
      Alteration.ofField_of_mem hlive (List.mem_map_of_mem hc) rfl, agrees_field hserver,
      withDefault, withDefault, List.filter_cons]
    by_cases hkind : c.defaultKind = ""
    · simp [hkind]
    · simp [hkind]

/-- Exactly the columns with a default are modified. -/
theorem all_live {server : Capabilities} (hserver : server.lowCardinality = true)
    (hnames : (columns.map DescribedColumn.name).Nodup) (table : String) :
    Alteration.all server (schema table columns) (columns.map live)
      = (withDefault columns).map fun c => .modify c.field := by
  have hdrops : Alteration.drops (schema table columns) (columns.map live) = [] := by
    refine Alteration.drops_eq_nil fun column hcolumn => ?_
    obtain ⟨c, hc, rfl⟩ := List.mem_map.1 hcolumn
    exact ⟨c.field, List.mem_map_of_mem hc, rfl⟩
  rw [Alteration.all, hdrops, List.append_nil]
  exact ofFields_field hserver hnames fun _ hc => hc

/-- Nothing is left to change exactly if no column has a default. -/
theorem statements_live_iff {server : Capabilities} (hserver : server.lowCardinality = true)
    (hnames : (columns.map DescribedColumn.name).Nodup) (database table : String) :
    Alteration.statements server database (schema table columns) (columns.map live) = [] ↔
      ∀ c ∈ columns, c.defaultKind = "" := by
  rw [Alteration.statements, all_live hserver hnames, List.map_eq_nil_iff, List.map_eq_nil_iff,
    withDefault, List.filter_eq_nil_iff]
  simp only [decide_eq_true_eq, not_not]

end DescribedColumn

namespace Action

open DescribedColumn

variable {transport : Transport} {client known : Client} {server : Capabilities} {table : String}
  {columns : List DescribedColumn}

/-- The request for the description of a table by name. -/
def describeTableRequest (c : Connection) (table : String) (isSystem : Bool) : Request :=
  request c (.ofText ("DESCRIBE "
    ++ backquoted (if isSystem then "system" else c.config.database) ++ "."
    ++ backquoted table ++ " FORMAT TSV")) {}

/-- Behind the probe, the description is asked for and read. -/
theorem run_describe (isSystem : Bool) (hinit : init.run transport client = (.ok (), known))
    (hreply : replyText (transport known.sent
      (describeTableRequest known.connection table isSystem)) = .ok (reply columns)) :
    (describe table isSystem).run transport client
      = (.ok (if isSystem then (schema table columns).asSystem else schema table columns),
          known.posting (describeTableRequest known.connection table isSystem)) := by
  have hdispatch : (dispatchText ("DESCRIBE "
      ++ backquoted (if isSystem then "system" else known.connection.config.database) ++ "."
      ++ backquoted table ++ " FORMAT TSV") {}).run transport known
      = (.ok (reply columns),
          known.posting (describeTableRequest known.connection table isSystem)) := by
    rw [run_dispatchText, ← hreply]
    rfl
  rw [describe, run_bind_ok hinit, run_bind_ok run_connection, run_bind_ok hdispatch,
    ofDescription_reply, run_bind_ok (run_ofResult _)]
  rfl

theorem changes_of_description (hlow : server.lowCardinality = true)
    (hnames : (columns.map DescribedColumn.name).Nodup)
    (hreply : replyText (transport known.sent
      (describeRequest known.connection (schema table columns))) = .ok (reply columns)) :
    changes transport known server (schema table columns)
      = (withDefault columns).map fun c => .modify c.field := by
  rw [changes, described, hreply, ok_bind, ofText_reply]
  exact all_live hlow hnames table

/-- Altering a table to the schema of its own description modifies exactly the columns with a
default, and takes the defaults from them. -/
theorem alterTable_of_description (table : String) (columns : List DescribedColumn)
    (hnames : (columns.map DescribedColumn.name).Nodup) :
    (∀ transport client known isSystem, init.run transport client = (.ok (), known) →
      replyText (transport known.sent (describeTableRequest known.connection table isSystem))
        = .ok (reply columns) →
      (describe table isSystem).run transport client
        = (.ok (if isSystem then (schema table columns).asSystem else schema table columns),
            known.posting (describeTableRequest known.connection table isSystem))) ∧
    (∀ f ∈ (schema table columns).fields, f.isWritable = true) ∧
    Refuses (alterTable (schema table columns).asSystem) (.validation .dropSystem) ∧
    (∀ transport client known server, init.run transport client = (.ok (), known) →
      known.connection.capabilities = some server → server.lowCardinality = true →
      replyText (transport known.sent (describeRequest known.connection (schema table columns)))
        = .ok (reply columns) →
      ∃ front r, front <+: withDefault columns ∧
        (alterTable (schema table columns)).run transport client = (r, { known with
          sent := known.sent ++ describeRequest known.connection (schema table columns) ::
            front.map fun c => request known.connection (.ofText (Alteration.posted server
              known.connection.config.database (schema table columns) (.modify c.field))) {} }) ∧
        (r = .ok () → front = withDefault columns)) ∧
    (∀ (server : Capabilities) (database : String), server.lowCardinality = true →
      (∀ c ∈ columns, c.field.definition server = backquoted c.name ++ " " ++ c.type.name) ∧
      ((LiveColumn.ofText (reply columns)).map
          (Alteration.statements server database (schema table columns)) = .ok [] ↔
        ∀ c ∈ columns, c.defaultKind = "")) := by
  refine ⟨fun transport client known isSystem => run_describe isSystem,
    fun f => isWritable_of_mem, refuses_alterTable rfl, ?_, ?_⟩
  · intro transport client known server hinit hserver hlow hreply
    have hschema : (schema table columns).isSystem = false := rfl
    obtain ⟨front, r, hfront, hrun, hok⟩ := exists_run_alterTable hschema hinit hserver
    rw [changes_of_description hlow hnames hreply] at hfront hok
    obtain ⟨modified, hmodified, rfl⟩ := List.prefix_map_iff.1 hfront
    refine ⟨modified, r, hmodified, ?_, fun hr => ?_⟩
    · rw [hrun, List.map_map]
      rfl
    · have hlength := congrArg List.length (hok hr)
      rw [List.length_map, List.length_map] at hlength
      exact hmodified.eq_of_length hlength
  · intro server database hlow
    refine ⟨fun c _ => definition_field hlow c, ?_⟩
    rw [ofText_reply, ← statements_live_iff hlow hnames database table]
    exact ⟨Except.ok.inj, congrArg Except.ok⟩

/-- A column with the user. -/
def userColumn : DescribedColumn where
  name := "user"
  type := .string
  isRead := ⟨"String", ColumnType.read_name (t := .string) trivial⟩

/-- A column with a day that the server computes. -/
def dayColumn : DescribedColumn where
  name := "day"
  type := .date
  isRead := ⟨"Date", ColumnType.read_name (t := .date) trivial⟩
  defaultKind := "MATERIALIZED"
  further := ["today()"]
  isFieldText := by
    rintro field hfield
    obtain rfl := List.mem_singleton.1 hfield
    exact ⟨by decide, by decide, by decide, by decide⟩

/-- A table with these columns. -/
def visitTable : Schema :=
  schema "visits" [userColumn, dayColumn]

/-- A server that answers every request with the description of that table. -/
def visitReplies : Transport where
  answer _ _ := .ok ⟨200, .ofText (reply [userColumn, dayColumn])⟩

theorem replyText_visitReplies (sent : List Request) (r : Request) :
    replyText (visitReplies sent r) = .ok (reply [userColumn, dayColumn]) :=
  Body.text_ofText _

theorem alterTable_of_description_visits :
    ([userColumn, dayColumn].map DescribedColumn.name).Nodup ∧
      init.run visitReplies codecClient = (.ok (), codecClient) ∧
      ((describe "visits" false).run visitReplies codecClient).1 = .ok visitTable ∧
      (∀ f ∈ visitTable.fields, f.isWritable = true) ∧
      ((describe "visits" true).run visitReplies codecClient).1 = .ok visitTable.asSystem ∧
      Refuses (alterTable visitTable.asSystem) (.validation .dropSystem) ∧
      codecClient.connection.capabilities = some Alteration.codecServer ∧
      Alteration.codecServer.lowCardinality = true ∧
      (∃ front r, front <+: [dayColumn] ∧
        (alterTable visitTable).run visitReplies codecClient = (r, { codecClient with
          sent := describeRequest codecClient.connection visitTable ::
            front.map fun c => request codecClient.connection (.ofText (Alteration.posted
              Alteration.codecServer "shop" visitTable (.modify c.field))) {} }) ∧
        (r = .ok () → front = [dayColumn])) ∧
      (LiveColumn.ofText (reply [userColumn, dayColumn])).map
        (Alteration.statements Alteration.codecServer "shop" visitTable) ≠ .ok [] := by
  have hnames : ([userColumn, dayColumn].map DescribedColumn.name).Nodup := by decide
  have hinit : init.run visitReplies codecClient = (.ok (), codecClient) := run_init rfl
  have hserver : codecClient.connection.capabilities = some Alteration.codecServer := rfl
  have hlow : Alteration.codecServer.lowCardinality = true := rfl
  obtain ⟨hdescribe, hwritable, hsystem, halter, hnothing⟩ :=
    alterTable_of_description "visits" [userColumn, dayColumn] hnames
  refine ⟨hnames, hinit, ?_, hwritable, ?_, hsystem, hserver, hlow,
    halter _ _ _ _ hinit hserver hlow (replyText_visitReplies _ _), ?_⟩
  · rw [hdescribe _ _ _ false hinit (replyText_visitReplies _ _)]
    rfl
  · rw [hdescribe _ _ _ true hinit (replyText_visitReplies _ _)]
    rfl
  · intro hempty
    exact absurd (((hnothing _ _ hlow).2.1 hempty) dayColumn (by simp)) (by decide)

theorem posted_dayColumn :
    Alteration.posted Alteration.codecServer "shop" visitTable (.modify dayColumn.field)
      = "ALTER TABLE `shop`.`visits` MODIFY COLUMN `day` Date" := by
  have htable : Alteration.postedTable "shop" visitTable = "`shop`.`visits`" :=
    Alteration.postedTable_iff.2 (by decide)
  have hdefinition : Alteration.refilled "shop" visitTable
      (dayColumn.field.definition Alteration.codecServer) = "`day` Date" :=
    (Alteration.refilled_definition_iff _).2 (by decide)
  rw [Alteration.posted_modify, htable, hdefinition]
  decide

/-- The schema of a live table has a field that the server computes for one that records send
values for, and altering the table to that schema takes the default from the column. -/
theorem default_taken_by_own_schema :
    ((describe "visits" false).run visitReplies codecClient).1 = .ok visitTable ∧
    (visitTable.field? "day").map Field.isWritable = some true ∧
    (alterTable visitTable).run visitReplies codecClient
      = (.ok (), { codecClient with sent := [describeRequest codecClient.connection visitTable,
          request codecClient.connection (.ofText
            "ALTER TABLE `shop`.`visits` MODIFY COLUMN `day` Date") {}] }) := by
  have hinit : init.run visitReplies codecClient = (.ok (), codecClient) := run_init rfl
  have hserver : codecClient.connection.capabilities = some Alteration.codecServer := rfl
  have hsucceeds : ((alterTable visitTable).run visitReplies codecClient).1 = .ok () := rfl
  have hschema : visitTable.isSystem = false := rfl
  have hchanges : changes visitReplies codecClient Alteration.codecServer visitTable
      = [.modify dayColumn.field] :=
    changes_of_description rfl (by decide) (replyText_visitReplies _ _)
  refine ⟨?_, rfl, ?_⟩
  · rw [run_describe false hinit (replyText_visitReplies _ _)]
    rfl
  · obtain ⟨front, r, -, hrun, hall⟩ := exists_run_alterTable hschema hinit hserver
    have hr : r = .ok () := by
      rw [← hsucceeds, hrun]
    have hdatabase : codecClient.connection.config.database = "shop" := rfl
    rw [hrun, hall hr, hchanges, hr, List.map_singleton, hdatabase, posted_dayColumn]
    rfl

end Action

end Columnar
