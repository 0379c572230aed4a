import Columnar.Proofs.Migration.Converges
import Columnar.Proofs.Placeholder.Twice

/-!
Statements that define columns, as they are posted.

A table is created by a statement that is posted as it is built. A statement that alters it is
filled for the table, and then once more, like every raw one. So it defines a column as the created
table has it exactly if no placeholder occurs in the name, the type, the default and the codec, and
it names the table exactly if none occurs in the name that would be replaced without a table
(`Action.alterTable_posts`).
-/

namespace Columnar

/-! ### Placeholders in definitions -/

theorem Placeholder.occurs_append_blank (s : String) {t : String}
    (h : t.toList.head? = some ' ') :
    occurs (s ++ t).toList = (occurs s.toList || occurs t.toList) := by
  obtain ⟨rest, ht⟩ := List.head?_eq_some_iff.1 h
  rw [String.toList_append, ht, occurs_append_stop (by decide), occurs]
  simp

namespace ColumnDefinition

/-- The texts that a definition is made of. -/
def texts (d : ColumnDefinition) : List String :=
  d.name :: d.type :: (d.default.map ColumnDefault.expression).toList ++ d.codec.toList

open Placeholder (occurs occurs_append_blank)

theorem occurs_append_of_not_mem {s : String} (hs : '$' ∉ s.toList) (t : String) :
    occurs (s ++ t).toList = occurs t.toList := by
  rw [String.toList_append, Placeholder.closed_of_not_mem hs, Bool.false_or]

/-- A default adds the placeholders of its expression. -/
theorem occurs_append_default (s : String) (default : Option ColumnDefault) :
    occurs (s ++ (default.map ColumnDefault.text).getD "").toList
      = (occurs s.toList || (default.map ColumnDefault.expression).toList.any
          fun t => occurs t.toList) := by
  cases default with
  | none => simp
  | some default =>
    have hword : '$' ∉ (" " ++ default.kind.word ++ " ").toList := by
      cases default.kind <;> decide
    have hhead : (ColumnDefault.text default).toList.head? = some ' ' := by
      rw [ColumnDefault.text, String.append_assoc, String.append_assoc]
      exact head?_append_of_head? rfl _
    rw [Option.map_some, Option.getD_some, occurs_append_blank _ hhead, ColumnDefault.text,
      occurs_append_of_not_mem hword]
    simp

/-- A codec adds its own placeholders. -/
theorem occurs_append_codec (s : String) (codec : Option String) :
    occurs (s ++ (codec.map fun codec => " CODEC(" ++ codec ++ ")").getD "").toList
      = (occurs s.toList || codec.toList.any fun t => occurs t.toList) := by
  cases codec with
  | none => simp
  | some codec =>
    have hhead : (" CODEC(" ++ (codec ++ ")")).toList.head? = some ' ' :=
      head?_append_of_head? rfl _
    have hclosed : occurs (codec ++ ")").toList = occurs codec.toList := by
      rw [String.toList_append]
      exact (Placeholder.closed_concat_stop (by decide) _).occurs_eq
    rw [Option.map_some, Option.getD_some, String.append_assoc, occurs_append_blank _ hhead,
      occurs_append_of_not_mem (by decide), hclosed]
    simp

/-- A placeholder in a definition occurs in one of its texts. -/
theorem occurs_text (d : ColumnDefinition) :
    occurs d.text.toList = d.texts.any fun s => occurs s.toList := by
  have htype : occurs (backquoted d.name ++ " " ++ d.type).toList
      = (occurs d.name.toList || occurs d.type.toList) := by
    rw [String.append_assoc, String.toList_append, Placeholder.closed_backquoted,
      occurs_append_of_not_mem (by decide)]
  rw [text, occurs_append_codec, occurs_append_default, htype, texts]
  simp [Bool.or_assoc]

end ColumnDefinition

/-! ### Statements that alter a table -/

namespace Alteration

variable {server : Capabilities} {database : String} {schema : Schema}

/-- A text that is filled for a table, and then once more without it. -/
def refilled (database : String) (schema : Schema) (s : String) : String :=
  Placeholder.fill database none (Placeholder.fill database (some schema) s)

/-- The statement of a change as it is posted. -/
def posted (server : Capabilities) (database : String) (schema : Schema) (change : Alteration) :
    String :=
  refilled database schema (change.statement server)

/-- The table as the posted statements name it. -/
def postedTable (database : String) (schema : Schema) : String :=
  Placeholder.fill database none (schema.reference database)

theorem refilled_append {s : String} (h : '$' ∉ s.toList) (t : String) :
    refilled database schema (s ++ t) = s ++ refilled database schema t := by
  rw [refilled, Placeholder.fill_append h, Placeholder.fill_append h, refilled]

theorem refilled_append_blank (s : String) {t : String} (h : t.toList.head? = some ' ') :
    refilled database schema (s ++ t)
      = refilled database schema s ++ refilled database schema t := by
  have hhead : (Placeholder.fill database (some schema) t).toList.head? = some ' ' :=
    Placeholder.head?_fill h (by decide)
  rw [refilled, Placeholder.fill_append_blank _ h, Placeholder.fill_append_blank _ hhead, refilled,
    refilled]

theorem posted_eq (server : Capabilities) (database : String) (schema : Schema)
    (change : Alteration) : posted server database schema change
      = "ALTER TABLE " ++ postedTable database schema ++ " "
        ++ refilled database schema (change.clause server) := by
  have hclause : (" " ++ Placeholder.fill database (some schema)
      (change.clause server)).toList.head? = some ' ' := head?_append_of_head? rfl _
  rw [posted, refilled, fill_statement, String.append_assoc, String.append_assoc,
    Placeholder.fill_append (by decide), Placeholder.fill_append_blank _ hclause,
    Placeholder.fill_append (by decide), postedTable, refilled, String.append_assoc,
    String.append_assoc]

theorem posted_add (f : Field) (after : Option String) :
    posted server database schema (add f after)
      = "ALTER TABLE " ++ postedTable database schema ++ " ADD COLUMN "
        ++ refilled database schema (f.definition server)
        ++ refilled database schema (Edit.place after) := by
  have hplace : (Edit.place after).toList.head? = some ' ' := by
    cases after with
    | none => rfl
    | some anchor => exact head?_append_of_head? rfl _
  have hadd : " ADD COLUMN " = " " ++ "ADD COLUMN " := by decide
  rw [posted_eq, clause_add, refilled_append_blank _ hplace, refilled_append (by decide), hadd]
  simp only [String.append_assoc]

theorem posted_modify (f : Field) :
    posted server database schema (modify f)
      = "ALTER TABLE " ++ postedTable database schema ++ " MODIFY COLUMN "
        ++ refilled database schema (f.definition server) := by
  have hmodify : " MODIFY COLUMN " = " " ++ "MODIFY COLUMN " := by decide
  rw [posted_eq, clause_modify, refilled_append (by decide), hmodify]
  simp only [String.append_assoc]

/-- A definition is posted as it is exactly if no placeholder occurs in its texts. -/
theorem refilled_definition_iff (f : Field) :
    refilled database schema (f.definition server) = f.definition server ↔
      ∀ s ∈ (f.column server).texts, Placeholder.occurs s.toList = false := by
  rw [refilled, Placeholder.fill_fill_eq_self_iff, ← Field.text_column,
    ColumnDefinition.occurs_text, List.any_eq_false]
  simp only [Bool.not_eq_true]

/-- The table is named as it is exactly if no placeholder of the database, and no doubled dollar
sign, occurs in its name or that of the database. -/
theorem postedTable_iff : postedTable database schema = schema.reference database ↔
    Placeholder.occursOwn (schema.reference database).toList = false :=
  Placeholder.fill_none_eq_self_iff _

end Alteration

/-! ### Creating a table -/

/-- The statement that creates a table with columns of the given definitions. -/
def createText (database : String) (schema : Schema) (definitions : List String)
    (engine : TableEngine) : String :=
  "CREATE " ++ (schema.kindAndName database).1 ++ " IF NOT EXISTS " ++ schema.reference database
    ++ " (" ++ ", ".intercalate definitions ++ ") ENGINE = " ++ engine.sql

theorem createStatement_eq {database : String} {schema : Schema} {engine : TableEngine}
    (hcreatable : schema.creatable = .ok engine) (server : Capabilities) :
    schema.createStatement database server
      = .ok (createText database schema (schema.fields.map (Field.definition server)) engine) := by
  have hsystem : schema.isSystem = false := by
    rw [Schema.creatable] at hcreatable
    cases hs : schema.isSystem with
    | false => rfl
    | true => simp [hs] at hcreatable
  have hname : (schema.kindAndName database).2 = schema.reference database := by
    rw [Schema.kindAndName, Schema.reference, hsystem]
    cases schema.isTemporary <;> rfl
  rw [Schema.createStatement, hcreatable, ok_bind, createText, ← hname]
  rfl

namespace Action

variable {transport : Transport} {client known : Client} {server : Capabilities} {schema : Schema}

/-! ### Raw statements of a known server -/

/-- The request of a raw statement. -/
def rawRequest (c : Connection) (statement : String) : Request :=
  request c (.ofText (c.fill none statement)) {}

theorem run_raw (h : client.connection.capabilities = some server) (statement : String) :
    (raw statement {}).run transport client
      = (replyText (transport client.sent (rawRequest client.connection statement)),
          client.posting (rawRequest client.connection statement)) := by
  rw [raw, run_bind_ok run_connection, run_bind_ok (run_init h), run_dispatchText]
  rfl

/-- Raw statements one behind the other. -/
def rawAll (statements : List String) : Action Unit :=
  statements.forM fun statement => do
    let _ ← raw statement {}

/-- Raw statements are posted up to the first that fails. -/
theorem exists_run_rawAll (transport : Transport) : ∀ (statements : List String) {client : Client},
    client.connection.capabilities = some server →
      ∃ front r, front <+: statements ∧
        (rawAll statements).run transport client = (r, { client with
          sent := client.sent ++ front.map (rawRequest client.connection) }) ∧
        (r = .ok () → front = statements)
  | [], client, _ => by
    refine ⟨[], .ok (), List.prefix_rfl, ?_, fun _ => rfl⟩
    rw [List.map_nil, List.append_nil]
    rfl
  | s :: statements, client, h => by
    have hcons : rawAll (s :: statements) = raw s {} >>= fun _ => rawAll statements := by
      simp [rawAll]
    have hraw : (raw s {}).run transport client = _ := run_raw h s
    cases hreply : replyText (transport client.sent (rawRequest client.connection s)) with
    | error e =>
      rw [hreply] at hraw
      refine ⟨[s], .error e, ⟨statements, rfl⟩, ?_, fun hok => absurd hok (by simp)⟩
      rw [hcons, run_bind_error hraw]
      rfl
    | ok reply =>
      rw [hreply] at hraw
      have hposted : (client.posting (rawRequest client.connection s)).connection.capabilities
          = some server := h
      obtain ⟨front, r, hfront, hrun, hok⟩ := exists_run_rawAll transport statements hposted
      refine ⟨s :: front, r, List.cons_prefix_cons.2 ⟨rfl, hfront⟩, ?_, fun hr => by rw [hok hr]⟩
      rw [hcons, run_bind_ok hraw, hrun, Client.posting, List.map_cons, List.append_assoc]
      rfl

/-! ### Altering a table -/

/-- The request for the live columns of a table. -/
def describeRequest (c : Connection) (schema : Schema) : Request :=
  request c (.ofText (Alteration.refilled c.config.database schema
    "DESCRIBE TABLE $table FORMAT TSV")) {}

/-- The live columns that a client is told of. -/
def described (transport : Transport) (client : Client) (schema : Schema) :
    Result (List LiveColumn) :=
  replyText (transport client.sent (describeRequest client.connection schema))
    >>= LiveColumn.ofText

/-- The changes of the live columns that a client is told of. -/
def changes (transport : Transport) (client : Client) (server : Capabilities) (schema : Schema) :
    List Alteration :=
  match described transport client schema with
  | .ok live => Alteration.all server schema live
  | .error _ => []

theorem run_liveColumns (h : client.connection.capabilities = some server) :
    (liveColumns schema).run transport client
      = (described transport client schema,
          client.posting (describeRequest client.connection schema)) := by
  rw [liveColumns, run_bind_ok run_connection, run_bind_ofResult, run_raw h]
  rfl

/-- What the probe has found out is known behind it. -/
theorem capabilities_of_init (hinit : init.run transport client = (.ok (), known))
    (hserver : known.connection.capabilities = some server) :
    capabilities.run transport client = (.ok server, known) := by
  have hmap : init = (fun _ => ()) <$> capabilities := rfl
  rw [hmap, run_map] at hinit
  obtain ⟨hresult, hknown⟩ := Prod.ext_iff.1 hinit
  obtain ⟨found, hfound, -⟩ := map_eq_ok hresult
  have hrun : capabilities.run transport client = (.ok found, known) := Prod.ext hfound hknown
  have hfoundServer := capabilities_known hrun
  rw [hserver] at hfoundServer
  rw [hrun, Option.some.inj hfoundServer]

/-- Behind the probe, the live columns are asked for, and the changes are posted up to the first
that fails. -/
theorem exists_run_alterTable (hschema : schema.isSystem = false)
    (hinit : init.run transport client = (.ok (), known))
    (hserver : known.connection.capabilities = some server) :
    ∃ front r, front <+: changes transport known server schema ∧
      (alterTable schema).run transport client = (r, { known with
        sent := known.sent ++ describeRequest known.connection schema :: front.map fun change =>
          request known.connection (.ofText (Alteration.posted server
            known.connection.config.database schema change)) {} }) ∧
      (r = .ok () → front = changes transport known server schema) := by
  have hdroppable : schema.droppable = .ok () := by
    rw [Schema.droppable, hschema]
    rfl
  have hlive : (liveColumns schema).run transport known = _ := run_liveColumns hserver
  rw [alterTable, hdroppable, run_bind_ok (run_ofResult _),
    run_bind_ok (capabilities_of_init hinit hserver), changes]
  cases hdescribed : described transport known schema with
  | error e =>
    rw [hdescribed] at hlive
    refine ⟨[], .error e, List.prefix_rfl, ?_, fun hok => absurd hok (by simp)⟩
    rw [run_bind_error hlive]
    rfl
  | ok live =>
    rw [hdescribed] at hlive
    rw [run_bind_ok hlive, run_bind_ok run_connection]
    have hasked : (known.posting (describeRequest known.connection schema)).connection.capabilities
        = some server := hserver
    obtain ⟨front, r, hfront, hrun, hok⟩ := exists_run_rawAll transport
      (Alteration.statements server known.connection.config.database schema live) hasked
    obtain ⟨posts, hposts, rfl⟩ := List.prefix_map_iff.1 hfront
    refine ⟨posts, r, hposts, ?_, fun hr => ?_⟩
    · refine hrun.trans ?_
      simp only [Client.posting, List.map_map, List.append_assoc, List.singleton_append]
      rfl
    · have hlength := congrArg List.length (hok hr)
      rw [List.length_map, Alteration.statements, List.length_map] at hlength
      exact hposts.eq_of_length hlength

/-- Creating a table posts its statement as it is built. -/
theorem sent_createTable {engine : TableEngine} (hcreatable : schema.creatable = .ok engine)
    (hinit : init.run transport client = (.ok (), known))
    (hserver : known.connection.capabilities = some server) :
    ((createTable schema).run transport client).2.sent
      = known.sent ++ [request known.connection (.ofText (createText
          known.connection.config.database schema (schema.fields.map (Field.definition server))
          engine)) {}] := by
  rw [createTable, hcreatable, run_bind_ok (run_ofResult _),
    run_bind_ok (capabilities_of_init hinit hserver), run_bind_ok run_connection,
    createStatement_eq hcreatable, run_bind_ok (run_ofResult _), run_bind, run_dispatchText]
  generalize createText known.connection.config.database schema
    (schema.fields.map (Field.definition server)) engine = statement
  cases replyText (transport known.sent (request known.connection (.ofText statement) {})) <;> rfl

/-- Columns that are added or modified are defined as the created table has them, and the table is
named as it is, exactly where no placeholder is replaced on the way. -/
theorem alterTable_posts (hschema : schema.isSystem = false)
    (hinit : init.run transport client = (.ok (), known))
    (hserver : known.connection.capabilities = some server) :
    let database := client.connection.config.database
    let posting := fun s => request known.connection (.ofText s) {}
    let table := Alteration.postedTable database schema
    let written := fun f : Field => Alteration.refilled database schema (f.definition server)
    (∃ front, front <+: changes transport known server schema ∧
      ((alterTable schema).run transport client).2.sent
        = known.sent ++ describeRequest known.connection schema ::
          front.map (fun change => posting (Alteration.posted server database schema change)) ∧
      (((alterTable schema).run transport client).1 = .ok () →
        front = changes transport known server schema)) ∧
    (∀ f after, Alteration.posted server database schema (.add f after)
      = "ALTER TABLE " ++ table ++ " ADD COLUMN " ++ written f
        ++ Alteration.refilled database schema (Edit.place after)) ∧
    (∀ f, Alteration.posted server database schema (.modify f)
      = "ALTER TABLE " ++ table ++ " MODIFY COLUMN " ++ written f) ∧
    (∀ engine, schema.creatable = .ok engine →
      ((createTable schema).run transport client).2.sent = known.sent
        ++ [posting (createText database schema (schema.fields.map (Field.definition server))
          engine)]) ∧
    (∀ f, written f = f.definition server ↔
      ∀ s ∈ (f.column server).texts, Placeholder.occurs s.toList = false) ∧
    (table = schema.reference database ↔
      Placeholder.occursOwn (schema.reference database).toList = false) := by
  intro database posting table written
  have hdatabase : known.connection.config.database = database := by
    have hconfig := (keeps_init transport client).2
    rw [hinit] at hconfig
    exact congrArg Config.database hconfig
  refine ⟨?_, fun f after => Alteration.posted_add f after, fun f => Alteration.posted_modify f,
    fun engine hcreatable => ?_, fun f => Alteration.refilled_definition_iff f,
    Alteration.postedTable_iff⟩
  · obtain ⟨front, r, hfront, hrun, hok⟩ := exists_run_alterTable hschema hinit hserver
    rw [hdatabase] at hrun
    rw [hrun]
    exact ⟨front, hfront, rfl, hok⟩
  · rw [sent_createTable hcreatable hinit hserver, hdatabase]

/-- A client of a known server that compresses columns. -/
def codecClient : Client where
  connection := { config := { database := "shop" }, capabilities := some Alteration.codecServer }

theorem alterTable_posts_people :
    Alteration.peopleTable.isSystem = false ∧
      init.run silentServer codecClient = (.ok (), codecClient) ∧
      codecClient.connection.capabilities = some Alteration.codecServer ∧
      (∃ front, front <+: changes silentServer codecClient Alteration.codecServer
          Alteration.peopleTable ∧
        ((alterTable Alteration.peopleTable).run silentServer codecClient).2.sent
          = describeRequest codecClient.connection Alteration.peopleTable ::
            front.map (fun change => request codecClient.connection (.ofText (Alteration.posted
              Alteration.codecServer "shop" Alteration.peopleTable change)) {})) ∧
      ∀ f ∈ Alteration.peopleTable.fields,
        Alteration.refilled "shop" Alteration.peopleTable (f.definition Alteration.codecServer)
          = f.definition Alteration.codecServer := by
  have hinit : init.run silentServer codecClient = (.ok (), codecClient) := run_init rfl
  have hplain : ∀ f ∈ Alteration.peopleTable.fields,
      ∀ s ∈ (f.column Alteration.codecServer).texts, Placeholder.occurs s.toList = false := by
    decide
  have hschema : Alteration.peopleTable.isSystem = false := rfl
  have hserver : codecClient.connection.capabilities = some Alteration.codecServer := rfl
  obtain ⟨⟨front, hfront, hsent, -⟩, -, -, -, hwritten, -⟩ :=
    alterTable_posts hschema hinit hserver
  exact ⟨hschema, hinit, hserver, ⟨front, hfront, hsent⟩,
    fun f hf => (hwritten f).2 (hplain f hf)⟩

/-- A field with a default that has two dollar signs. -/
def tagField : Field :=
  { name := "tag", type := .string, default := .literal (.text "a$$b") }

/-- A table with that field. -/
def tagTable : Schema where
  table := "tags"
  fields := [tagField]
  engine := some .memory

theorem posted_tagField :
    Alteration.posted Alteration.codecServer "shop" tagTable (.add tagField none)
      = "ALTER TABLE `shop`.`tags` ADD COLUMN `tag` String DEFAULT 'a$b' FIRST" := by
  have htable : Alteration.postedTable "shop" tagTable = "`shop`.`tags`" :=
    Alteration.postedTable_iff.2 (by decide)
  have hdefinition : tagField.definition Alteration.codecServer
      = "`tag` String DEFAULT 'a" ++ "$$b'" := by decide
  have hfirst : Placeholder.fill "shop" (some tagTable) "$$b'" = "$b'" := by
    rw [Placeholder.fill, show "$$b'".toList = '$' :: '$' :: "b'".toList from rfl,
      Placeholder.fillChars_dollar_dollar, Placeholder.fillChars_eq_self (by decide)]
    rfl
  have hsecond : Placeholder.fill "shop" none "$b'" = "$b'" :=
    (Placeholder.fill_none_eq_self_iff _).2 (by decide)
  have hself : ∀ schema, Placeholder.fill "shop" schema " FIRST" = " FIRST" := fun _ =>
    Placeholder.fill_eq_self (by decide)
  have hplace : Alteration.refilled "shop" tagTable (Edit.place none) = " FIRST" := by
    rw [Edit.place, Alteration.refilled, hself, hself]
  rw [Alteration.posted_add, htable, hdefinition, Alteration.refilled_append (by decide), hplace,
    Alteration.refilled, hfirst, hsecond]
  decide

/-- A column is altered to another default than the created table has. -/
theorem altered_to_another_default :
    ((alterTable tagTable).run silentServer codecClient).2.sent
      = [describeRequest codecClient.connection tagTable,
          request codecClient.connection (.ofText
            "ALTER TABLE `shop`.`tags` ADD COLUMN `tag` String DEFAULT 'a$b' FIRST") {}] ∧
    ((createTable tagTable).run silentServer codecClient).2.sent
      = [request codecClient.connection (.ofText
          "CREATE TABLE IF NOT EXISTS `shop`.`tags` (`tag` String DEFAULT 'a$$b') ENGINE = Memory")
          {}] := by
  have hinit : init.run silentServer codecClient = (.ok (), codecClient) := run_init rfl
  have hchanges : changes silentServer codecClient Alteration.codecServer tagTable
      = [.add tagField none] := rfl
  have hsucceeds : ((alterTable tagTable).run silentServer codecClient).1 = .ok () := rfl
  have hschema : tagTable.isSystem = false := rfl
  have hserver : codecClient.connection.capabilities = some Alteration.codecServer := rfl
  have hdatabase : codecClient.connection.config.database = "shop" := rfl
  have hcreatable : tagTable.creatable = .ok .memory := rfl
  constructor
  · obtain ⟨front, r, -, hrun, hall⟩ := exists_run_alterTable hschema hinit hserver
    rw [hrun] at hsucceeds ⊢
    rw [hall hsucceeds, hchanges, List.map_singleton, hdatabase, posted_tagField]
    rfl
  · rw [sent_createTable hcreatable hinit hserver]
    rfl

end Action

end Columnar
