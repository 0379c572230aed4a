import Columnar.Migration.Run
import Columnar.Proofs.Client.Batches
import Columnar.Proofs.Client.Step
import Columnar.Proofs.Placeholder

/-!
What the operations of a client are made of.

Every operation puts a few parts one behind the other: what a caller changes of the connection, the
gate of `capabilities`, and behind it requests and the statements that create and drop the database
(`Composed`). None of the statements that the operations make on their own is a question of the
probe. An action made of these parts is a path of steps (`Composed.walks`), so that what each step
keeps, the action keeps (`Composed.keeps`).
-/

namespace Columnar

variable {caller : Caller}

/-! ### Statements that ask nothing -/

theorem Question.toList_existence (database : String) : (existence database).toList
    = "SELECT count() FROM system.databases WHERE name = ".toList
      ++ '\'' :: (Tsv.escapeChars database.toList ++ ['\'']) := by
  have happend : (existence database).toList
      = "SELECT count() FROM system.databases WHERE name = ".toList
        ++ (Tsv.quote database).toList := String.toList_append
  rw [happend, Tsv.toList_quote]

/-- Characters of the questions of the probe that other statements do not have there. -/
theorem Question.chars {database question : String} (h : question ∈ Question.all database) :
    question.toList.head? = some 'S' ∧
      (question.toList[7]? = some 'c' → question.toList[27]? = some 'd') ∧
      question.toList[20]? ∈ [some 's', none] ∧ question.toList.getLast? ≠ some 's' := by
  simp only [Question.all, List.mem_cons, List.not_mem_nil, or_false] at h
  rcases h with rfl | rfl | rfl | rfl
  · rw [toList_existence]
    refine ⟨rfl, fun _ => ?_, ?_, ?_⟩
    · rw [List.getElem?_append_left (by decide)]
      decide
    · rw [List.getElem?_append_left (by decide)]
      decide
    · rw [← List.cons_append, ← List.append_assoc, List.getLast?_concat]
      decide
  all_goals decide

theorem Body.ofText_inj {s t : String} (h : Body.ofText s = .ofText t) : s = t :=
  Text.encodeUtf8_inj (Except.ok.inj (List.cons.inj h).1)

/-- A statement that no question equals can be sent. -/
theorem Caller.allows_ofText {statement : String}
    (h : ∀ question ∈ Question.all caller.database, statement ≠ question) :
    caller.Allows (.ofText statement) := by
  rintro ⟨question, hquestion, hbody⟩
  exact absurd (Body.ofText_inj hbody) (h question hquestion)

/-- A text begins as its front does. -/
theorem Text.head?_append {front : String} {c : Char} (h : front.toList.head? = some c)
    (s : String) : (front ++ s).toList.head? = some c := by
  rw [String.toList_append, List.head?_append, h, Option.some_or]

theorem Caller.allows_of_head? {statement : String} {c : Char}
    (h : statement.toList.head? = some c) (hc : c ≠ 'S') : caller.Allows (.ofText statement) := by
  refine Caller.allows_ofText fun question hquestion => ?_
  rintro rfl
  rw [(Question.chars hquestion).1] at h
  exact hc (Option.some.inj h).symm

/-! ### Parts of operations -/

/-- What holds of a client that runs what is made of parts: the caller can use it, and its server is
known where the gate has been passed. -/
def Caller.Meets (caller : Caller) : (isKnown : Bool) → Client → Prop
  | false => caller.Uses
  | true => caller.Knows

theorem Caller.stable_meets (caller : Caller) : ∀ isKnown, caller.Stable (caller.Meets isKnown)
  | false => caller.stable_uses
  | true => caller.stable_knows

theorem Caller.Meets.uses : ∀ {isKnown : Bool} {client : Client}, caller.Meets isKnown client →
    caller.Uses client
  | false, _, h => h
  | true, _, h => h.1

namespace Action

variable {α β : Type} {isKnown : Bool}

/-- Drops the database, behind the probe. -/
def dropDatabaseUnprobed : Action Unit := do
  let database := (← connection).config.database
  let _ ← dispatchText ("DROP DATABASE " ++ backquoted database) {}
  changeConnection fun c => { c with databaseExists := false }

theorem dropDatabase_eq : dropDatabase = init >>= fun _ => dropDatabaseUnprobed := rfl

/-- The action is made of parts of the client, with leave of the caller for what it sends and
changes. What stands behind the gate runs with a known server. -/
inductive Composed (caller : Caller) : (isKnown : Bool) → {α : Type} → Action α → Prop
  | pure {isKnown : Bool} {α : Type} (a : α) : Composed caller isKnown (pure a : Action α)
  | throw {isKnown : Bool} {α : Type} (e : ClientError) :
      Composed caller isKnown (throw e : Action α)
  | bind {isKnown : Bool} {α β : Type} {action : Action α} {next : α → Action β}
      (h : Composed caller isKnown action) (hnext : ∀ a, Composed caller isKnown (next a)) :
      Composed caller isKnown (action >>= next)
  | tryCatch {isKnown : Bool} {α : Type} {action : Action α} {handler : ClientError → Action α}
      (h : Composed caller isKnown action) (hhandler : ∀ e, Composed caller isKnown (handler e)) :
      Composed caller isKnown (MonadExcept.tryCatch action handler)
  | connection_bind {isKnown : Bool} {α : Type} {next : Connection → Action α}
      (hnext : ∀ c, c.config.database = caller.database → Composed caller isKnown (next c)) :
      Composed caller isKnown (connection >>= next)
  | gate {α : Type} {next : Capabilities → Action α}
      (hnext : ∀ server, Composed caller true (next server)) :
      Composed caller false (capabilities >>= next)
  | capabilities {isKnown : Bool} : Composed caller isKnown capabilities
  | changeSetting {isKnown : Bool} {name : String} (text : Option String)
      (h : caller.changes name) : Composed caller isKnown (changeSetting name text)
  | setReadOnly {isKnown isReadOnly : Bool} (h : caller.asks isReadOnly) :
      Composed caller isKnown (setReadOnly isReadOnly)
  | takesAll {isKnown : Bool} (body : Body) (options : Options) :
      Composed caller isKnown (takesAll body options)
  | dispatch {body : Body} (options : Options) (h : caller.Allows body) :
      Composed caller true (dispatch body options)
  | createDatabaseUnprobed : Composed caller true createDatabaseUnprobed
  | dropDatabaseUnprobed : Composed caller true dropDatabaseUnprobed

/-- The statements that create and drop the database are no questions. -/
theorem walks_existenceStatement {statement : String} {c : Char}
    (h : statement.toList.head? = some c) (hc : c ≠ 'S') (databaseExists : Bool) :
    Walks caller caller.Knows (dispatchText statement {} >>= fun _ =>
      changeConnection fun c => { c with databaseExists }) :=
  (walks_dispatchText {} (Caller.allows_of_head? h hc)).bind caller.stable_knows fun _ =>
    walks_existence databaseExists

/-- What is made of parts of the client is a path of steps. -/
theorem Composed.walks {action : Action α} (h : Composed caller isKnown action) :
    Walks caller (caller.Meets isKnown) action := by
  induction h with
  | pure a => exact walks_pure a
  | throw e => exact walks_throw e
  | bind _ _ ih ihnext => exact ih.bind (caller.stable_meets _) ihnext
  | tryCatch _ _ ih ihhandler => exact ih.tryCatch (caller.stable_meets _) ihhandler
  | connection_bind _ ih => exact walks_connection_bind (fun _ h => h.uses) ih
  | gate _ ih => exact walks_capabilities_bind ih
  | capabilities => exact walks_capabilities
  | changeSetting text h => exact fun _ _ _ => .single (.setting text h)
  | setReadOnly h => exact fun _ _ _ => .single (.mode h)
  | takesAll body options => exact fun _ _ _ => .refl
  | dispatch options h => exact walks_dispatch options h
  | createDatabaseUnprobed =>
    refine walks_connection.bind caller.stable_knows fun c => ?_
    refine walks_existenceStatement (c := 'C') ?_ (by decide) true
    simp only [String.toList_append]
    rfl
  | dropDatabaseUnprobed =>
    refine walks_connection.bind caller.stable_knows fun c => ?_
    refine walks_existenceStatement (c := 'D') ?_ (by decide) false
    simp only [String.toList_append]
    rfl

/-- What is made of parts of the client, with leave for all of them, keeps requests and
configuration. -/
theorem Composed.keeps {action : Action α} (h : ∀ database, Composed { database } false action) :
    action.Keeps := by
  intro transport client
  have hpath := (h client.connection.config.database).walks transport client rfl
  exact ⟨hpath.isPrefix_sent, hpath.config_eq⟩

/-! ### Ways to put parts together -/

theorem composed_ofResult (r : Result α) : Composed caller isKnown (ofResult r) := by
  cases r with
  | ok a => exact .pure a
  | error e => exact .throw e

/-- The value of a result that is there is known to what follows. -/
theorem composed_ofResult_bind {r : Result α} {next : α → Action β}
    (h : ∀ a, r = .ok a → Composed caller isKnown (next a)) :
    Composed caller isKnown (ofResult r >>= next) := by
  cases r with
  | error e => exact .throw e
  | ok a => exact h a rfl

theorem composed_forM {f : α → Action Unit} {l : List α}
    (h : ∀ a ∈ l, Composed caller isKnown (f a)) : Composed caller isKnown (l.forM f) := by
  induction l with
  | nil => exact .pure ()
  | cons a l ih =>
    exact (h a List.mem_cons_self).bind fun _ => ih fun x hx => h x (List.mem_cons_of_mem a hx)

theorem composed_init : Composed caller isKnown init :=
  Composed.capabilities.bind fun _ => .pure ()

/-- What stands behind the probe runs with a known server. -/
theorem composed_init_bind {next : Unit → Action α} (h : Composed caller true (next ())) :
    Composed caller false (init >>= next) := by
  have hgate : init >>= next = capabilities >>= fun _ => next () := bind_map_left _ _ _
  rw [hgate]
  exact .gate fun _ => h

theorem composed_dispatchText {statement : String} (options : Options)
    (h : caller.Allows (.ofText statement)) :
    Composed caller true (dispatchText statement options) :=
  (Composed.dispatch options h).bind fun _ => composed_ofResult _

/-- A statement with another first letter than the questions have can be sent. -/
theorem composed_statement {statement : String} {c : Char} (options : Options)
    (h : statement.toList.head? = some c) (hc : c ≠ 'S') :
    Composed caller true (dispatchText statement options) :=
  composed_dispatchText options (Caller.allows_of_head? h hc)

/-! ### Statements -/

theorem composed_raw {statement : String} (options : Options)
    (h : caller.Allows (.ofText (Placeholder.fill caller.database none statement))) :
    Composed caller false (raw statement options) := by
  refine .connection_bind fun c hc => ?_
  rw [← hc] at h
  exact composed_init_bind (composed_dispatchText options h)

theorem composed_raw_of_head? {statement : String} {c : Char} (options : Options)
    (h : statement.toList.head? = some c) (hS : c ≠ 'S') (hdollar : c ≠ '$') :
    Composed caller false (raw statement options) :=
  composed_raw options (Caller.allows_of_head? (Placeholder.head?_fill h hdollar) hS)

theorem composed_createTable (schema : Schema) : Composed caller false (createTable schema) := by
  refine (composed_ofResult _).bind fun engine => .gate fun server => ?_
  refine .connection_bind fun c _ => composed_ofResult_bind fun text htext => ?_
  refine Composed.bind (composed_statement (c := 'C') {} ?_ (by decide)) fun _ => .pure ()
  obtain ⟨engine, -, htext⟩ := bind_eq_ok htext
  obtain rfl := Except.ok.inj htext
  simp only [String.toList_append]
  rfl

theorem composed_dropTable (schema : Schema) : Composed caller false (dropTable schema) := by
  refine .connection_bind fun c _ => composed_ofResult_bind fun text htext => ?_
  refine composed_init_bind ?_
  refine Composed.bind (composed_statement (c := 'D') {} ?_ (by decide)) fun _ => .pure ()
  obtain ⟨_, -, htext⟩ := bind_eq_ok htext
  obtain rfl := Except.ok.inj htext
  simp only [String.toList_append]
  rfl

theorem composed_tableExists (schema : Schema) : Composed caller false (tableExists schema) := by
  refine composed_init_bind (.connection_bind fun c _ => ?_)
  refine (composed_dispatchText {} ?_).bind fun _ => .pure _
  refine Caller.allows_ofText fun question hquestion => ?_
  rintro rfl
  have hchars := (Question.chars hquestion).2.1
  simp only [String.toList_append, List.append_assoc] at hchars
  rw [List.getElem?_append_left (by decide), List.getElem?_append_left (by decide)] at hchars
  exact absurd (hchars rfl) (by decide)

theorem composed_describe (table : String) (isSystem : Bool) :
    Composed caller false (describe table isSystem) := by
  refine composed_init_bind (.connection_bind fun c _ => ?_)
  refine Composed.bind (composed_statement (c := 'D') {} ?_ (by decide)) fun _ =>
    (composed_ofResult _).bind fun _ => .pure _
  simp only [String.toList_append]
  rfl

/-! ### Queries -/

theorem composed_count (schema : Schema) (condition : Option Condition) :
    Composed caller false (count schema condition) := by
  refine (composed_ofResult _).bind fun restriction => .connection_bind fun c _ => ?_
  refine composed_init_bind ((composed_dispatchText {} ?_).bind fun _ => composed_ofResult _)
  refine Caller.allows_ofText fun question hquestion => ?_
  rintro rfl
  have hchar := (Question.chars hquestion).2.2.1
  have hfront : '$' ∉ "SELECT count() FROM ".toList := by decide
  have hstatement : ("SELECT count() FROM $table" ++ restriction).toList
      = "SELECT count() FROM ".toList ++ '$' :: ("table".toList ++ restriction.toList) := by
    simp only [String.toList_append]
    rfl
  obtain ⟨d, hd, hhead⟩ := Placeholder.head?_fillChars_dollar c.config.database (some schema)
    ("table".toList ++ restriction.toList)
  have hlength : "SELECT count() FROM ".toList.length = 20 := rfl
  rw [Connection.fill, Placeholder.fill, String.toList_ofList, hstatement,
    Placeholder.fillChars_append hfront, List.getElem?_append_right (by rw [hlength]), hlength,
    Nat.sub_self, ← List.head?_eq_getElem?, hhead] at hchar
  simp only [List.mem_cons, List.not_mem_nil, or_false] at hd
  rcases hd with rfl | rfl <;> exact absurd hchar (by decide)

theorem composed_select [Clocks] (query : String) (schema : Option Schema) (options : Options) :
    Composed caller false (select query schema options) := by
  refine .connection_bind fun c _ => .gate fun server => ?_
  refine (Composed.dispatch options ?_).bind fun response => composed_ofResult _
  refine Caller.allows_ofText fun question hquestion => ?_
  rintro rfl
  have hlast := (Question.chars hquestion).2.2.2
  have hstatement : (query ++ " FORMAT TabSeparatedWithNamesAndTypes").toList
      = query.toList ++ ' ' :: "FORMAT TabSeparatedWithNamesAndTypes".toList := by
    rw [String.toList_append]
    rfl
  obtain ⟨front, hfront⟩ := Placeholder.exists_fillChars_append c.config.database schema
    (t := "FORMAT TabSeparatedWithNamesAndTypes".toList) (by decide) query.toList
  rw [Connection.fill, Placeholder.fill, String.toList_ofList, hstatement, hfront,
    List.getLast?_append] at hlast
  exact hlast rfl

theorem composed_paginate [Clocks] (schema : Schema) (orderBy : String) (number : Int) (size : Nat)
    (condition : Option Condition) (options : Options) :
    Composed caller false (paginate schema orderBy number size condition options) := by
  refine (composed_ofResult _).bind fun _ => (composed_count schema condition).bind fun count => ?_
  dsimp only
  split
  · exact .pure _
  · exact (composed_ofResult _).bind fun _ => (composed_select _ _ options).bind fun _ =>
      (composed_ofResult _).bind fun _ => .pure _

/-! ### Inserts -/

/-- The chunks of an insert are no question: the first one begins with the header, or is an
error. -/
theorem allows_drain {b : Batches} {c : Char} (hheader : b.header.toList.head? = some c)
    (hc : c ≠ 'S') : caller.Allows b.drain.1 := by
  rintro ⟨question, hquestion, hbody⟩
  have hchars := (Question.chars hquestion).1
  exfalso
  cases hnext : b.next with
  | mk chunk b' =>
    cases chunk with
    | none =>
      rw [Batches.drain_of_next_none hnext] at hbody
      exact absurd hbody (by simp [Body.ofText])
    | some chunk =>
      rw [Batches.drain_of_next_some hnext] at hbody
      obtain ⟨rfl, -⟩ := List.cons.inj hbody
      rw [Batches.next] at hnext
      split at hnext
      · exact absurd (Prod.ext_iff.1 hnext).1 (by simp)
      split at hnext
      · next lines records _ =>
        have hbytes := Except.ok.inj (Option.some.inj (Prod.ext_iff.1 hnext).1)
        obtain ⟨tail, htail⟩ := List.head?_eq_some_iff.1 hheader
        rw [← Text.encodeUtf8_inj hbytes, String.toList_append, htail] at hchars
        exact hc (Option.some.inj hchars)
      · exact absurd (Prod.ext_iff.1 hnext).1 (by simp)

theorem composed_sendBatches {batches : Batches} (options : Options)
    (h : caller.Allows batches.drain.1) :
    Composed caller true (sendBatches batches options) := by
  have hsending : Composed caller true (do
      let response ← dispatch batches.drain.1 options
      let _ ← ofResult response.body.drain
      pure () : Action Unit) :=
    (Composed.dispatch options h).bind fun _ => (composed_ofResult _).bind fun _ => .pure ()
  refine (Composed.takesAll _ options).bind fun takesAll => ?_
  dsimp only
  split
  · exact hsending
  · exact (hsending.tryCatch fun _ => .pure ()).bind fun _ => .throw _

theorem composed_insertWith (records : List Row) (size : Nat) (options : Options) :
    Composed caller false (insertWith records size options) := by
  unfold insertWith
  split
  · exact .throw _
  next hsize =>
  split
  · exact .pure ()
  next first others =>
  have hsend : Composed caller false (do
      let header := (← connection).fill (some first.schema) first.schema.insertHeader
      init
      sendBatches { schema := first.schema, header, records := first :: others, size,
                    size_ne_zero := hsize } options) := by
    refine .connection_bind fun c _ => composed_init_bind ?_
    have hheader : first.schema.insertHeader.toList.head? = some 'I' :=
      Text.head?_append (Text.head?_append (Text.head?_append (Text.head?_append (by decide) _) _)
        _) _
    have hfilled : (c.fill (some first.schema) first.schema.insertHeader).toList.head? = some 'I' :=
      Placeholder.head?_fill hheader (by decide)
    exact composed_sendBatches options (allows_drain (c := 'I') hfilled (by decide))
  dsimp only
  split
  · exact (Composed.throw _).bind fun _ => hsend
  · exact hsend

/-! ### Migrations -/

theorem composed_insertHistory (records : List HistoryRecord) :
    Composed caller false (insertHistory records) :=
  composed_insertWith (records.map HistoryRecord.row) defaultBatchSize {}

theorem composed_liveColumns (schema : Schema) : Composed caller false (liveColumns schema) := by
  refine .connection_bind fun c _ => ?_
  have hquery : (c.fill (some schema) "DESCRIBE TABLE $table FORMAT TSV").toList.head? = some 'D' :=
    Placeholder.head?_fill (by decide) (by decide)
  exact (composed_raw_of_head? {} hquery (by decide) (by decide)).bind fun _ => composed_ofResult _

theorem composed_alterTable (schema : Schema) : Composed caller false (alterTable schema) := by
  refine (composed_ofResult _).bind fun _ => Composed.capabilities.bind fun server => ?_
  refine (composed_liveColumns schema).bind fun live => ?_
  refine .connection_bind fun c _ => composed_forM fun statement hstatement => ?_
  obtain ⟨change, -, rfl⟩ := List.mem_map.1 hstatement
  have hchange : (change.statement server).toList.head? = some 'A' := by
    have happend : (change.statement server).toList
        = "ALTER TABLE $table ".toList ++ (change.clause server).toList := String.toList_append
    rw [happend]
    rfl
  have hfilled : (Placeholder.fill c.config.database (some schema)
      (change.statement server)).toList.head? = some 'A' :=
    Placeholder.head?_fill hchange (by decide)
  exact (composed_raw_of_head? {} hfilled (by decide) (by decide)).bind fun _ => .pure ()

theorem composed_appliedMigrations [Clocks] (package : String) :
    Composed caller false (appliedMigrations package) := by
  refine (composed_createTable _).bind fun _ => ?_
  refine Composed.bind ((composed_select _ _ {}).bind fun _ => .pure _) fun _ => ?_
  exact (composed_ofResult _).bind fun _ => .pure _

theorem composed_applyMigrations (package : String) (today : Calendar.Date) (bound : Nat) :
    ∀ {pending : List Migration},
      (∀ m ∈ pending, ∀ o ∈ m.operations, Composed caller false o.apply) →
      Composed caller false (applyMigrations package today bound pending)
  | [], _ => .pure []
  | m :: rest, h => by
    have ih := composed_applyMigrations package today bound
      fun x hx => h x (List.mem_cons_of_mem m hx)
    have hoperations : Composed caller false (applyOperations m) := composed_forM fun o ho =>
      (h m List.mem_cons_self o ho).tryCatch fun _ => .throw _
    refine hoperations.bind fun _ => (composed_insertHistory _).bind fun _ => ?_
    split
    · exact .pure _
    · exact ih.bind fun _ => .pure _

theorem composed_migrate [Clocks] {p : Package} (today : Calendar.Date) (bound : Nat)
    (h : ∀ m ∈ p.migrations, ∀ o ∈ m.operations, Composed caller false o.apply) :
    Composed caller false (migrate p today bound) := by
  refine (composed_ofResult _).bind fun _ => (composed_appliedMigrations _).bind fun applied => ?_
  refine composed_applyMigrations _ today bound fun m hm => h m ?_
  rw [Package.pending, List.mem_mergeSort] at hm
  exact List.mem_of_mem_filter hm

end Action

end Columnar
