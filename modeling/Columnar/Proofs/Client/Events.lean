import Columnar.Proofs.Client.Composed
import Columnar.Proofs.Client.FailedInit
import Columnar.Proofs.Settings

/-!
What happens to a connection, event by event.

The events of an action are read off what it runs and off the replies it gets: a setting is changed,
the question whether the database exists is answered, the database is created or dropped (`Logs`).
A statement that a caller hands over is no event, whatever it says. The connection behind the action
is the one before it with these events (`Logs.records`), and every action made of parts of the
client has events (`Composed.exists_logs`).
-/

namespace Columnar

/-! ### Events -/

/-- What changes the settings of a connection, or what it knows of its database. -/
inductive Event where
  /-- A setting is given a text, or taken out. -/
  | setting (name : String) (text : Option String)
  /-- The server has said whether the database exists. -/
  | found (databaseExists : Bool)
  /-- The database has been created. -/
  | created
  /-- The database has been dropped. -/
  | dropped
  deriving DecidableEq, Repr

namespace Event

variable {γ : Type}

/-- Whether the event leaves a database; nothing for the events that are not about it. -/
def existence? : Event → Option Bool
  | setting _ _ => none
  | found databaseExists => some databaseExists
  | created => some true
  | dropped => some false

/-- The text that the event leaves a setting with; nothing for those that are not about it. -/
def text? (name : String) : Event → Option (Option String)
  | setting other text => if other = name then some text else none
  | _ => none

/-- What the latest event says that is about something. -/
def latest? (about? : Event → Option γ) (events : List Event) : Option γ :=
  events.reverse.findSome? about?

@[simp] theorem latest?_singleton (about? : Event → Option γ) (e : Event) :
    latest? about? [e] = about? e := by
  cases h : about? e <;> simp [latest?, h]

theorem latest?_append (about? : Event → Option γ) (events more : List Event) :
    latest? about? (events ++ more) = (latest? about? more).or (latest? about? events) := by
  rw [latest?, List.reverse_append, List.findSome?_append, latest?, latest?]

/-- What is known of the database behind the events. -/
def databaseAfter (events : List Event) (before : Bool) : Bool :=
  (latest? existence? events).getD before

/-- The text of a setting behind the events. -/
def settingAfter (name : String) (events : List Event) (before : Option String) : Option String :=
  (latest? (text? name) events).getD before

theorem databaseAfter_append (events more : List Event) (before : Bool) :
    databaseAfter (events ++ more) before = databaseAfter more (databaseAfter events before) := by
  rw [databaseAfter, latest?_append, databaseAfter, databaseAfter]
  cases latest? existence? more <;> rfl

theorem settingAfter_append (name : String) (events more : List Event) (before : Option String) :
    settingAfter name (events ++ more) before
      = settingAfter name more (settingAfter name events before) := by
  rw [settingAfter, latest?_append, settingAfter, settingAfter]
  cases latest? (text? name) more <;> rfl

end Event

open Event (databaseAfter settingAfter)

/-- The connection with the events. -/
structure Connection.Records (events : List Event) (c after : Connection) : Prop where
  config : after.config = c.config
  databaseExists : after.databaseExists = databaseAfter events c.databaseExists
  settings : ∀ name, after.settings.get? name = settingAfter name events (c.settings.get? name)
  sorted : c.settings.Sorted → after.settings.Sorted

namespace Connection.Records

variable {events more : List Event} {c between after : Connection}

theorem refl (c : Connection) : Records [] c c :=
  ⟨rfl, rfl, fun _ => rfl, id⟩

theorem trans (h : Records events c between) (h' : Records more between after) :
    Records (events ++ more) c after where
  config := h'.config.trans h.config
  databaseExists := by rw [h'.databaseExists, h.databaseExists, Event.databaseAfter_append]
  settings name := by rw [h'.settings, h.settings, Event.settingAfter_append]
  sorted hsorted := h'.sorted (h.sorted hsorted)

/-- Events that are about the database alone leave the settings. -/
theorem of_settings_eq (hconfig : after.config = c.config) (hsettings : after.settings = c.settings)
    (hevents : ∀ name, Event.latest? (Event.text? name) events = none)
    (hdatabase : after.databaseExists = databaseAfter events c.databaseExists) :
    Records events c after where
  config := hconfig
  databaseExists := hdatabase
  settings name := by rw [hsettings, settingAfter, hevents, Option.getD_none]
  sorted hsorted := hsettings ▸ hsorted

end Connection.Records

theorem Connection.records_withSetting (c : Connection) (name : String) (text : Option String) :
    Records [.setting name text] c (c.withSetting name text) where
  config := rfl
  databaseExists := rfl
  settings key := by
    rw [settingAfter, Event.latest?_singleton, Event.text?]
    cases text with
    | none =>
      rw [withSetting, Settings.get?_unset]
      by_cases h : key = name <;> simp [h, Ne.symm]
    | some text =>
      rw [withSetting, Settings.get?_set]
      by_cases h : key = name <;> simp [h, Ne.symm]
  sorted hsorted := by
    cases text with
    | none => exact hsorted.unset name
    | some text => exact hsorted.set name text

/-! ### Events of requests -/

/-- The event of a statement, if it succeeds. -/
def Event.ifOk (e : Event) : Result String → List Event
  | .ok _ => [e]
  | .error _ => []

/-- The statement that drops the database of a configuration. -/
def Config.dropStatement (config : Config) : String :=
  "DROP DATABASE " ++ backquoted config.database

namespace Client

variable (client : Client) (transport : Transport)

/-- The events of the statement that creates the database. -/
def creationEvents : List Event :=
  Event.created.ifOk (client.reply transport (Question.creation client.connection.config))

/-- The events of the statement that drops the database. -/
def dropEvents : List Event :=
  Event.dropped.ifOk (client.reply transport client.connection.config.dropStatement)

/-- The events of the probe: the answer whether the database exists, and where one that is missing
is to be created, those of the statement that creates it. -/
def probeEvents : List Event :=
  match client.reply transport (Question.existence client.connection.config.database) with
  | .error _ => []
  | .ok text =>
    if Text.trimText text = "1" then [.found true]
    else if client.connection.config.autoCreate && !client.connection.config.isReadOnly then
      .found false :: (client.informed false).creationEvents transport
    else [.found false]

/-- A server that is known is not probed. -/
def gateEvents : List Event :=
  if client.connection.capabilities.isSome then [] else client.probeEvents transport

end Client

namespace Action

variable {α β : Type} {transport : Transport} {client after : Client} {events more : List Event}

/-- The events of an action that a client runs. -/
inductive Logs (transport : Transport) : {α : Type} → Action α → Client → List Event → Prop
  | pure {α : Type} (a : α) (client : Client) : Logs transport (pure a : Action α) client []
  | throw {α : Type} (e : ClientError) (client : Client) :
      Logs transport (throw e : Action α) client []
  | bind_ok {α β : Type} {action : Action α} {next : α → Action β} {a : α} {client between : Client}
      {events more : List Event} (hrun : action.run transport client = (.ok a, between))
      (h : Logs transport action client events) (hnext : Logs transport (next a) between more) :
      Logs transport (action >>= next) client (events ++ more)
  | bind_error {α β : Type} {action : Action α} {next : α → Action β} {e : ClientError}
      {client between : Client} {events : List Event}
      (hrun : action.run transport client = (.error e, between))
      (h : Logs transport action client events) : Logs transport (action >>= next) client events
  | tryCatch_ok {α : Type} {action : Action α} {handler : ClientError → Action α} {a : α}
      {client between : Client} {events : List Event}
      (hrun : action.run transport client = (.ok a, between))
      (h : Logs transport action client events) :
      Logs transport (MonadExcept.tryCatch action handler) client events
  | tryCatch_error {α : Type} {action : Action α} {handler : ClientError → Action α}
      {e : ClientError} {client between : Client} {events more : List Event}
      (hrun : action.run transport client = (.error e, between))
      (h : Logs transport action client events)
      (hhandler : Logs transport (handler e) between more) :
      Logs transport (MonadExcept.tryCatch action handler) client (events ++ more)
  | connection (client : Client) : Logs transport connection client []
  | changeSetting (name : String) (text : Option String) (client : Client) :
      Logs transport (changeSetting name text) client [.setting name text]
  | setReadOnly (isReadOnly : Bool) (client : Client) :
      Logs transport (setReadOnly isReadOnly) client []
  | takesAll (body : Body) (options : Options) (client : Client) :
      Logs transport (takesAll body options) client []
  | dispatch (body : Body) (options : Options) (client : Client) :
      Logs transport (dispatch body options) client []
  | capabilities (client : Client) :
      Logs transport capabilities client (client.gateEvents transport)
  | createDatabase (client : Client) :
      Logs transport createDatabaseUnprobed client (client.creationEvents transport)
  | dropDatabase (client : Client) :
      Logs transport dropDatabaseUnprobed client (client.dropEvents transport)

/-- Every action made of parts of the client has events. -/
theorem Composed.exists_logs {caller : Caller} {isKnown : Bool} {action : Action α}
    (h : Composed caller isKnown action) (transport : Transport) {client : Client}
    (hclient : caller.Meets isKnown client) : ∃ events, Logs transport action client events := by
  induction h generalizing client with
  | pure a => exact ⟨[], .pure a client⟩
  | throw e => exact ⟨[], .throw e client⟩
  | @bind isKnown _ _ action _ h _ ih ihnext =>
    obtain ⟨events, hevents⟩ := ih hclient
    have hafter := caller.stable_meets isKnown (h.walks transport client hclient) hclient
    rcases hrun : action.run transport client with ⟨e | a, between⟩
    · exact ⟨events, .bind_error hrun hevents⟩
    · rw [hrun] at hafter
      obtain ⟨more, hmore⟩ := ihnext a hafter
      exact ⟨events ++ more, .bind_ok hrun hevents hmore⟩
  | @tryCatch isKnown _ action _ h _ ih ihhandler =>
    obtain ⟨events, hevents⟩ := ih hclient
    have hafter := caller.stable_meets isKnown (h.walks transport client hclient) hclient
    rcases hrun : action.run transport client with ⟨e | a, between⟩
    · rw [hrun] at hafter
      obtain ⟨more, hmore⟩ := ihhandler e hafter
      exact ⟨events ++ more, .tryCatch_error hrun hevents hmore⟩
    · exact ⟨events, .tryCatch_ok hrun hevents⟩
  | connection_bind _ ih =>
    obtain ⟨events, hevents⟩ := ih client.connection hclient.uses hclient
    exact ⟨[] ++ events, .bind_ok run_connection (.connection client) hevents⟩
  | gate _ ih =>
    rcases hrun : Action.capabilities.run transport client with ⟨e | server, between⟩
    · exact ⟨_, .bind_error hrun (.capabilities client)⟩
    · obtain ⟨more, hmore⟩ := ih server (knows_of_capabilities hclient hrun)
      exact ⟨_ ++ more, .bind_ok hrun (.capabilities client) hmore⟩
  | capabilities => exact ⟨_, .capabilities client⟩
  | changeSetting text _ => exact ⟨_, .changeSetting _ text client⟩
  | setReadOnly _ => exact ⟨[], .setReadOnly _ client⟩
  | takesAll body options => exact ⟨[], .takesAll body options client⟩
  | dispatch options _ => exact ⟨[], .dispatch _ options client⟩
  | createDatabaseUnprobed => exact ⟨_, .createDatabase client⟩
  | dropDatabaseUnprobed => exact ⟨_, .dropDatabase client⟩

/-! ### The connection behind the events -/

theorem run_dropDatabaseUnprobed :
    dropDatabaseUnprobed.run transport client =
      match client.reply transport client.connection.config.dropStatement with
      | .ok _ => (.ok (), { client.sending client.connection.config.dropStatement with
          connection := { client.connection with databaseExists := false } })
      | .error e => (.error e, client.sending client.connection.config.dropStatement) := by
  have hdrop : dropDatabaseUnprobed.run transport client
      = (dispatchText client.connection.config.dropStatement {} >>= fun _ =>
          changeConnection fun c => { c with databaseExists := false }).run transport client := rfl
  rw [hdrop, run_bind, run_dispatchText, Client.reply]
  cases replyText (transport client.sent (request client.connection
    (.ofText client.connection.config.dropStatement) {})) <;> rfl

theorem records_createDatabaseUnprobed (transport : Transport) (client : Client) :
    client.connection.Records (client.creationEvents transport)
      (createDatabaseUnprobed.run transport client).2.connection := by
  rw [run_createDatabaseUnprobed, Client.creationEvents]
  cases client.reply transport (Question.creation client.connection.config) with
  | ok text => exact .of_settings_eq rfl rfl (fun _ => rfl) rfl
  | error e => exact .refl _

theorem records_dropDatabaseUnprobed (transport : Transport) (client : Client) :
    client.connection.Records (client.dropEvents transport)
      (dropDatabaseUnprobed.run transport client).2.connection := by
  rw [run_dropDatabaseUnprobed, Client.dropEvents]
  cases client.reply transport client.connection.config.dropStatement with
  | ok text => exact .of_settings_eq rfl rfl (fun _ => rfl) rfl
  | error e => exact .refl _

/-- The events of the probe say what it learns of the database, and nothing of settings. -/
theorem latest?_probeEvents (transport : Transport) (client : Client) :
    Event.latest? Event.existence? (client.probeEvents transport)
        = (client.learnt transport).databaseExists ∧
      ∀ name, Event.latest? (Event.text? name) (client.probeEvents transport) = none := by
  rw [Client.probeEvents, Client.learnt]
  cases client.reply transport (Question.existence client.connection.config.database) with
  | error e => exact ⟨rfl, fun _ => rfl⟩
  | ok text =>
    by_cases hfound : Text.trimText text = "1"
    · simp only [hfound, if_true, decide_true, Client.learntOfAccess]
      refine ⟨?_, fun _ => rfl⟩
      split
      · split <;> rfl
      · rfl
    · simp only [hfound, if_false, decide_false, Client.learntOfAccess]
      split
      · rw [Client.creationEvents, Client.config_informed]
        cases (client.informed false).reply transport
            (Question.creation client.connection.config) with
        | ok text => exact ⟨rfl, fun _ => rfl⟩
        | error e => exact ⟨rfl, fun _ => rfl⟩
      · exact ⟨rfl, fun _ => rfl⟩

theorem records_probe (transport : Transport) (client : Client) :
    client.connection.Records (client.probeEvents transport)
      (probe.run transport client).2.connection := by
  obtain ⟨hexistence, htext⟩ := latest?_probeEvents transport client
  rw [connection_probe]
  refine .of_settings_eq rfl rfl htext ?_
  rw [databaseAfter, hexistence]
  rfl

theorem records_capabilities (transport : Transport) (client : Client) :
    client.connection.Records (client.gateEvents transport)
      (capabilities.run transport client).2.connection := by
  rw [Client.gateEvents]
  cases hserver : client.connection.capabilities with
  | some server =>
    rw [run_capabilities hserver]
    exact .refl _
  | none =>
    have hprobe := records_probe transport client
    have hsame : (capabilities.run transport client).2 = (init.run transport client).2 := by
      have hmap : init = (fun _ => ()) <$> capabilities := rfl
      rw [hmap, run_map]
    rw [hsame, run_init_unknown hserver]
    rcases hrun : probe.run transport client with ⟨e | server, between⟩
    · rw [hrun] at hprobe
      exact hprobe
    · rw [hrun] at hprobe
      exact ⟨hprobe.config, hprobe.databaseExists, hprobe.settings, hprobe.sorted⟩

/-- The connection behind an action is the one before it with the events of the action. -/
theorem Logs.records {action : Action α} (h : Logs transport action client events) :
    client.connection.Records events (action.run transport client).2.connection := by
  induction h with
  | pure a client => exact .refl _
  | throw e client => exact .refl _
  | bind_ok hrun _ _ ih ihnext =>
    rw [hrun] at ih
    rw [run_bind, hrun]
    exact ih.trans ihnext
  | bind_error hrun _ ih =>
    rw [hrun] at ih
    rw [run_bind, hrun]
    exact ih
  | @tryCatch_ok _ action handler _ client _ _ hrun _ ih =>
    have htry : (MonadExcept.tryCatch action handler).run transport client = _ :=
      run_tryCatch action handler
    rw [htry, hrun]
    rwa [hrun] at ih
  | @tryCatch_error _ action handler _ client _ _ _ hrun _ _ ih ihhandler =>
    have htry : (MonadExcept.tryCatch action handler).run transport client = _ :=
      run_tryCatch action handler
    rw [htry, hrun]
    rw [hrun] at ih
    exact ih.trans ihhandler
  | connection client => exact .refl _
  | changeSetting name text client => exact client.connection.records_withSetting name text
  | setReadOnly isReadOnly client => exact .of_settings_eq rfl rfl (fun _ => rfl) rfl
  | takesAll body options client => exact .refl _
  | dispatch body options client =>
    rw [run_dispatch]
    exact .refl _
  | capabilities client => exact records_capabilities transport client
  | createDatabase client => exact records_createDatabaseUnprobed transport client
  | dropDatabase client => exact records_dropDatabaseUnprobed transport client

end Action

end Columnar
