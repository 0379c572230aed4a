import Columnar.Proofs.Client.Keeps
import Columnar.Proofs.Client.Rows
import Mathlib.Logic.Relation

/-!
The steps of a client.

Whatever a caller does, few kinds of things happen to the client (`Step`): the caller changes a
setting or the mode, a probe runs where the server is not known, and where it is known a request
goes out or the database comes or goes. An action walks if it is a path of such steps. What stands
behind the gate of `capabilities` may send requests, since the server is known there
(`walks_capabilities_bind`).
-/

namespace Columnar

/-! ### Callers -/

namespace Question

/-- Whether the database exists. -/
def existence (database : String) : String :=
  "SELECT count() FROM system.databases WHERE name = " ++ Tsv.quote database

/-- Whether the server lets the connection only read. -/
def readOnly : String := "SELECT value FROM system.settings WHERE name = 'readonly'"

/-- Which version the server has. -/
def version : String := "SELECT version();"

/-- In which time zone the server works. -/
def zone : String := "SELECT timezone()"

/-- The questions of the probe. -/
def all (database : String) : List String :=
  [existence database, readOnly, version, zone]

end Question

/-- What a caller of a client for a database does of its own accord. -/
structure Caller where
  database : String
  /-- The bodies that it hands over to be sent as they are. -/
  sends : Body → Prop := fun _ => True
  /-- The names of the settings that it changes. -/
  changes : String → Prop := fun _ => True
  /-- The modes that it asks for: reading only, or not. -/
  asks : Bool → Prop := fun _ => True

/-- The body is no question of the probe, unless the caller hands it over. -/
def Caller.Allows (caller : Caller) (body : Body) : Prop :=
  (∃ question ∈ Question.all caller.database, body = .ofText question) → caller.sends body

/-! ### Steps -/

open Columnar.Action

variable {caller : Caller} {transport : Transport}

/-- What can happen to a client. -/
inductive Step (caller : Caller) (transport : Transport) : Client → Client → Prop
  /-- The caller changes a setting. -/
  | setting {client : Client} {name : String} (text : Option String) (h : caller.changes name) :
      Step caller transport client
        { client with connection := client.connection.withSetting name text }
  /-- The caller asks for a mode. -/
  | mode {client : Client} {isReadOnly : Bool} (h : caller.asks isReadOnly) :
      Step caller transport client
        { client with connection := { client.connection with isReadOnly } }
  /-- A probe of a server that is not known fails. -/
  | failed {client after : Client} {e : ClientError}
      (hunknown : client.connection.capabilities = none)
      (hprobe : probe.run transport client = (.error e, after)) :
      Step caller transport client after
  /-- A probe of a server that is not known succeeds. -/
  | probed {client after : Client} {server : Capabilities}
      (hunknown : client.connection.capabilities = none)
      (hprobe : probe.run transport client = (.ok server, after)) :
      Step caller transport client
        { after with connection := { after.connection with capabilities := some server } }
  /-- A request goes to a known server. -/
  | statement {client : Client} {server : Capabilities}
      (hknown : client.connection.capabilities = some server) {body : Body} (options : Options)
      (h : caller.Allows body) :
      Step caller transport client
        { client with sent := client.sent ++ [request client.connection body options] }
  /-- On a known server the database has been created or dropped. -/
  | existence {client : Client} {server : Capabilities}
      (hknown : client.connection.capabilities = some server) (databaseExists : Bool) :
      Step caller transport client
        { client with connection := { client.connection with databaseExists } }

/-- Steps one after another. -/
abbrev Path (caller : Caller) (transport : Transport) : Client → Client → Prop :=
  Relation.ReflTransGen (Step caller transport)

/-- No step changes the configuration. -/
theorem Step.config_eq {client after : Client} (h : Step caller transport client after) :
    after.connection.config = client.connection.config := by
  cases h with
  | setting | mode | statement | existence => rfl
  | failed hunknown hprobe =>
    have hkeeps := (keeps_probe transport client).2
    rwa [hprobe] at hkeeps
  | probed hunknown hprobe =>
    have hkeeps := (keeps_probe transport client).2
    rwa [hprobe] at hkeeps

/-- A step only adds requests. -/
theorem Step.isPrefix_sent {client after : Client} (h : Step caller transport client after) :
    client.sent <+: after.sent := by
  cases h with
  | setting | mode | existence => exact List.prefix_refl _
  | statement => exact List.prefix_append _ _
  | failed hunknown hprobe =>
    have hkeeps := (keeps_probe transport client).1
    rwa [hprobe] at hkeeps
  | probed hunknown hprobe =>
    have hkeeps := (keeps_probe transport client).1
    rwa [hprobe] at hkeeps

/-- A known server stays known as it is. -/
theorem Step.known {client after : Client} {server : Capabilities}
    (h : Step caller transport client after)
    (hknown : client.connection.capabilities = some server) :
    after.connection.capabilities = some server := by
  cases h with
  | setting | mode | statement | existence => exact hknown
  | failed hunknown => exact absurd (hknown.symm.trans hunknown) (by simp)
  | probed hunknown => exact absurd (hknown.symm.trans hunknown) (by simp)

theorem Path.config_eq {client after : Client} (h : Path caller transport client after) :
    after.connection.config = client.connection.config := by
  induction h with
  | refl => rfl
  | tail _ hstep ih => rw [hstep.config_eq, ih]

theorem Path.isPrefix_sent {client after : Client} (h : Path caller transport client after) :
    client.sent <+: after.sent := by
  induction h with
  | refl => exact List.prefix_refl _
  | tail _ hstep ih => exact ih.trans hstep.isPrefix_sent

theorem Path.known {client after : Client} {server : Capabilities}
    (h : Path caller transport client after)
    (hknown : client.connection.capabilities = some server) :
    after.connection.capabilities = some server := by
  induction h with
  | refl => exact hknown
  | tail _ hstep ih => exact hstep.known ih

/-! ### Actions as paths -/

/-- A client that the caller can use. -/
def Caller.Uses (caller : Caller) (client : Client) : Prop :=
  client.connection.config.database = caller.database

/-- A client that the caller can use, and whose server is known. -/
def Caller.Knows (caller : Caller) (client : Client) : Prop :=
  caller.Uses client ∧ ∃ server, client.connection.capabilities = some server

/-- What holds of a client also holds of it after any steps. -/
def Caller.Stable (caller : Caller) (P : Client → Prop) : Prop :=
  ∀ {transport client after}, Path caller transport client after → P client → P after

theorem Caller.stable_uses (caller : Caller) : caller.Stable caller.Uses :=
  fun h huses => (congrArg Config.database h.config_eq).trans huses

theorem Caller.stable_knows (caller : Caller) : caller.Stable caller.Knows :=
  fun h ⟨huses, server, hknown⟩ => ⟨caller.stable_uses h huses, server, h.known hknown⟩

namespace Action

variable {α β : Type} {P : Client → Prop}

/-- From clients that meet a condition, the action is a path of steps. -/
def Walks (caller : Caller) (P : Client → Prop) (action : Action α) : Prop :=
  ∀ transport client, P client → Path caller transport client (action.run transport client).2

/-! ### Ways to build actions -/

theorem walks_pure (a : α) : Walks caller P (pure a : Action α) :=
  fun _ _ _ => .refl

theorem walks_throw (e : ClientError) : Walks caller P (throw e : Action α) :=
  fun _ _ _ => .refl

theorem walks_connection : Walks caller P connection :=
  fun _ _ _ => .refl

theorem Walks.bind (hP : caller.Stable P) {action : Action α} {next : α → Action β}
    (h : Walks caller P action) (hnext : ∀ a, Walks caller P (next a)) :
    Walks caller P (action >>= next) := by
  intro transport client hclient
  have hpath := h transport client hclient
  rw [run_bind]
  cases hrun : action.run transport client with
  | mk r between =>
    rw [hrun] at hpath
    cases r with
    | error e => exact hpath
    | ok a => exact hpath.trans (hnext a transport between (hP hpath hclient))

theorem Walks.tryCatch (hP : caller.Stable P) {action : Action α}
    {handler : ClientError → Action α} (h : Walks caller P action)
    (hhandler : ∀ e, Walks caller P (handler e)) :
    Walks caller P (MonadExcept.tryCatch action handler : Action α) := by
  intro transport client hclient
  have hpath := h transport client hclient
  have hrun : (MonadExcept.tryCatch action handler : Action α).run transport client = _ :=
    run_tryCatch action handler
  rw [hrun]
  cases hcases : action.run transport client with
  | mk r between =>
    rw [hcases] at hpath
    cases r with
    | ok a => exact hpath
    | error e => exact hpath.trans (hhandler e transport between (hP hpath hclient))

/-- What follows is about the caller's database. -/
theorem walks_connection_bind (hP : ∀ client, P client → caller.Uses client)
    {next : Connection → Action α}
    (h : ∀ c, c.config.database = caller.database → Walks caller P (next c)) :
    Walks caller P (connection >>= next) :=
  fun transport client hclient => h client.connection (hP client hclient) transport client hclient

/-! ### The gate -/

theorem walks_capabilities : Walks caller P capabilities := by
  intro transport client _
  rw [capabilities, run_bind_ok run_connection]
  cases hcapabilities : client.connection.capabilities with
  | some server => exact .refl
  | none =>
    rw [run_bind]
    cases hprobe : probe.run transport client with
    | mk r after =>
      cases r with
      | error e => exact .single (.failed hcapabilities hprobe)
      | ok server => exact .single (.probed hcapabilities hprobe)

/-- Behind the gate the server is known. -/
theorem knows_of_capabilities {transport : Transport} {client after : Client}
    {server : Capabilities} (hclient : caller.Uses client)
    (h : capabilities.run transport client = (.ok server, after)) : caller.Knows after := by
  have hpath : Path caller transport client _ := walks_capabilities transport client hclient
  rw [h] at hpath
  exact ⟨caller.stable_uses hpath hclient, server, capabilities_known h⟩

/-- What stands behind the gate runs with a known server. -/
theorem walks_capabilities_bind {next : Capabilities → Action α}
    (h : ∀ server, Walks caller caller.Knows (next server)) :
    Walks caller caller.Uses (capabilities >>= next) := by
  intro transport client hclient
  have hpath : Path caller transport client _ := walks_capabilities transport client hclient
  rw [run_bind]
  cases hrun : capabilities.run transport client with
  | mk r between =>
    rw [hrun] at hpath
    cases r with
    | error e => exact hpath
    | ok server =>
      exact hpath.trans (h server transport between (knows_of_capabilities hclient hrun))

/-! ### Requests to a known server -/

theorem walks_dispatch {body : Body} (options : Options) (h : caller.Allows body) :
    Walks caller caller.Knows (dispatch body options) := by
  rintro transport client ⟨-, server, hknown⟩
  rw [run_dispatch]
  exact .single (.statement hknown options h)

theorem walks_dispatchText {statement : String} (options : Options)
    (h : caller.Allows (.ofText statement)) :
    Walks caller caller.Knows (dispatchText statement options) := by
  rintro transport client ⟨-, server, hknown⟩
  rw [run_dispatchText]
  exact .single (.statement hknown options h)

theorem walks_existence (databaseExists : Bool) :
    Walks caller caller.Knows (changeConnection fun c => { c with databaseExists }) := by
  rintro transport client ⟨-, server, hknown⟩
  exact .single (.existence hknown databaseExists)

end Action

end Columnar
