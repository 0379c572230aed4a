import Columnar.Capabilities
import Columnar.Config
import Columnar.Http
import Columnar.Placeholder

/-!
What a client knows about its connection, and the parameters of its requests.

Parameters come in layers: the settings of the call, those of the connection, the server-side
session, the database once it is known to exist, and the wish to read only. Each layer wins over the
ones before it.
-/

namespace Columnar

/-- State that the server keeps between requests under one name. -/
structure Session where
  id : String
  timeoutSeconds : Nat := 60
  deriving DecidableEq, Repr

/-- What one call adds to the parameters of its requests. -/
structure Options where
  settings : Settings := []
  session : Option Session := none
  deriving DecidableEq, Repr

/-- What a client knows about its connection. -/
structure Connection where
  config : Config
  settings : Settings := []
  databaseExists : Bool := false
  isReadOnly : Bool := false
  /-- The server lets this connection only read. -/
  isServerReadOnly : Bool := false
  /-- What the probe found out, once it has succeeded. -/
  capabilities : Option Capabilities := none

namespace Connection

/-- A connection that nothing is known about yet. -/
def ofConfig (config : Config) : Result Connection := do
  config.validate
  pure { config }

/-- Gives a setting a text, or takes it out. -/
def withSetting (c : Connection) (name : String) (text : Option String) : Connection :=
  { c with settings := match text with
      | some text => c.settings.set name text
      | none => c.settings.unset name }

/-- The parameters of a server-side session. -/
def sessionParams : Option Session → List (String × String)
  | none => []
  | some session =>
    [("session_id", session.id), ("session_timeout", toString session.timeoutSeconds)]

/-- The parameters that follow from what is known about the connection. -/
def stateParams (c : Connection) : List (String × String) :=
  (if c.databaseExists then [("database", c.config.database)] else [])
    ++ (if c.isReadOnly && !c.isServerReadOnly then [("readonly", "1")] else [])

/-- The parameters of a request. -/
def params (c : Connection) (options : Options) : Settings :=
  (Settings.ofList options.settings).overlay c.settings
    |>.overlay (sessionParams options.session) |>.overlay c.stateParams

/-- A statement with its placeholders replaced. -/
def fill (c : Connection) (schema : Option Schema) (statement : String) : String :=
  Placeholder.fill c.config.database schema statement

/-! ### In messages -/

/-- A version as messages show it. -/
def versionDiagnostic (v : Version) : String :=
  "ServerVersion(" ++ toString v.major ++ ", " ++ toString v.minor ++ ", " ++ toString v.patch
    ++ ")"

/-- Capabilities as messages show them. -/
def capabilitiesDiagnostic : Option Capabilities → String
  | none => "None"
  | some server =>
    "Some(ServerCapabilities \x7b version: " ++ versionDiagnostic server.version ++ ", timezone: "
      ++ server.zone.name ++ ", has_codec_support: " ++ Value.boolText server.codecs
      ++ ", has_low_cardinality_support: " ++ Value.boolText server.lowCardinality ++ " \x7d)"

/-- The connection as messages show it. -/
def diagnostic (c : Connection) : String :=
  let pairs := c.settings.map fun (name, text) => Text.quoted name ++ ": " ++ Text.quoted text
  "Database \x7b db_name: " ++ Text.quoted c.config.database ++ ", db_url: "
    ++ Text.quoted c.config.url ++ ", settings: \x7b" ++ ", ".intercalate pairs
    ++ "\x7d, db_exists: " ++ Value.boolText c.databaseExists ++ ", readonly: "
    ++ Value.boolText c.isReadOnly ++ ", capabilities: "
    ++ capabilitiesDiagnostic c.capabilities ++ ", .. \x7d"

end Connection

end Columnar
