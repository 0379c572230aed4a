import Columnar.Client.Action

/-!
The probe: what a client finds out about the server before its first request.

It asks whether the database exists, whether the connection may only read, which version the server
has and in which time zone it works. A missing database is created where the configuration asks for
it. The probe runs once; after a failure it runs again with the next request.
-/

namespace Columnar.Action

/-- The reply to a question of the probe, without blanks around it. -/
def ask (question : String) : Action String := do
  pure (Text.trimText (← dispatchText question {}))

/-- Creates the database. -/
def createDatabaseUnprobed : Action Unit := do
  let config := (← connection).config
  let _ ← dispatchText ("CREATE DATABASE IF NOT EXISTS " ++ backquoted config.database
    ++ " ENGINE = " ++ config.engine.sql) {}
  changeConnection fun c => { c with databaseExists := true }

/-- Whether the server knows the database. -/
def askDatabaseExists : Action Bool := do
  let database := (← connection).config.database
  let reply ← ask ("SELECT count() FROM system.databases WHERE name = " ++ Tsv.quote database)
  pure (reply = "1")

/-- Whether the server lets this connection only read. -/
def askServerReadOnly : Action Bool := do
  pure ((← ask "SELECT value FROM system.settings WHERE name = 'readonly'") != "0")

/-- Whether the probe goes on without an answer after an error. -/
def isRecoverable (error : ClientError) : Bool :=
  error.serverError?.isSome || error.isConnectivity

/-- The reply to a question, or `none` after an error that the probe can do without. -/
def ask? (question : String) : Action (Option String) :=
  tryCatch (some <$> ask question) fun error =>
    if isRecoverable error then pure none else throw error

/-- The version of the server, or the one assumed instead. -/
def askVersion : Action Version := do
  pure (((← ask? "SELECT version();").bind Version.read?).getD .fallback)

/-- The time zone of the server, or UTC instead. -/
def askZone : Action Calendar.Zone := do
  pure (((← ask? "SELECT timezone()").bind Calendar.Zone.ofName?).getD .utc)

/-- Settles access before anything else is asked: by reading only, or with a database to write. -/
def settleAccess (databaseExists : Bool) : Action Unit := do
  let config := (← connection).config
  if config.isReadOnly then
    if !databaseExists then throw (.config .databaseMissing)
    let isServerReadOnly ← askServerReadOnly
    changeConnection fun c => { c with isServerReadOnly, isReadOnly := true }
  else if config.autoCreate && !databaseExists then createDatabaseUnprobed

/-- Asks the server what needs to be known. -/
def probe : Action Capabilities := do
  let databaseExists ← askDatabaseExists
  changeConnection fun c => { c with databaseExists }
  settleAccess databaseExists
  let version ← askVersion
  let zone ← if version.newerThan .withoutTimeZone then askZone else pure .utc
  pure (.of version zone)

/-- What the server can do; asks it unless that is already known. -/
def capabilities : Action Capabilities := do
  match (← connection).capabilities with
  | some server => pure server
  | none =>
    let server ← probe
    changeConnection fun c => { c with capabilities := some server }
    pure server

/-- Makes sure that the probe has succeeded. -/
def init : Action Unit :=
  discard capabilities

end Columnar.Action
