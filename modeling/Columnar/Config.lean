import Columnar.ClientError
import Columnar.Engine
import Columnar.Text.Blank
import Columnar.Url.Parser

/-!
The configuration of a client: which database on which server, and how to reach it.
-/

namespace Columnar

/-- What a client needs to know before its first request. -/
structure Config where
  database : String := "default"
  url : String := "http://localhost:8123/"
  username : Option String := none
  password : Option String := none
  isReadOnly : Bool := false
  /-- Whether a missing database is created. -/
  autoCreate : Bool := true
  timeoutSeconds : Nat := 60
  verifiesCertificate : Bool := true
  logsStatements : Bool := false
  engine : DatabaseEngine := .atomic
  deriving DecidableEq, Repr

namespace Config

/-- The default configuration for a database. -/
def ofDatabase (database : String) : Config :=
  { database }

/-- The configuration with a name and a password. -/
def withCredentials (c : Config) (username password : String) : Config :=
  { c with username := some username, password := some password }

/-- The configuration with or without leave to write; without it no database is created. -/
def withReadOnly (c : Config) (isReadOnly : Bool) : Config :=
  { c with isReadOnly, autoCreate := c.autoCreate && !isReadOnly }

/-- The URL of the server. -/
def readUrl (c : Config) : Result Url :=
  match Url.read c.url with
  | .ok url => .ok url
  | .error fault => .error (.config (.url fault))

/-- Refuses a blank database name, a timeout of zero and a text that is no URL. -/
def validate (c : Config) : Result Unit := do
  if Text.isBlankText c.database then throw (.config .blankDatabase)
  if c.timeoutSeconds = 0 then throw (.config .noTimeout)
  let _ ← c.readUrl
  pure ()

end Config

end Columnar
