import Columnar.Fault
import Columnar.ServerError

/-!
The errors of the library's operations, by where they come from.

`message` puts an error into words; `isConnectivity` and `serverError?` are what callers decide by.
-/

namespace Columnar

/-- Why an operation failed. -/
inductive ClientError where
  | server (error : ServerError)
  | config (fault : ConfigFault)
  | connection (text : String)
  | validation (fault : ValidationFault)
  | parse (fault : ParseFault)
  | io (text : String)
  /-- A step of the named migration failed. -/
  | migration (name : String) (source : ClientError)

/-- An operation's answer, or why it failed. -/
abbrev Result := Except ClientError

namespace ClientError

/-- The error in words. -/
def message : ClientError → String
  | server error => error.summary
  | config fault => "Configuration error: " ++ fault.message
  | connection text => "Connection error: " ++ text
  | validation fault => "Validation error: " ++ fault.message
  | parse fault => "Parse error: " ++ fault.message
  | io text => text
  | migration name source => "Migration " ++ name ++ " failed: " ++ source.message

/-- Whether the request or its reply broke off before the server could answer. -/
def isConnectivity : ClientError → Bool
  | connection _ | io _ => true
  | _ => false

/-- The server's own error, also behind a failed migration. -/
def serverError? : ClientError → Option ServerError
  | server error => some error
  | migration _ source => source.serverError?
  | _ => none

/-- The error that a reader of lines reports when the body breaks off with the given one. -/
def asBroken : ClientError → ClientError
  | io text => io text
  | error => io error.message

/-- What a transport is told when the body of an insert cannot go on. -/
def asAborted (cause : ClientError) : ClientError :=
  connection ("insert body aborted: " ++ cause.message)

end ClientError

/-- The value, or the given error in its place. -/
def orFail {α : Type} (value : Option α) (error : ClientError) : Result α :=
  match value with
  | some value => .ok value
  | none => .error error

end Columnar
