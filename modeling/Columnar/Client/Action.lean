import Columnar.Client.Connection

/-!
Actions: what a client does over a transport, one request after another.

An action may change what is known about the connection, posts requests, and succeeds or fails. What
it did before it failed stays done.
-/

namespace Columnar

/-- A client: its connection, and the requests it has sent, oldest first. -/
structure Client where
  connection : Connection
  sent : List Request := []

/-- Something that a client does over a transport. -/
abbrev Action := ReaderT Transport (ExceptT ClientError (StateM Client))

namespace Action

/-- Runs an action on a client. -/
def run {α : Type} (action : Action α) (transport : Transport) (client : Client) :
    Result α × Client :=
  action transport client

/-- The action with a result that is already there. -/
def ofResult {α : Type} : Result α → Action α
  | .ok value => pure value
  | .error error => throw error

/-- What is known about the connection. -/
def connection : Action Connection := do
  pure (← get).connection

/-- Changes what is known about the connection. -/
def changeConnection (change : Connection → Connection) : Action Unit :=
  modify fun client => { client with connection := change client.connection }

/-- Gives a setting of the connection a text, or takes it out. -/
def changeSetting (name : String) (text : Option String) : Action Unit :=
  changeConnection fun c => c.withSetting name text

/-- Asks the server from now on to let this connection only read, or no longer. -/
def setReadOnly (isReadOnly : Bool) : Action Unit :=
  changeConnection fun c => { c with isReadOnly }

/-- Hands a request to the transport. -/
def post (request : Request) : Action Response := do
  let transport ← read
  let client ← get
  set { client with sent := client.sent ++ [request] }
  ofResult (transport client.sent request)

/-- Whether the transport takes the whole of a body. -/
def takesAll (body : Body) (options : Options) : Action Bool := do
  pure ((← read).takesAll (← get).sent ⟨(← connection).params options, body⟩)

/-- Sends a body as it is; a response without success becomes the server's error. -/
def dispatch (body : Body) (options : Options) : Action Response := do
  let response ← post ⟨(← connection).params options, body⟩
  if response.isSuccess then pure response
  else do
    let text ← ofResult response.body.text
    throw (.server (.ofText text))

/-- Sends a statement and reads the reply as text. -/
def dispatchText (statement : String) (options : Options) : Action String := do
  let response ← dispatch (.ofText statement) options
  ofResult response.body.text

end Action

end Columnar
