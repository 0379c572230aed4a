import Columnar.ClientError
import Columnar.Settings
import Columnar.Text.Blank
import Columnar.Text.Utf8

/-!
Requests and responses, what carries them, and the ways to read a body.

A body is a list of chunks, any of which may be an error; nothing is read beyond the first one.
`drain` and `text` read a body whole, `lines` reads it line by line. How a body is cut into chunks
makes no difference to any of them.
-/

namespace Columnar

open Text (Bytes)

/-- A body: its chunks in order, and errors where it breaks off. -/
abbrev Body := List (Result Bytes)

namespace Body

/-- A body of one text. -/
def ofText (text : String) : Body :=
  [.ok (Text.encodeUtf8 text)]

/-- The bytes before the first error, and that error. -/
def read : Body → Bytes × Option ClientError
  | [] => ([], none)
  | .error error :: _ => ([], some error)
  | .ok bytes :: rest =>
    let (more, error) := read rest
    (bytes ++ more, error)

/-- All the bytes; the first error if there is one. -/
def drain (body : Body) : Result Bytes :=
  match body.read with
  | (bytes, none) => .ok bytes
  | (_, some error) => .error error

/-- All the bytes as text, with U+FFFD in place of what is no text. -/
def text (body : Body) : Result String :=
  body.drain.map Text.repairUtf8

/-- A list up to its first error, which is kept. -/
def upToError {α : Type} : List (Result α) → List (Result α)
  | [] => []
  | .ok a :: rest => .ok a :: upToError rest
  | .error error :: _ => [.error error]

/-- The error for bytes that are no text. -/
def undecoded (bytes : Bytes) : ClientError :=
  .io (((Text.utf8Fault? bytes).map Text.Utf8Fault.message).getD "")

/-- The text of a line, with the bytes of the terminator that stood behind it. -/
def lineText (terminator bytes : Bytes) : Result String :=
  orFail (Text.decodeUtf8? bytes) (undecoded (bytes ++ terminator))

/-- The lines of a body, with the first bytes of the first line already read. Where the body breaks
off, the line begun there is lost. -/
def linesFrom (begun : Bytes) : Body → List (Result String)
  | [] => if begun.isEmpty then [] else [lineText [] begun]
  | .error error :: _ => [.error error.asBroken]
  | .ok chunk :: rest =>
    let (complete, begun) := Text.cutLines 0x0A 0x0D (begun ++ chunk)
    complete.map (lineText [0x0A]) ++ linesFrom begun rest

/-- The lines up to the first error, each as soon as the newline that ends it has come. -/
def lines (body : Body) : List (Result String) :=
  upToError (linesFrom [] body)

end Body

/-- A request: named parameters and a body. -/
structure Request where
  params : Settings
  body : Body

/-- What the server sends back. -/
structure Response where
  status : Nat
  body : Body

/-- Whether the server did what it was asked. -/
def Response.isSuccess (r : Response) : Bool :=
  200 ≤ r.status && r.status < 300

/-- What carries requests to a server. What it does may depend on all the requests before, oldest
first. -/
structure Transport where
  /-- The answer to a request. -/
  answer : List Request → Request → Result Response
  /-- How many items of the body it has taken when it is done with the request. -/
  taken : List Request → Request → Nat := fun _ request => request.body.length

namespace Transport

instance : CoeFun Transport fun _ => List Request → Request → Result Response :=
  ⟨answer⟩

/-- Whether the whole body of a request is taken, and not only the items it begins with. -/
def takesAll (transport : Transport) (sent : List Request) (request : Request) : Bool :=
  request.body.length ≤ transport.taken sent request

end Transport

end Columnar
