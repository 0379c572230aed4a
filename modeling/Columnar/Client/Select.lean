import Columnar.Client.Statement

/-!
Rows of queries.

A response names its columns and their types in two lines; the lines that follow are rows. They are
read up to the first one that cannot be read.
-/

namespace Columnar

/-- Rows with the schema they belong to. The first error is the last item. -/
structure RowStream where
  schema : Schema
  items : List (Result Row)

namespace RowStream

variable [Clocks]

/-- The table that rows belong to when the caller gives no schema. -/
def adHocTable : String := "ad_hoc"

/-- The rows of lines; blank lines are passed over. -/
def decodeLines (decoder : LineDecoder) : List (Result String) → List (Result Row)
  | [] => []
  | .error error :: _ => [.error error]
  | .ok line :: rest =>
    if Text.isBlankText line then decodeLines decoder rest
    else match decoder.decode line with
      | .ok row => .ok row :: decodeLines decoder rest
      | .error error => [.error error]

/-- The fields of a line of the header. -/
def readHeader (line : String) : Result (List String) :=
  match Tsv.readLine line with
  | .ok fields => .ok fields
  | .error field => .error (.parse (.danglingEscape field))

/-- The schema that the header of a response gives. -/
def headerSchema (names types : List String) : Result Schema :=
  Schema.ofColumns adHocTable (names.zip types)

/-- The rows of a response with the given header and the lines behind it. -/
def ofParts (given : Option Schema) (zone : Calendar.Zone) (nameLine typeLine : String)
    (data : List (Result String)) : Result RowStream := do
  let names ← readHeader nameLine
  let types ← readHeader typeLine
  let schema ← given.elim (headerSchema names types) pure
  let decoder ← LineDecoder.ofNames schema names zone
  pure ⟨schema, decodeLines decoder data⟩

/-- The rows of a response; none when it has no header. -/
def ofLines (schema : Option Schema) (zone : Calendar.Zone) :
    List (Result String) → Result RowStream
  | .ok names :: .ok types :: data => ofParts schema zone names types data
  | .error error :: _ | .ok _ :: .error error :: _ => .error error
  | [] | [.ok _] => .ok ⟨schema.getD { table := adHocTable }, []⟩

/-- The rows, or the error that ends them. -/
def collect (stream : RowStream) : Result (List Row) :=
  stream.items.mapM id

end RowStream

namespace Action

/-- Runs a query and reads its rows, by a schema or by the header of the response. -/
def select [Clocks] (query : String) (schema : Option Schema) (options : Options) :
    Action RowStream := do
  let statement := (← connection).fill schema
    (query ++ " FORMAT TabSeparatedWithNamesAndTypes")
  let zone := (← capabilities).zone
  let response ← dispatch (.ofText statement) options
  ofResult (RowStream.ofLines schema zone response.body.lines)

end Action

end Columnar
