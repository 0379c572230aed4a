import Columnar.Proofs.Client.Keeps
import Columnar.Proofs.Client.Rows

/-!
Rows from bodies that are cut in different ways, or that break off.

How the bytes of a body are cut into chunks makes no difference to its lines, its text or the rows
of a query. Where the body breaks off, a query gives what the lines that have ended give, and then
the error (`ofLines_of_breaksOff`); the line begun there is never read as a row. Both are put
together in `run_select_of_sameBytes`.
-/

namespace Columnar

open Text (Bytes)

namespace RowStream

variable [Clocks]

/-- The stream with an error behind its items, unless one of them is an error already. -/
def endedBy (stream : RowStream) (e : ClientError) : RowStream :=
  { stream with items := Body.upToError (stream.items ++ [.error e]) }

/-- An error behind lines is the last item, unless a line before it has ended the items. -/
theorem decodeLines_of_broken (d : LineDecoder) (e : ClientError) :
    ∀ lines : List (Result String), decodeLines d (Body.upToError (lines ++ [.error e]))
      = Body.upToError (decodeLines d (Body.upToError lines) ++ [.error e])
  | [] => rfl
  | .error e' :: lines => rfl
  | .ok line :: lines => by
    have ih := decodeLines_of_broken d e lines
    rw [List.cons_append, Body.upToError, Body.upToError, decodeLines, decodeLines]
    split
    · exact ih
    · cases d.decode line with
      | error e' => rfl
      | ok row => exact congrArg (Except.ok row :: ·) ih

theorem ofParts_of_broken (given : Option Schema) (zone : Calendar.Zone)
    (nameLine typeLine : String) (e : ClientError) (lines : List (Result String)) :
    ofParts given zone nameLine typeLine (Body.upToError (lines ++ [.error e]))
      = (ofParts given zone nameLine typeLine (Body.upToError lines)).map (·.endedBy e) := by
  rw [ofParts, ofParts]
  cases readHeader nameLine with
  | error e' => rfl
  | ok names =>
    cases readHeader typeLine with
    | error e' => rfl
    | ok types =>
      simp only [ok_bind]
      cases given.elim (headerSchema names types) pure with
      | error e' => rfl
      | ok schema =>
        simp only [ok_bind]
        cases LineDecoder.ofNames schema names zone with
        | error e' => rfl
        | ok decoder =>
          simp only [ok_bind, decodeLines_of_broken decoder e lines]
          rfl

/-- An error behind the header ends the stream; without a whole header there is no stream. -/
theorem ofLines_of_broken (given : Option Schema) (zone : Calendar.Zone) (e : ClientError)
    (lines : List (Result String)) :
    ofLines given zone (Body.upToError (lines ++ [.error e]))
      = ofLines given zone (Body.upToError lines) >>= fun stream =>
          if 2 ≤ lines.length then .ok (stream.endedBy e) else .error e := by
  match lines with
  | [] => rfl
  | .error e' :: lines => rfl
  | [.ok nameLine] => rfl
  | .ok nameLine :: .error e' :: lines => rfl
  | .ok nameLine :: .ok typeLine :: lines =>
    have htwo : 2 ≤ (.ok nameLine :: .ok typeLine :: lines : List (Result String)).length := by
      simp
    simp only [if_pos htwo]
    refine (ofParts_of_broken given zone nameLine typeLine e lines).trans ?_
    rw [Body.upToError, Body.upToError, ofLines]
    cases ofParts given zone nameLine typeLine (Body.upToError lines) <;> rfl

/-- A body that breaks off gives what its whole lines give, and then the error. -/
theorem ofLines_of_breaksOff (given : Option Schema) (zone : Calendar.Zone) {body : Body}
    {front begun : Bytes} {e : ClientError} (h : body.BreaksOff front begun e) :
    ofLines given zone body.lines = ofLines given zone (Body.lines [.ok front]) >>= fun stream =>
      if 2 ≤ front.count 0x0A then .ok (stream.endedBy e.asBroken) else .error e.asBroken := by
  obtain ⟨ended, hlength, hfront, hlines⟩ := Body.lines_of_breaksOff h
  rw [hlines, hfront, ofLines_of_broken, hlength]

end RowStream

namespace Action

variable {transport transport' : Transport} {client known : Client}

/-- A query is one request behind what has to be known about the server. -/
theorem run_select_of_capabilities [Clocks] {server : Capabilities}
    (h : capabilities.run transport client = (.ok server, known)) (query : String)
    (schema : Option Schema) (options : Options) :
    (select query schema options).run transport client
      = (select query schema options).run transport known := by
  have hknown := capabilities_known h
  have hconfig := (readsBytes_capabilities.keeps transport client).2
  rw [h] at hconfig
  have hfill : client.connection.fill = known.connection.fill := by
    funext schema statement
    rw [Connection.fill, Connection.fill, hconfig]
  rw [select, run_bind_ok run_connection, run_bind_ok run_connection, run_bind_ok h,
    run_bind_ok (run_capabilities hknown), hfill]

/-- How bodies are cut makes no difference to their lines, to their texts and to the rows of a
query. A query whose response breaks off gives what the lines give that have ended, and then the
error, unless one of them was an error; before the end of the header it fails with the error. -/
theorem run_select_of_sameBytes [Clocks] (hsame : transport.SameBytes transport') (client : Client)
    (query : String) (schema : Option Schema) (options : Options) :
    (∀ body body' : Body, body.read = body'.read →
      body.lines = body'.lines ∧ body.text = body'.text) ∧
    (select query schema options).run transport client
      = (select query schema options).run transport' client ∧
    ∀ (server : Capabilities) (known : Client) (response : Response) (front begun : Bytes)
      (e : ClientError), capabilities.run transport client = (.ok server, known) →
      transport known.sent (selectRequest known.connection query schema options) = .ok response →
      response.isSuccess = true → response.body.BreaksOff front begun e →
      (select query schema options).run transport client
        = (RowStream.ofLines schema server.zone (Body.lines [.ok front]) >>= fun stream =>
            if 2 ≤ front.count 0x0A then .ok (stream.endedBy e.asBroken)
            else .error e.asBroken,
          { known with
            sent := known.sent ++ [selectRequest known.connection query schema options] }) := by
  refine ⟨fun body body' h => ⟨Body.lines_congr h, Body.text_congr h⟩,
    (readsBytes_select query schema options).run_eq hsame client, ?_⟩
  intro server known response front begun e hserver hanswer hsuccess hbroken
  rw [run_select_of_capabilities hserver, run_select (capabilities_known hserver), hanswer, ok_bind,
    accepted, if_pos hsuccess, ok_bind, RowStream.ofLines_of_breaksOff schema server.zone hbroken]

/-- A server whose answers come in the given chunks and then break off. -/
def brokenServer (chunks : List Bytes) : Transport where
  answer _ _ := .ok ⟨200, chunks.map .ok ++ [.error (.connection "reset")]⟩

/-- The lines of an answer with one row. -/
def wholeRow : List String := ["a\tb", "String\tString", "x\ty"]

/-- A row and the beginning of another one, in chunks of which one is empty. -/
theorem run_select_of_sameBytes_pairs :
    (select "SELECT a, b FROM $table" (some pairTable) {}).run
        (brokenServer [Text.encodeUtf8 "a\tb\nStr", [], Text.encodeUtf8 "ing\tString\nx\ty\nz"])
        shopClient
      = (.ok ⟨pairTable, [.ok ⟨pairTable, [.text "x", .text "y"]⟩,
          .error (.io "Connection error: reset")]⟩, pairAfter) := by
  have hsame : (brokenServer [Text.encodeUtf8 (Text.terminated wholeRow), Text.encodeUtf8 "z"]
      ).SameBytes (brokenServer
        [Text.encodeUtf8 "a\tb\nStr", [], Text.encodeUtf8 "ing\tString\nx\ty\nz"]) := by
    refine fun sent request => .ok ⟨rfl, ?_⟩
    rw [Body.read_chunks, Body.read_chunks]
    refine Prod.ext ?_ rfl
    simp [wholeRow, Text.terminated, ← Text.encodeUtf8_append]
  obtain ⟨-, hrun, hbroken⟩ := run_select_of_sameBytes hsame shopClient "SELECT a, b FROM $table"
    (some pairTable) {}
  have hread : (Body.BreaksOff ([Text.encodeUtf8 (Text.terminated wholeRow),
      Text.encodeUtf8 "z"].map .ok ++ [.error (.connection "reset")])
        (Text.encodeUtf8 (Text.terminated wholeRow)) (Text.encodeUtf8 "z")
        (.connection "reset")) := by
    refine ⟨?_, .inr ?_, ?_⟩
    · rw [Body.read_chunks]
      simp [Body.read]
    · rfl
    · decide
  have hlines : (Body.lines [.ok (Text.encodeUtf8 (Text.terminated wholeRow))])
      = wholeRow.map .ok := by
    rw [← Body.ofText, Body.lines_terminated (by decide)]
  have hvalue := hbroken .fallback shopClient _ _ _ _ (run_capabilities rfl) rfl rfl hread
  rw [← hrun, hvalue, hlines]
  rfl

end Action

end Columnar
