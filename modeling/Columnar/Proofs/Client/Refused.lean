import Columnar.Proofs.Client.Batches
import Columnar.Server.Script

/-!
Inserts that a record ends.

A value or a record that cannot be written is a fault of validation (`validation_of_refused`). It
crosses the body of the request in disguise: the transport gets a connection error, and answers with
one. The insert fails with the fault of the record all the same, whatever the answer of a transport
that reads bodies, and the request reaches no server (`run_insertWith_refused`).
-/

namespace Columnar

/-! ### Faults of values -/

namespace ColumnType

variable {t : ColumnType} {v : Value} {e : ClientError}

theorem validation_of_ofInt? {n : Int} (h : t.ofInt? n = some (.error e)) :
    ∃ fault, e = .validation fault := by
  unfold ofInt? at h
  obtain ⟨bounds, -, h⟩ := Option.map_eq_some_iff.1 h
  dsimp only at h
  split at h
  · exact ⟨_, (Except.error.inj h).symm⟩
  · split at h <;> exact nomatch h

theorem validation_of_intText {n : Int} (h : t.intText v n = .error e) :
    ∃ fault, e = .validation fault := by
  rw [intText] at h
  cases hint : t.ofInt? n with
  | none =>
    rw [hint] at h
    exact ⟨_, (Except.error.inj h).symm⟩
  | some checked =>
    rw [hint] at h
    exact validation_of_ofInt? (hint.trans (congrArg some (map_eq_error h)))

theorem validation_of_scalarText (h : t.scalarText v = .error e) :
    ∃ fault, e = .validation fault := by
  cases t <;> cases v <;> simp only [scalarText] at h
  case int.int | int.uint | uint.int | uint.uint => exact validation_of_intText h
  case enum.text width entries s =>
    split at h
    · exact nomatch h
    · exact ⟨_, (Except.error.inj h).symm⟩
  all_goals first
    | exact ⟨_, (Except.error.inj h).symm⟩
    | cases h

theorem validation_of_scalarElement (h : t.scalarElement v = .error e) :
    ∃ fault, e = .validation fault :=
  validation_of_scalarText (map_eq_error h)

/-- An element that cannot be written is a fault of validation. -/
theorem validation_of_encodeElement (h : t.encodeElement v = .error e) :
    ∃ fault, e = .validation fault := by
  induction t generalizing v with
  | nullable inner ih =>
    rw [encodeElement] at h
    split at h
    · exact nomatch h
    · exact ih h
  | lowCardinality inner ih => exact ih h
  | array item ih =>
    cases v with
    | array items =>
      rw [encodeElement] at h
      rcases bind_eq_error h with hitems | ⟨texts, -, h⟩
      · obtain ⟨w, -, hw⟩ := mapM_eq_error hitems
        exact ih hw
      · exact nomatch h
    | _ => exact validation_of_scalarElement h
  | _ => exact validation_of_scalarElement h

/-- A field that cannot be written is a fault of validation. -/
theorem validation_of_encode (h : t.encode v = .error e) : ∃ fault, e = .validation fault := by
  induction t generalizing v with
  | nullable inner ih =>
    rw [encode] at h
    split at h
    · exact nomatch h
    · exact ih h
  | lowCardinality inner ih => exact ih h
  | array item _ =>
    cases v with
    | array items => exact validation_of_encodeElement h
    | _ => exact validation_of_scalarText (map_eq_error h)
  | _ => exact validation_of_scalarText (map_eq_error h)

end ColumnType

/-! ### Faults of records -/

variable {record : Row} {e : ClientError}

theorem validation_of_line {format : LineFormat} (h : record.line format = .error e) :
    ∃ fault, e = .validation fault := by
  rw [Row.line, Schema.encodeLine, Row.checkCount] at h
  rcases bind_eq_error h with hcount | ⟨_, -, h⟩
  · split at hcount
    · exact nomatch hcount
    · exact ⟨_, (Except.error.inj hcount).symm⟩
  · rcases bind_eq_error h with hentries | ⟨entries, -, h⟩
    · obtain ⟨⟨f, value⟩, -, hentry⟩ := mapM_eq_error hentries
      exact ColumnType.validation_of_encode (map_eq_error hentry)
    · exact nomatch h

/-- A record that ends an insert is a fault of validation. -/
theorem validation_of_refused {first : Schema} (h : record.Refused first e) :
    ∃ fault, e = .validation fault := by
  cases h with
  | mixed htable => exact ⟨_, rfl⟩
  | unwritten htable hline => exact validation_of_line hline

/-! ### Bodies that break off -/

/-- A body that breaks off does not arrive whole. -/
theorem Body.mapM_id_of_read : ∀ {body : Body}, body.read.2 = some e → body.mapM id = .error e
  | [], h => nomatch h
  | .error e' :: body, h => by
    rw [List.mapM_cons, id, error_bind]
    exact congrArg Except.error (Option.some.inj h)
  | .ok bytes :: body, h => by
    have hrest : body.mapM id = .error e := Body.mapM_id_of_read h
    rw [List.mapM_cons, id, ok_bind, hrest]
    rfl

namespace Server

variable {r : Request} {sent : List Request}

/-- A scripted server does not see a request that breaks off. -/
theorem after_of_broken (h : wholeChunks r = .error e) (s : Script) :
    s.after (sent ++ [r]) = s.after sent := by
  rw [Script.after, List.foldl_append, List.foldl_cons, h]
  rfl

theorem received_of_broken (h : wholeChunks r = .error e) :
    received (sent ++ [r]) = received sent := by
  rw [received, List.filterMap_append, List.filterMap_cons, h]
  exact List.append_nil _

/-- A transport reports a request that breaks off with a connection error as one. -/
theorem transport_of_broken {text : String} (h : wholeChunks r = .error (.connection text))
    (s : Script) : ∃ text, s.transport sent r = .error (.connection text) := by
  simp only [Script.transport, h]
  split
  · exact ⟨_, rfl⟩
  · exact ⟨_, rfl⟩

end Server

/-! ### Inserts -/

namespace Action

variable {transport : Transport} {client : Client}

/-- On a transport that reads bodies, an insert fails with the fault of the first record that ends
it, whatever the answer to the body is that this record breaks off. Transports answer with a
connection error, and no server gets the request. -/
theorem run_insertWith_refused (hreads : transport.ReadsBodies) {first : Row}
    {others front behind : List Row} {size : Nat} {options : Options} {known : Capabilities}
    (hsize : size ≠ 0) (hwritable : (first.schema.isReadOnly || first.schema.isSystem) = false)
    (hknown : client.connection.capabilities = some known)
    (hrecords : first :: others = front ++ record :: behind)
    (hfront : ∀ r ∈ front, ¬ ∃ e, r.Refused first.schema e)
    (hrefused : record.Refused first.schema e) :
    (∃ fault, e = .validation fault) ∧ ∃ r : Request,
      (insertWith (first :: others) size options).run transport client
        = (.error e, { client with sent := client.sent ++ [r] }) ∧
      (∀ script : Server.Script,
        (∃ text, script.transport client.sent r = .error (.connection text)) ∧
        script.after (client.sent ++ [r]) = script.after client.sent) ∧
      Server.received (client.sent ++ [r]) = Server.received client.sent := by
  obtain ⟨lines, hlines⟩ : ∃ lines, List.Forall₂ (Row.Writes first.schema) front lines :=
    exists_forall₂ fun r hr => (r.writes_or_refused first.schema).resolve_right (hfront r hr)
  obtain ⟨hread, hfailure⟩ := Batches.drain_of_refused
    (b := batches client.connection first others hsize) rfl hrecords hlines hrefused
  have hbroken : Server.wholeChunks (request client.connection
      (batches client.connection first others hsize).drain.1 options) = .error e.asAborted :=
    Body.mapM_id_of_read hread
  refine ⟨validation_of_refused hrefused, request client.connection
    (batches client.connection first others hsize).drain.1 options, ?_, ?_, ?_⟩
  · rw [run_insertWith options hsize hwritable hknown, run_sendBatches_of_failure options hreads
      hfailure]
  · intro script
    exact ⟨Server.transport_of_broken hbroken script, Server.after_of_broken hbroken script⟩
  · exact Server.received_of_broken hbroken

open Batches (otherRow)

/-- A server behind a transport that reports broken bodies in words of its own. -/
def remoteServer : Server.Script := ⟨.remote, []⟩

/-- A row of another table between two rows, in chunks of one row. -/
theorem run_insertWith_refused_pairs : ∃ r : Request,
    (insertWith [pairRow "a" "b", otherRow, pairRow "c" "d"] 1 {}).run remoteServer.transport
        shopClient = (.error (.validation (.mixedRecords "pairs" "other")),
          { shopClient with sent := [r] }) ∧
      (∃ text, remoteServer.transport [] r = .error (.connection text)) ∧
      Server.received [r] = [] := by
  have hfront : ∀ r ∈ [pairRow "a" "b"], ¬ ∃ e, r.Refused (pairRow "a" "b").schema e := by
    rintro r hr ⟨e, he⟩
    obtain rfl := List.mem_singleton.1 hr
    cases he with
    | mixed htable => exact htable rfl
    | unwritten _ hline => exact nomatch hline
  have hother : otherRow.Refused (pairRow "a" "b").schema
      (.validation (.mixedRecords "pairs" "other")) := .mixed (by decide)
  have hknown : shopClient.connection.capabilities = some .fallback := rfl
  have hreads : remoteServer.transport.ReadsBodies := Transport.readsBodies_of_taken fun _ _ => rfl
  obtain ⟨-, r, hrun, hscript, hreceived⟩ :=
    run_insertWith_refused hreads (by decide : 1 ≠ 0) rfl hknown
      (rfl : _ = [pairRow "a" "b"] ++ otherRow :: [pairRow "c" "d"]) hfront hother
  exact ⟨r, hrun, (hscript remoteServer).1, hreceived⟩

end Action

end Columnar
