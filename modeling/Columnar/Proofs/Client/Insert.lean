import Columnar.Proofs.Client.Header
import Columnar.Proofs.Client.Keeps
import Columnar.Proofs.Client.Rows

/-!
What an insert sends.

The chunks of an insert go out in one request. Where a record fails, its error counts, whatever the
transport answers, if the transport has come as far as that record
(`run_sendBatches_of_failure`); one that reads bodies does (`ReadsBodies`). The only record of an
insert makes one chunk with the header (`drain_singleton`); an insert of it that succeeds has sent
this chunk in its last request (`insertWith_singleton_eq_ok`), and one to a known server sends
nothing else (`run_insertWith_singleton`).
-/

namespace Columnar

/-- The transport takes every body to its end or its first error. -/
def Transport.ReadsBodies (transport : Transport) : Prop :=
  ∀ sent request, (Body.upToError request.body).length ≤ transport.taken sent request

/-- A transport that takes bodies whole reads them. -/
theorem Transport.readsBodies_of_taken {transport : Transport}
    (h : ∀ sent request, transport.taken sent request = request.body.length) :
    transport.ReadsBodies :=
  fun sent request => h sent request ▸ Body.length_upToError_le request.body

namespace Batches

variable {b : Batches} {record : Row} {line : String}

theorem takeLines_nil (b : Batches) (n : Nat) : b.takeLines n [] = (.ok "", []) := by
  cases n <;> rfl

theorem takeLines_singleton (hline : b.line record = .ok line) :
    b.takeLines b.size [record] = (.ok line, []) := by
  cases hsize : b.size with
  | zero => exact absurd hsize b.size_ne_zero
  | succ n =>
    rw [takeLines, hline]
    simp only [takeLines_nil, map_ok, String.append_empty]

theorem drain_of_next_none {b' : Batches} (h : b.next = (none, b')) : b.drain = ([], b') := by
  rw [drain]
  split
  · next heq =>
    rw [h] at heq
    obtain ⟨-, rfl⟩ := Prod.ext_iff.1 heq
    rfl
  · next heq =>
    rw [h] at heq
    exact absurd (Prod.ext_iff.1 heq).1 (by simp)

theorem drain_of_next_some {b' : Batches} {chunk : Result Text.Bytes}
    (h : b.next = (some chunk, b')) : b.drain = (chunk :: b'.drain.1, b'.drain.2) := by
  rw [drain]
  split
  · next heq =>
    rw [h] at heq
    exact absurd (Prod.ext_iff.1 heq).1 (by simp)
  · next heq =>
    rw [h] at heq
    obtain ⟨hchunk, rfl⟩ := Prod.ext_iff.1 heq
    obtain rfl := Option.some.inj hchunk
    rfl

/-- No chunk follows an error. -/
theorem next_of_failure {e : ClientError} (h : b.failure = some e) : b.next = (none, b) := by
  rw [next, h]
  simp

/-- A call that gives an error keeps that of a record. -/
theorem exists_failure_of_next {b' : Batches} {e : ClientError}
    (h : b.next = (some (.error e), b')) : ∃ cause, b'.failure = some cause := by
  rw [next] at h
  split at h
  · exact absurd (Prod.ext_iff.1 h).1 (by simp)
  split at h
  · exact absurd (Prod.ext_iff.1 h).1 (by simp)
  · next error records _ =>
    obtain ⟨-, rfl⟩ := Prod.ext_iff.1 h
    exact ⟨error, rfl⟩

/-- An error is the last item of the body of an insert. -/
theorem upToError_drain (b : Batches) : Body.upToError b.drain.1 = b.drain.1 := by
  cases hnext : b.next with
  | mk chunk b' =>
    cases chunk with
    | none => rw [drain_of_next_none hnext, Body.upToError]
    | some chunk =>
      rw [drain_of_next_some hnext]
      cases chunk with
      | ok bytes => rw [Body.upToError, upToError_drain b']
      | error e =>
        obtain ⟨cause, hcause⟩ := exists_failure_of_next hnext
        rw [drain_of_next_none (next_of_failure hcause), Body.upToError]
termination_by b.records.length
decreasing_by exact length_of_next hnext

/-- A transport that reads bodies takes all the items of an insert. -/
theorem takesAll_drain {transport : Transport} (h : transport.ReadsBodies) (b : Batches)
    (sent : List Request) (params : Settings) :
    transport.takesAll sent ⟨params, b.drain.1⟩ = true := by
  have htaken := h sent ⟨params, b.drain.1⟩
  rw [upToError_drain] at htaken
  exact decide_eq_true htaken

/-- A single record makes one chunk with the header. -/
theorem drain_singleton {size : Nat} (header : String) (hsize : size ≠ 0)
    (hline : record.line record.schema.insertFormat = .ok line) :
    (⟨record.schema, header, [record], size, hsize, none⟩ : Batches).drain
      = ([.ok (Text.encodeUtf8 (header ++ line))],
          ⟨record.schema, "", [], size, hsize, none⟩) := by
  have hlines := takeLines_singleton (b := ⟨record.schema, header, [record], size, hsize, none⟩)
    ((if_pos rfl).trans hline)
  have hfirst : (⟨record.schema, header, [record], size, hsize, none⟩ : Batches).next
      = (some (.ok (Text.encodeUtf8 (header ++ line))),
          ⟨record.schema, "", [], size, hsize, none⟩) := by
    rw [next, hlines]
    rfl
  have hlast : (⟨record.schema, "", [], size, hsize, none⟩ : Batches).next
      = (none, ⟨record.schema, "", [], size, hsize, none⟩) := rfl
  rw [drain_of_next_some hfirst, drain_of_next_none hlast]

end Batches

namespace Action

variable {transport : Transport} {client after : Client}

/-! ### Sending chunks -/

/-- Chunks are sent in one request, and the reply to it is read to its end. -/
theorem run_dispatch_drain (body : Body) (options : Options) :
    (do
      let response ← dispatch body options
      let _ ← ofResult response.body.drain : Action Unit).run transport client
      = (transport client.sent (request client.connection body options) >>= accepted >>=
            fun response => response.body.drain.map fun _ => (),
          { client with sent := client.sent ++ [request client.connection body options] }) := by
  rw [run_bind, run_dispatch]
  cases transport client.sent (request client.connection body options) >>= accepted with
  | error e => rfl
  | ok response =>
    rw [ok_bind]
    simp only [run_bind, run_ofResult]
    cases response.body.drain <;> rfl

/-- Chunks without a failing record fare as their request does. -/
theorem run_sendBatches {batches : Batches} (options : Options)
    (hfailure : batches.drain.2.failure = none) :
    (sendBatches batches options).run transport client
      = (transport client.sent (request client.connection batches.drain.1 options) >>= accepted >>=
            fun response => response.body.drain.map fun _ => (),
          { client with
            sent := client.sent ++ [request client.connection batches.drain.1 options] }) := by
  rw [sendBatches, run_bind_ok (run_takesAll _ _)]
  simp only [hfailure, ite_self]
  exact run_dispatch_drain batches.drain.1 options

/-- The error of a failing record counts, whatever the answer of a transport that reads bodies. -/
theorem run_sendBatches_of_failure {batches : Batches} {e : ClientError} (options : Options)
    (hreads : transport.ReadsBodies) (hfailure : batches.drain.2.failure = some e) :
    (sendBatches batches options).run transport client
      = (.error e, { client with
          sent := client.sent ++ [request client.connection batches.drain.1 options] }) := by
  rw [sendBatches, run_bind_ok (run_takesAll _ _), request, batches.takesAll_drain hreads]
  simp only [hfailure, if_true]
  rw [run_bind, run_tryCatch, run_dispatch_drain]
  cases transport client.sent (request client.connection batches.drain.1 options) >>= accepted >>=
    fun response => response.body.drain.map fun _ => () <;> rfl

/-- Chunks without a failing record are sent in one request. -/
theorem sendBatches_eq_ok {batches : Batches} {options : Options}
    (hfailure : batches.drain.2.failure = none)
    (h : (sendBatches batches options).run transport client = (.ok (), after)) :
    ∃ response, transport client.sent (request client.connection batches.drain.1 options)
        = .ok response ∧ response.isSuccess = true ∧
      after.sent = client.sent ++ [request client.connection batches.drain.1 options] := by
  rw [run_sendBatches options hfailure] at h
  obtain ⟨hanswer, rfl⟩ := Prod.ext_iff.1 h
  obtain ⟨response, hresponse, -⟩ := bind_eq_ok hanswer
  obtain ⟨r, hr, haccepted⟩ := bind_eq_ok hresponse
  obtain ⟨rfl, hsuccess⟩ := accepted_eq_ok haccepted
  exact ⟨r, hr, hsuccess, rfl⟩

/-! ### Inserts -/

/-- The chunks of an insert, before the first of them is made. -/
def batches (c : Connection) (first : Row) (others : List Row) {size : Nat} (hsize : size ≠ 0) :
    Batches :=
  ⟨first.schema, first.schema.sentHeader c.config.database, first :: others, size, hsize, none⟩

/-- An insert that succeeds has sent its chunks once the server was known. -/
theorem insertWith_eq_ok {first : Row} {others : List Row} {size : Nat} {options : Options}
    (h : (insertWith (first :: others) size options).run transport client = (.ok (), after)) :
    ∃ (hsize : size ≠ 0) (known : Client), client.sent <+: known.sent ∧
      (sendBatches (batches client.connection first others hsize) options).run transport known
        = (.ok (), after) := by
  rw [insertWith] at h
  split at h
  · exact absurd (Prod.ext_iff.1 h).1 (by simp)
  next hsize =>
  dsimp only at h
  split at h
  · rw [run_bind_error (run_throw _)] at h
    exact absurd (Prod.ext_iff.1 h).1 (by simp)
  rw [run_bind_ok run_connection] at h
  obtain ⟨_, known, hinit, h⟩ := run_bind_eq_ok h
  have hkeeps := (keeps_init transport client).1
  rw [hinit] at hkeeps
  exact ⟨hsize, known, hkeeps, h⟩

/-- An insert into a table that may be written sends its chunks at once where the server is
known. -/
theorem run_insertWith {first : Row} {others : List Row} {size : Nat} {known : Capabilities}
    (options : Options) (hsize : size ≠ 0)
    (hwritable : (first.schema.isReadOnly || first.schema.isSystem) = false)
    (hknown : client.connection.capabilities = some known) :
    (insertWith (first :: others) size options).run transport client
      = (sendBatches (batches client.connection first others hsize) options).run
          transport client := by
  have hinit : init.run transport client = (.ok (), client) := by
    have hmap : init = (fun _ => ()) <$> capabilities := rfl
    rw [hmap, run_map, run_capabilities hknown]
    rfl
  rw [insertWith, dif_neg hsize]
  simp only [hwritable, Bool.false_eq_true, if_false]
  rw [run_bind_ok run_connection, run_bind_ok hinit]
  rfl

/-! ### One record -/

theorem drain_batches (c : Connection) {record : Row} {size : Nat} {line : String}
    (hsize : size ≠ 0) (hline : record.line record.schema.insertFormat = .ok line) :
    (batches c record [] hsize).drain
      = (.ofText (c.fill (some record.schema) record.schema.insertHeader ++ line),
          ⟨record.schema, "", [], size, hsize, none⟩) :=
  Batches.drain_singleton _ hsize hline

/-- An insert of one record that succeeds has sent the line of the record behind the header in its
last request, and this request has succeeded. -/
theorem insertWith_singleton_eq_ok {record : Row} {size : Nat} {options : Options} {line : String}
    (hline : record.line record.schema.insertFormat = .ok line)
    (h : (insertWith [record] size options).run transport client = (.ok (), after)) :
    ∃ (known : Client) (r : Request) (response : Response), client.sent <+: known.sent ∧
      r.body = .ofText (client.connection.fill (some record.schema) record.schema.insertHeader
        ++ line) ∧
      transport known.sent r = .ok response ∧ response.isSuccess = true ∧
      after.sent = known.sent ++ [r] := by
  obtain ⟨hsize, known, hkeeps, h⟩ := insertWith_eq_ok h
  have hdrain := drain_batches client.connection hsize hline
  obtain ⟨response, hanswer, hsuccess, hsent⟩ := sendBatches_eq_ok (by rw [hdrain]) h
  rw [hdrain] at hanswer hsent
  exact ⟨known, _, response, hkeeps, rfl, hanswer, hsuccess, hsent⟩

/-- The request of an insert of one record. -/
def insertRequest (c : Connection) (record : Row) (line : String) (options : Options) : Request :=
  request c (.ofText (c.fill (some record.schema) record.schema.insertHeader ++ line)) options

/-- An insert of one record succeeds where the server is known and answers with success. -/
theorem run_insertWith_singleton {record : Row} {size : Nat} {options : Options} {line : String}
    {known : Capabilities} {response : Response} {bytes : Text.Bytes} (hsize : size ≠ 0)
    (hprotected : (record.schema.isReadOnly || record.schema.isSystem) = false)
    (hline : record.line record.schema.insertFormat = .ok line)
    (hknown : client.connection.capabilities = some known)
    (hanswer : transport client.sent (insertRequest client.connection record line options)
      = .ok response)
    (hsuccess : response.isSuccess = true) (hdrain : response.body.drain = .ok bytes) :
    (insertWith [record] size options).run transport client = (.ok (), { client with
      sent := client.sent ++ [insertRequest client.connection record line options] }) := by
  have hbatches := drain_batches client.connection hsize hline
  rw [run_insertWith options hsize hprotected hknown, run_sendBatches options (by rw [hbatches]),
    hbatches]
  rw [insertRequest, Body.ofText] at hanswer
  simp only [insertRequest, Body.ofText, hanswer, ok_bind, accepted, if_pos hsuccess, hdrain,
    map_ok]

end Action

end Columnar
