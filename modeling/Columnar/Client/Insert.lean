import Columnar.Client.Statement

/-!
Inserts: records as the chunks of one request.

`Batches` takes records from the front and makes a chunk of the lines of so many at a time; the
first chunk begins with the header of the insert. A record that does not belong to the insert, or
that cannot be written, ends the chunks with an error, and is kept as the failure.
-/

namespace Columnar

/-- Records on their way into the chunks of an insert. -/
structure Batches where
  /-- The schema of the first record. -/
  schema : Schema
  /-- The header, until it has been sent. -/
  header : String
  /-- The records not yet taken. -/
  records : List Row
  /-- The number of records for a chunk. -/
  size : Nat
  size_ne_zero : size ≠ 0
  /-- The error of the record that ended the chunks. -/
  failure : Option ClientError := none

namespace Batches

/-- The line of a record, which must be of the table of the first one. -/
def line (b : Batches) (record : Row) : Result String :=
  if record.schema.table = b.schema.table then record.line b.schema.insertFormat
  else .error (.validation (.mixedRecords b.schema.table record.schema.table))

/-- The lines of at most `n` records from the front, and the records left; with an error, the
records behind the one it belongs to. -/
def takeLines (b : Batches) : Nat → List Row → Except ClientError String × List Row
  | 0, records => (.ok "", records)
  | _ + 1, [] => (.ok "", [])
  | n + 1, record :: records =>
    match b.line record with
    | .error error => (.error error, records)
    | .ok line =>
      let (lines, rest) := takeLines b n records
      (lines.map (line ++ ·), rest)

theorem length_takeLines_le (b : Batches) (n : Nat) (records : List Row) :
    (b.takeLines n records).2.length ≤ records.length := by
  induction n generalizing records with
  | zero => simp [takeLines]
  | succ n ih =>
    cases records with
    | nil => simp [takeLines]
    | cons record records =>
      unfold takeLines
      split
      · simp
      · have := ih records
        simp only [List.length_cons]
        omega

theorem length_takeLines_lt (b : Batches) {n : Nat} {records : List Row} (hn : n ≠ 0)
    (hr : records ≠ []) : (b.takeLines n records).2.length < records.length := by
  cases n with
  | zero => exact absurd rfl hn
  | succ n =>
    cases records with
    | nil => exact absurd rfl hr
    | cons record records =>
      unfold takeLines
      split
      · simp
      · have := length_takeLines_le b n records
        simp only [List.length_cons]
        omega

/-- The next chunk, and what is left. No chunk follows an error. -/
def next (b : Batches) : Option (Result Text.Bytes) × Batches :=
  if b.records.isEmpty || b.failure.isSome then (none, b)
  else match b.takeLines b.size b.records with
    | (.ok lines, records) =>
      (some (.ok (Text.encodeUtf8 (b.header ++ lines))), { b with header := "", records })
    | (.error error, records) =>
      (some (.error error.asAborted), { b with header := "", records, failure := some error })

theorem length_of_next {b b' : Batches} {chunk : Result Text.Bytes}
    (h : b.next = (some chunk, b')) : b'.records.length < b.records.length := by
  unfold next at h
  split at h
  · simp at h
  · next hb =>
    simp only [Bool.or_eq_true, List.isEmpty_iff, not_or] at hb
    have hlt := b.length_takeLines_lt b.size_ne_zero hb.1
    split at h
    all_goals
      next heq =>
        rw [heq] at hlt
        have hb' := (Prod.ext_iff.1 h).2
        simp only at hb'
        rwa [← hb']

/-- All the chunks, and what is left after them. -/
def drain (b : Batches) : Body × Batches :=
  match _h : b.next with
  | (none, b') => ([], b')
  | (some chunk, b') =>
    let (chunks, last) := drain b'
    (chunk :: chunks, last)
termination_by b.records.length
decreasing_by exact length_of_next _h

end Batches

/-- The header of an insert into the table of a schema. -/
def Schema.insertHeader (s : Schema) : String :=
  let names := s.writableFields.map fun f => backquoted f.name
  "INSERT INTO $table (" ++ ",".intercalate names ++ ") FORMAT " ++ s.insertFormat.sql ++ "\n"

namespace Action

/-- Sends the chunks of an insert. A record's own error counts more than what the transport says
about the body it broke off, provided that the transport has come as far as that record. -/
def sendBatches (batches : Batches) (options : Options) : Action Unit := do
  let (body, last) := batches.drain
  let failure := if ← takesAll body options then last.failure else none
  let sending : Action Unit := do
    let response ← dispatch body options
    let _ ← ofResult response.body.drain
  match failure with
  | none => sending
  | some error =>
    tryCatch sending fun _ => pure ()
    throw error

/-- Inserts records of one table in chunks of `size` records; nothing is sent for no record. -/
def insertWith (records : List Row) (size : Nat) (options : Options) : Action Unit := do
  if hsize : size = 0 then throw (.config .emptyBatch)
  else
    match records with
    | [] => pure ()
    | first :: _ =>
      let schema := first.schema
      if schema.isReadOnly || schema.isSystem then throw (.validation .insertProtected)
      let header := (← connection).fill (some schema) schema.insertHeader
      init
      sendBatches { schema, header, records, size, size_ne_zero := hsize } options

/-- The number of records in a chunk when the caller does not say. -/
def defaultBatchSize : Nat := 1000

/-- Inserts records of one table. -/
def insert (records : List Row) : Action Unit :=
  insertWith records defaultBatchSize {}

end Action

end Columnar
