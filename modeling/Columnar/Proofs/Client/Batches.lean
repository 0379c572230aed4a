import Columnar.Proofs.Client.Insert

/-!
The chunks of an insert, call by call.

A call for a chunk takes so many records from the front and gives their lines (`next_of_forall₂`);
at a record that ends the insert it gives an error, and keeps that of the record
(`next_of_refused`). From these two steps follows what a whole run of calls gives, and what it takes
from the records (`gives_start`).
-/

namespace Columnar

/-! ### Lines of records -/

/-- The record goes into an insert of the first record's schema as the given line. -/
def Row.Writes (first : Schema) (record : Row) (line : String) : Prop :=
  record.schema.table = first.table ∧ record.line first.insertFormat = .ok line

/-- The record ends an insert of the first record's schema with the given error. -/
inductive Row.Refused (first : Schema) (record : Row) : ClientError → Prop
  /-- It is of another table. -/
  | mixed (htable : record.schema.table ≠ first.table) :
      Refused first record (.validation (.mixedRecords first.table record.schema.table))
  /-- It has no line. -/
  | unwritten {e : ClientError} (htable : record.schema.table = first.table)
      (hline : record.line first.insertFormat = .error e) : Refused first record e

/-- Every record can be written or ends the insert. -/
theorem Row.writes_or_refused (first : Schema) (record : Row) :
    (∃ line, record.Writes first line) ∨ ∃ e, record.Refused first e := by
  by_cases htable : record.schema.table = first.table
  · cases hline : record.line first.insertFormat with
    | ok line => exact .inl ⟨line, htable, hline⟩
    | error e => exact .inr ⟨e, .unwritten htable hline⟩
  · exact .inr ⟨_, .mixed htable⟩

/-- Records can all be written, or a first one of them ends the insert. -/
theorem exists_writes_or_refused (first : Schema) : ∀ records : List Row,
    (∃ lines, List.Forall₂ (Row.Writes first) records lines) ∨
      ∃ front record behind lines e, records = front ++ record :: behind ∧
        List.Forall₂ (Row.Writes first) front lines ∧ record.Refused first e
  | [] => .inl ⟨[], .nil⟩
  | record :: records => by
    rcases record.writes_or_refused first with ⟨line, hline⟩ | ⟨e, he⟩
    · rcases exists_writes_or_refused first records with
        ⟨lines, hlines⟩ | ⟨front, next, behind, lines, e, rfl, hfront, he⟩
      · exact .inl ⟨line :: lines, .cons hline hlines⟩
      · exact .inr ⟨record :: front, next, behind, line :: lines, e, rfl, .cons hline hfront, he⟩
    · exact .inr ⟨[], record, records, [], e, rfl, .nil, he⟩

namespace Batches

variable {b : Batches} {record : Row} {front behind : List Row} {lines : List String}
  {e : ClientError}

theorem line_of_writes {line : String} (h : record.Writes b.schema line) :
    b.line record = .ok line := by
  rw [Batches.line, if_pos h.1, h.2]

theorem line_of_refused (h : record.Refused b.schema e) : b.line record = .error e := by
  cases h with
  | mixed htable => rw [Batches.line, if_neg htable]
  | unwritten htable hline => rw [Batches.line, if_pos htable, hline]

/-! ### One call -/

/-- Records that can be written are taken with their lines, and then those behind them. -/
theorem takeLines_append (h : List.Forall₂ (Row.Writes b.schema) front lines) (n : Nat)
    (behind : List Row) : b.takeLines (front.length + n) (front ++ behind)
      = ((b.takeLines n behind).1.map (String.join lines ++ ·), (b.takeLines n behind).2) := by
  induction h with
  | nil =>
    have hmap : ∀ r : Result String, r.map (String.join [] ++ ·) = r := by
      intro r
      cases r <;> simp [Except.map]
    simp only [List.length_nil, Nat.zero_add, List.nil_append, hmap]
  | @cons record line front lines hrecord _ ih =>
    have hmap : ∀ (r : Result String) (s t : String),
        (r.map (s ++ ·)).map (t ++ ·) = r.map (t ++ s ++ ·) := by
      intro r s t
      cases r <;> simp [Except.map, String.append_assoc]
    rw [List.length_cons, Nat.succ_add, List.cons_append, takeLines, line_of_writes hrecord]
    simp only [ih, hmap, String.join_cons]

/-- A call gives the lines of the records it takes; the first one gives the header too. -/
theorem next_of_forall₂ (hfailure : b.failure = none) (hne : b.records ≠ [])
    (h : List.Forall₂ (Row.Writes b.schema) (b.records.take b.size) lines) :
    b.next = (some (.ok (Text.encodeUtf8 (b.header ++ String.join lines))),
      { b with header := "", records := b.records.drop b.size }) := by
  have htake : b.takeLines b.size b.records = (.ok (String.join lines), b.records.drop b.size) := by
    rcases Nat.le_total b.size b.records.length with hle | hle
    · have hfull := takeLines_append h 0 (b.records.drop b.size)
      rw [List.take_append_drop, List.length_take, Nat.min_eq_left hle, Nat.add_zero] at hfull
      rw [hfull]
      simp [takeLines, Except.map]
    · have hlast := takeLines_append h (b.size - b.records.length) []
      rw [List.take_of_length_le hle, List.append_nil, Nat.add_sub_cancel' hle, takeLines_nil]
        at hlast
      rw [hlast, List.drop_eq_nil_of_le hle]
      simp [Except.map]
  have hgo : (b.records.isEmpty || b.failure.isSome) = false := by simp [hfailure, hne]
  rw [next, hgo, htake]
  rfl

/-- A call that meets a record that ends the insert takes no record behind it. -/
theorem next_of_refused (hfailure : b.failure = none)
    (hrecords : b.records = front ++ record :: behind)
    (hfront : List.Forall₂ (Row.Writes b.schema) front lines) (hlt : front.length < b.size)
    (hrefused : record.Refused b.schema e) :
    b.next = (some (.error e.asAborted),
      { b with header := "", records := behind, failure := some e }) := by
  have htake : b.takeLines b.size b.records = (.error e, behind) := by
    obtain ⟨n, hn⟩ := Nat.exists_eq_add_of_lt hlt
    rw [hrecords, hn, Nat.add_assoc, takeLines_append hfront, takeLines, line_of_refused hrefused]
    rfl
  have hgo : (b.records.isEmpty || b.failure.isSome) = false := by simp [hfailure, hrecords]
  rw [next, hgo, htake]
  rfl

/-- No records, no chunk. -/
theorem next_of_nil (h : b.records = []) : b.next = (none, b) := by
  rw [next, h]
  rfl

/-! ### Call after call -/

/-- What is left after so many calls. -/
def after (b : Batches) : Nat → Batches
  | 0 => b
  | k + 1 => (b.after k).next.2

/-- What a call gives; calls are counted from zero. -/
def item (b : Batches) (k : Nat) : Option (Result Text.Bytes) :=
  (b.after k).next.1

/-- From a call that gives nothing and leaves everything on, nothing changes. -/
theorem after_of_next_none {k : Nat} (h : (b.after k).next = (none, b.after k)) :
    ∀ {j : Nat}, k ≤ j → b.after j = b.after k ∧ b.item j = none := by
  intro j hj
  have hafter : b.after j = b.after k := by
    induction j, hj using Nat.le_induction with
    | base => rfl
    | succ j _ ih => rw [after, ih, h]
  exact ⟨hafter, by rw [item, hafter, h]⟩

/-- The calls in front of the first that gives nothing make the body. -/
theorem drain_eq_of_items {count : Nat} {chunks : Nat → Result Text.Bytes}
    (hchunks : ∀ k < count, b.item k = some (chunks k)) (hend : b.item count = none) :
    b.drain = ((List.range count).map chunks, b.after (count + 1)) := by
  -- The body from a later call on, by induction on the number of calls that still give a chunk.
  have hfrom : ∀ n k, k + n = count → (b.after k).drain
      = ((List.range' k n).map chunks, b.after (count + 1)) := by
    intro n
    induction n with
    | zero =>
      rintro k rfl
      have hnone : (b.after k).next = (none, b.after (k + 1)) := Prod.ext hend rfl
      exact drain_of_next_none hnone
    | succ n ih =>
      intro k hk
      have hsome : (b.after k).next = (some (chunks k), b.after (k + 1)) :=
        Prod.ext (hchunks k (by omega)) rfl
      rw [drain_of_next_some hsome, ih (k + 1) (by omega)]
      rfl
  rw [List.range_eq_range']
  exact hfrom count 0 (Nat.zero_add count)

/-- The bytes of a chunk: the header in front of the first one, and the lines of its records. -/
def chunk (header : String) (size : Nat) (lines : List String) (k : Nat) : Text.Bytes :=
  Text.encodeUtf8 ((if k = 0 then header else "")
    ++ String.join ((lines.drop (k * size)).take size))

/-- What is left after so many calls for records that can be written. -/
def rest (b : Batches) (k : Nat) : Batches :=
  { b with header := if k = 0 then b.header else "", records := b.records.drop (k * b.size) }

/-- While there are records, and those that a call takes can be written, it gives their chunk. -/
theorem next_rest {k : Nat} (hfailure : b.failure = none) (hrecords : b.records = front ++ behind)
    (h : List.Forall₂ (Row.Writes b.schema) front lines)
    (hk : (k + 1) * b.size ≤ front.length ∨ behind = []) (hlt : k * b.size < b.records.length) :
    (b.rest k).next = (some (.ok (chunk b.header b.size lines k)), b.rest (k + 1)) := by
  have hsucc : (k + 1) * b.size = k * b.size + b.size := Nat.succ_mul k b.size
  have hne : (b.rest k).records ≠ [] := by
    rw [rest, ← List.length_pos_iff, List.length_drop]
    omega
  have htaken : (b.rest k).records.take (b.rest k).size
      = (front.drop (k * b.size)).take b.size := by
    rw [rest, hrecords]
    rcases hk with hk | rfl
    · have hsize : b.size ≤ (front.drop (k * b.size)).length := by
        rw [List.length_drop]
        omega
      rw [List.drop_append_of_le_length (by omega), List.take_append_of_le_length hsize]
    · rw [List.append_nil]
  have hlines : List.Forall₂ (Row.Writes (b.rest k).schema)
      ((b.rest k).records.take (b.rest k).size) ((lines.drop (k * b.size)).take b.size) := by
    rw [htaken]
    exact List.forall₂_take b.size (List.forall₂_drop (k * b.size) h)
  rw [next_of_forall₂ (b := b.rest k) hfailure hne hlines]
  simp only [rest, chunk, List.drop_drop, hsucc, Nat.succ_ne_zero, if_false]

/-- So many calls for chunks of records that can be written. -/
theorem after_eq_rest (hfailure : b.failure = none) (hrecords : b.records = front ++ behind)
    (h : List.Forall₂ (Row.Writes b.schema) front lines) (n : Nat)
    (hcalls : ∀ k < n, ((k + 1) * b.size ≤ front.length ∨ behind = []) ∧
      k * b.size < b.records.length) :
    b.after n = b.rest n ∧
      ∀ k < n, b.item k = some (.ok (chunk b.header b.size lines k)) ∧
        b.after (k + 1) = b.rest (k + 1) := by
  have hafter : ∀ k ≤ n, b.after k = b.rest k := by
    intro k
    induction k with
    | zero => exact fun _ => by simp [after, rest]
    | succ k ih =>
      intro hk
      obtain ⟨hfront, hlt⟩ := hcalls k (by omega)
      rw [after, ih (by omega), next_rest hfailure hrecords h hfront hlt]
  refine ⟨hafter n le_rfl, fun k hk => ⟨?_, hafter (k + 1) hk⟩⟩
  obtain ⟨hfront, hlt⟩ := hcalls k hk
  rw [item, hafter k hk.le, next_rest hfailure hrecords h hfront hlt]

/-- The number of chunks of so many records. -/
def count (n size : Nat) : Nat :=
  (n + size - 1) / size

theorem lt_count_iff {n size k : Nat} (hsize : size ≠ 0) : k < count n size ↔ k * size < n := by
  rw [count, ← Nat.succ_le_iff, Nat.le_div_iff_mul_le (Nat.pos_of_ne_zero hsize), Nat.succ_mul]
  omega

/-! ### Whole inserts -/

/-- So many calls give the chunks of the lines, and take the records of these and no more. -/
structure Gives (b : Batches) (lines : List String) (count : Nat) : Prop where
  item : ∀ k < count, b.item k = some (.ok (chunk b.header b.size lines k))
  records : ∀ k < count, (b.after (k + 1)).records = b.records.drop ((k + 1) * b.size)

/-- From a call on nothing is given, and nothing changes: which records have not been taken, and
which error is kept. -/
structure Ends (b : Batches) (count : Nat) (behind : List Row) (failure : Option ClientError) :
    Prop where
  item : ∀ k ≥ count, b.item k = none
  records : ∀ k ≥ count, (b.after k).records = behind
  failure : ∀ k ≥ count, (b.after k).failure = failure

theorem ends_of_next_none {k : Nat} (h : (b.after k).next = (none, b.after k)) :
    b.Ends k (b.after k).records (b.after k).failure where
  item _ hj := (after_of_next_none h hj).2
  records _ hj := by rw [(after_of_next_none h hj).1]
  failure _ hj := by rw [(after_of_next_none h hj).1]

/-- Where all records can be written, nothing follows the chunk of the last one. -/
theorem gives_of_forall₂ (hfailure : b.failure = none)
    (h : List.Forall₂ (Row.Writes b.schema) b.records lines) :
    b.Gives lines (count b.records.length b.size) ∧
      b.Ends (count b.records.length b.size) [] none := by
  have hsize := b.size_ne_zero
  obtain ⟨hafter, hcalls⟩ := after_eq_rest hfailure (List.append_nil _).symm h
    (count b.records.length b.size) fun k hk => ⟨.inr rfl, (lt_count_iff hsize).1 hk⟩
  have hnil : (b.after (count b.records.length b.size)).records = [] := by
    rw [hafter]
    refine List.drop_eq_nil_of_le (Nat.le_of_not_lt fun hlt => ?_)
    exact absurd ((lt_count_iff hsize).2 hlt) (Nat.lt_irrefl _)
  have hnone : (b.after (count b.records.length b.size)).failure = none := by
    rw [hafter]
    exact hfailure
  have hends := ends_of_next_none (next_of_nil hnil)
  rw [hnil, hnone] at hends
  exact ⟨⟨fun k hk => (hcalls k hk).1, fun k hk => by rw [(hcalls k hk).2]; rfl⟩, hends⟩

/-- Behind the full batches in front of a record that cannot be written there is one error. -/
theorem gives_of_refused (hfailure : b.failure = none)
    (hrecords : b.records = front ++ record :: behind)
    (h : List.Forall₂ (Row.Writes b.schema) front lines) (hrefused : record.Refused b.schema e) :
    b.Gives lines (front.length / b.size) ∧
      b.item (front.length / b.size) = some (.error e.asAborted) ∧
      b.Ends (front.length / b.size + 1) behind (some e) := by
  have hpos : 0 < b.size := Nat.pos_of_ne_zero b.size_ne_zero
  have hlength : b.records.length = front.length + (behind.length + 1) := by
    rw [hrecords, List.length_append, List.length_cons]
  obtain ⟨hafter, hcalls⟩ := after_eq_rest hfailure hrecords h (front.length / b.size)
    fun k hk => by
      have hle : (k + 1) * b.size ≤ front.length := (Nat.le_div_iff_mul_le hpos).1 hk
      have hsucc : (k + 1) * b.size = k * b.size + b.size := Nat.succ_mul k b.size
      exact ⟨.inl hle, by omega⟩
  -- The batch of the record begins with fewer records than a chunk has.
  have hbatch : front.length / b.size * b.size ≤ front.length := Nat.div_mul_le_self _ _
  have hleft : (b.rest (front.length / b.size)).records
      = front.drop (front.length / b.size * b.size) ++ record :: behind := by
    rw [rest, hrecords, List.drop_append_of_le_length hbatch]
  have hlt : (front.drop (front.length / b.size * b.size)).length < b.size := by
    have hmod := Nat.div_add_mod' front.length b.size
    have hmodlt := Nat.mod_lt front.length hpos
    rw [List.length_drop]
    omega
  have hstop := next_of_refused (b := b.rest (front.length / b.size)) hfailure hleft
    (List.forall₂_drop _ h) hlt hrefused
  rw [← hafter] at hstop
  have hafter' : b.after (front.length / b.size + 1) = { b.after (front.length / b.size) with
      header := "", records := behind, failure := some e } := by
    rw [after, hstop]
  have hends := ends_of_next_none (k := front.length / b.size + 1)
    (next_of_failure (e := e) (by rw [hafter']))
  rw [hafter'] at hends
  refine ⟨⟨fun k hk => (hcalls k hk).1, fun k hk => ?_⟩, by rw [item, hstop], hends⟩
  rw [(hcalls k hk).2]
  rfl

/-! ### Bodies -/

/-- The chunks of records that can be written add up to the header and their lines. -/
theorem drain_of_forall₂ {b : Batches} {lines : List String} (hfailure : b.failure = none)
    (hheader : b.records = [] → b.header = "")
    (h : List.Forall₂ (Row.Writes b.schema) b.records lines) :
    b.drain.1.read = (Text.encodeUtf8 (b.header ++ String.join lines), none) ∧
      b.drain.2.failure = none := by
  by_cases hnil : b.records = []
  · obtain rfl : lines = [] := by
      rw [hnil] at h
      exact List.forall₂_nil_left_iff.1 h
    rw [drain_of_next_none (next_of_nil hnil), hheader hnil]
    exact ⟨by simp [Body.read], hfailure⟩
  · have hnext := next_of_forall₂ hfailure hnil (List.forall₂_take b.size h)
    obtain ⟨hread, hlast⟩ := drain_of_forall₂
      (b := { b with header := "", records := b.records.drop b.size }) hfailure (fun _ => rfl)
      (List.forall₂_drop b.size h)
    have hjoin : String.join lines
        = String.join (lines.take b.size) ++ String.join (lines.drop b.size) := by
      rw [← String.join_append, List.take_append_drop]
    rw [drain_of_next_some hnext]
    refine ⟨?_, hlast⟩
    simp only [Body.read, hread, hjoin, String.empty_append, Text.encodeUtf8_append,
      List.append_assoc]
termination_by b.records.length
decreasing_by
  have hpos := List.length_pos_iff.2 hnil
  have hsize := b.size_ne_zero
  simp only [List.length_drop]
  omega

/-- A record that cannot be written breaks the body off with its error, which is kept. -/
theorem drain_of_refused {b : Batches} {front behind : List Row} {record : Row}
    {lines : List String} {e : ClientError} (hfailure : b.failure = none)
    (hrecords : b.records = front ++ record :: behind)
    (h : List.Forall₂ (Row.Writes b.schema) front lines) (hrefused : record.Refused b.schema e) :
    b.drain.1.read.2 = some e.asAborted ∧ b.drain.2.failure = some e := by
  rcases Nat.lt_or_ge front.length b.size with hlt | hle
  · have hnext := next_of_refused hfailure hrecords h hlt hrefused
    rw [drain_of_next_some hnext, drain_of_next_none (next_of_failure (e := e) rfl)]
    exact ⟨rfl, rfl⟩
  · have hne : b.records ≠ [] := by simp [hrecords]
    have hsize := b.size_ne_zero
    have htake : b.records.take b.size = front.take b.size := by
      rw [hrecords, List.take_append_of_le_length hle]
    have hdrop : b.records.drop b.size = front.drop b.size ++ record :: behind := by
      rw [hrecords, List.drop_append_of_le_length hle]
    have hnext := next_of_forall₂ hfailure hne (by rw [htake]; exact List.forall₂_take b.size h)
    obtain ⟨hread, hlast⟩ := drain_of_refused
      (b := { b with header := "", records := b.records.drop b.size }) hfailure hdrop
      (List.forall₂_drop b.size h) hrefused
    rw [drain_of_next_some hnext]
    exact ⟨hread, hlast⟩
termination_by front.length
decreasing_by
  simp only [List.length_drop]
  omega

/-- What an insert of records begins with. -/
def start (header : String) {size : Nat} (hsize : size ≠ 0) (first : Row) (others : List Row) :
    Batches :=
  ⟨first.schema, header, first :: others, size, hsize, none⟩

/-- Where all records can be written there is one chunk for each full or last batch of them, and
nothing behind these. Otherwise there is one for each full batch in front of the first record that
cannot, and then one error; that record is the last one taken, and its error is kept. -/
theorem gives_start (header : String) {size : Nat} (hsize : size ≠ 0) (first : Row)
    (others : List Row) :
    (∀ lines, List.Forall₂ (Row.Writes first.schema) (first :: others) lines →
      (start header hsize first others).Gives lines (count (first :: others).length size) ∧
      (start header hsize first others).Ends (count (first :: others).length size) [] none ∧
      (start header hsize first others).drain.1
        = (List.range (count (first :: others).length size)).map fun k =>
            .ok (chunk header size lines k)) ∧
    ∀ front record behind lines e, first :: others = front ++ record :: behind →
      List.Forall₂ (Row.Writes first.schema) front lines → record.Refused first.schema e →
      (start header hsize first others).Gives lines (front.length / size) ∧
      (start header hsize first others).item (front.length / size) = some (.error e.asAborted) ∧
      (start header hsize first others).Ends (front.length / size + 1) behind (some e) ∧
      (start header hsize first others).drain.1
        = ((List.range (front.length / size)).map fun k => .ok (chunk header size lines k))
          ++ [.error e.asAborted] := by
  refine ⟨fun lines h => ?_, fun front record behind lines e hrecords h hrefused => ?_⟩
  · obtain ⟨hgives, hends⟩ := gives_of_forall₂ (b := start header hsize first others) rfl h
    have hdrain := drain_eq_of_items hgives.item (hends.item _ le_rfl)
    exact ⟨hgives, hends, by rw [hdrain]; rfl⟩
  · obtain ⟨hgives, herror, hends⟩ := gives_of_refused (b := start header hsize first others) rfl
      hrecords h hrefused
    -- As a list of items, the chunks and the error behind them.
    have hitems : ∀ k < front.length / size + 1, (start header hsize first others).item k
        = some (if k < front.length / size then .ok (chunk header size lines k)
          else .error e.asAborted) := by
      intro k hk
      rcases Nat.lt_succ_iff_lt_or_eq.1 hk with hlt | rfl
      · rw [if_pos hlt]
        exact hgives.item k hlt
      · rw [if_neg (Nat.lt_irrefl _)]
        exact herror
    refine ⟨hgives, herror, hends, ?_⟩
    rw [drain_eq_of_items hitems (hends.item _ le_rfl)]
    dsimp only
    rw [List.range_succ, List.map_append, List.map_singleton, if_neg (Nat.lt_irrefl _),
      List.map_congr_left fun k hk => if_pos (List.mem_range.1 hk)]

open Columnar.Action (pairRow)

/-- A row of another table. -/
def otherRow : Row :=
  ⟨{ table := "other" }, []⟩

/-- A batch of two rows in front of a row of another table. -/
theorem gives_start_pairs :
    List.Forall₂ (Row.Writes Action.pairTable) [pairRow "a" "b", pairRow "c" "d"]
        ["a\tb\n", "c\td\n"] ∧
      otherRow.Refused Action.pairTable (.validation (.mixedRecords "pairs" "other")) ∧
      (start "h\n" (by decide : 2 ≠ 0) (pairRow "a" "b") [pairRow "c" "d"]).drain.1
        = [.ok (Text.encodeUtf8 "h\na\tb\nc\td\n")] ∧
      (start "h\n" (by decide : 2 ≠ 0) (pairRow "a" "b") [pairRow "c" "d", otherRow]).drain.1
        = [.ok (Text.encodeUtf8 "h\na\tb\nc\td\n"),
          .error (ClientError.validation (.mixedRecords "pairs" "other")).asAborted] := by
  have hlines : List.Forall₂ (Row.Writes Action.pairTable) [pairRow "a" "b", pairRow "c" "d"]
      ["a\tb\n", "c\td\n"] := .cons ⟨rfl, rfl⟩ (.cons ⟨rfl, rfl⟩ .nil)
  have hother : otherRow.Refused Action.pairTable (.validation (.mixedRecords "pairs" "other")) :=
    .mixed (by decide)
  have hsize : 2 ≠ 0 := by decide
  obtain ⟨-, -, hwritten⟩ :=
    (gives_start "h\n" hsize (pairRow "a" "b") [pairRow "c" "d"]).1 _ hlines
  obtain ⟨-, -, -, hstopped⟩ :=
    (gives_start "h\n" hsize (pairRow "a" "b") [pairRow "c" "d", otherRow]).2
      [pairRow "a" "b", pairRow "c" "d"] otherRow [] _ _ rfl hlines hother
  exact ⟨hlines, hother, hwritten, hstopped⟩

end Batches

end Columnar
