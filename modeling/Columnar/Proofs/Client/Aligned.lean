import Columnar.Proofs.Client.Batches
import Columnar.Proofs.Client.Header
import Columnar.Proofs.Table.Framing

/-!
The lines of an insert under the columns of its header.

A record belongs to an insert by the name of its table alone. Its line stands under its own columns
exactly if the line is framed (`linesUp_iff`). What an insert that succeeds has posted is the header
with the columns of the first record, as far as no placeholder occurs in their names, and a line for
each record (`posted_of_insertWith`). A record with other columns is posted all the same, and its
values get into the wrong ones (`swapped_row_posted`).
-/

namespace Columnar

open ColumnType (separators)

/-! ### Lines under columns -/

/-- The record's value for its field with the given name is written as the text. -/
def Row.Encodes (record : Row) (name text : String) : Prop :=
  ∃ f value, (f, value) ∈ record.schema.fields.zip record.values ∧ f.name = name ∧
    f.type.encode value = .ok text

/-- The line has one field for each column: the record's value for its field of that name. -/
def Row.LinesUp (record : Row) (columns : List String) (line : String) : Prop :=
  ∃ texts, line = "\t".intercalate texts ++ "\n" ∧ (∀ text ∈ texts, separators text = []) ∧
    List.Forall₂ record.Encodes columns texts

/-- The texts that stand as they are in the line of a record. -/
def Row.bareTexts (record : Row) : List String :=
  LineFormat.tabSeparated.bareTexts record.schema record.values

variable {record : Row} {line : String}

theorem written_tabSeparated (s : Schema) (values : List Value) :
    LineFormat.tabSeparated.written s values = writtenPairs s.fields values :=
  List.filter_congr fun p _ => writes_tabSeparated p.1 p.2

/-- A line has the values of the columns of its record. -/
theorem encodes_of_line (h : record.line .tabSeparated = .ok line) :
    ∃ texts, line = "\t".intercalate texts ++ "\n" ∧
      List.Forall₂ record.Encodes record.schema.writableNames texts ∧
      texts.flatMap separators = record.bareTexts.flatMap separators := by
  obtain ⟨hlength, texts, htexts, rfl⟩ := encodeLine_eq_ok h
  refine ⟨texts, rfl, ?_, ?_⟩
  · have hnames : record.schema.writableNames
        = (writtenPairs record.schema.fields record.values).map fun p => p.1.name := by
      rw [Schema.writableNames, Schema.writableFields, ← map_fst_writtenPairs hlength, List.map_map]
      rfl
    rw [written_tabSeparated] at htexts
    have hzip : ∀ p ∈ writtenPairs record.schema.fields record.values,
        p ∈ record.schema.fields.zip record.values := fun p hp => (List.mem_filter.1 hp).1
    rw [hnames, List.forall₂_map_left_iff]
    refine ((List.forall₂_and_left _ _).2 ⟨hzip, htexts⟩).imp ?_
    rintro ⟨f, value⟩ text ⟨hmem, htext⟩
    rw [entry_tabSeparated] at htext
    exact ⟨f, value, hmem, rfl, htext⟩
  · rw [Row.bareTexts, LineFormat.bareTexts, List.flatMap_assoc]
    exact flatMap_eq_of_forall₂ (fun _ _ h => separators_entry h) htexts

/-- The line of a record stands under the record's own columns exactly if it is framed. -/
theorem linesUp_iff (h : record.line .tabSeparated = .ok line) :
    record.LinesUp record.schema.writableNames line ↔
      ∀ text ∈ record.bareTexts, separators text = [] := by
  obtain ⟨texts, hline, hencodes, hbare⟩ := encodes_of_line h
  constructor
  · rintro ⟨others, hothers, hfree, hencodes'⟩
    -- Both ways to cut the line have as many parts, so that the first one cuts at all separators.
    have hlength : others.length = texts.length :=
      hencodes'.length_eq.symm.trans hencodes.length_eq
    have hcount : ∀ c, ColumnType.isSeparator c = true →
        (record.bareTexts.flatMap String.toList).count c = 0 := by
      intro c hc
      have hnone : (others.flatMap String.toList).count c = 0 := by
        rw [← count_flatMap_separators hc, List.flatMap_eq_nil_iff.2 hfree]
        rfl
      have hboth := congrArg (fun s => s.toList.count c) (hline.symm.trans hothers)
      simp only [String.toList_append, List.count_append, count_intercalate_tab, hlength,
        hnone] at hboth
      rw [← count_flatMap_separators hc, ← hbare, count_flatMap_separators hc]
      omega
    exact forall_separators_eq_nil_iff.2 ⟨hcount '\n' rfl, hcount '\t' rfl⟩
  · intro hfree
    rw [List.flatMap_eq_nil_iff.2 hfree] at hbare
    exact ⟨texts, hline, List.flatMap_eq_nil_iff.1 hbare, hencodes⟩

/-! ### Posted inserts -/

namespace Action

variable {transport : Transport} {client after : Client} {first : Row} {others : List Row}
  {lines : List String}

/-- Records that can be written are posted, whatever their columns are, and the insert fares as the
request does. -/
theorem run_insertWith_of_writes (transport : Transport) (client : Client) {size : Nat}
    {known : Capabilities} (options : Options) (hsize : size ≠ 0)
    (hwritable : (first.schema.isReadOnly || first.schema.isSystem) = false)
    (hknown : client.connection.capabilities = some known)
    (hlines : List.Forall₂ (Row.Writes first.schema) (first :: others) lines) :
    ∃ body : Body,
      body.read = (Text.encodeUtf8
        (first.schema.sentHeader client.connection.config.database ++ String.join lines), none) ∧
      (insertWith (first :: others) size options).run transport client
        = (transport client.sent (request client.connection body options) >>= accepted >>=
              fun response => response.body.drain.map fun _ => (),
            { client with sent := client.sent ++ [request client.connection body options] }) := by
  obtain ⟨hread, hfailure⟩ := Batches.drain_of_forall₂
    (b := batches client.connection first others hsize) rfl (by simp [batches]) hlines
  refine ⟨_, hread, ?_⟩
  rw [run_insertWith options hsize hwritable hknown, run_sendBatches options hfailure]

/-- Where every request is answered with success, records that can be written are posted, whatever
their columns are. -/
theorem run_insertWith_of_forall₂ (client : Client) {size : Nat} {known : Capabilities}
    (options : Options) (hsize : size ≠ 0)
    (hwritable : (first.schema.isReadOnly || first.schema.isSystem) = false)
    (hknown : client.connection.capabilities = some known)
    (haccepts : ∀ r, ∃ response bytes, transport client.sent r = .ok response ∧
      response.isSuccess = true ∧ response.body.drain = .ok bytes)
    (hlines : List.Forall₂ (Row.Writes first.schema) (first :: others) lines) :
    ∃ body : Body,
      body.read = (Text.encodeUtf8
        (first.schema.sentHeader client.connection.config.database ++ String.join lines), none) ∧
      (insertWith (first :: others) size options).run transport client = (.ok (),
        { client with sent := client.sent ++ [request client.connection body options] }) := by
  obtain ⟨body, hread, hrun⟩ := run_insertWith_of_writes transport client options hsize
    hwritable hknown hlines
  obtain ⟨response, bytes, hanswer, hsuccess, hdrain⟩ :=
    haccepts (request client.connection body options)
  refine ⟨body, hread, hrun.trans ?_⟩
  simp only [hanswer, ok_bind, accepted, if_pos hsuccess, hdrain, map_ok]

/-- On a transport that reads bodies, an insert that succeeds has posted the header and a line for
each record. The header has the columns of the first record by their own names exactly if no
placeholder occurs in these. The line of a record stands under the columns of that record, which
need not be those of the header, exactly if it is framed. -/
theorem posted_of_insertWith (hreads : transport.ReadsBodies) {size : Nat} {options : Options}
    (hformat : first.schema.insertFormat = .tabSeparated)
    (h : (insertWith (first :: others) size options).run transport client = (.ok (), after)) :
    ∃ (known : Client) (r : Request) (lines : List String), client.sent <+: known.sent ∧
      after.sent = known.sent ++ [r] ∧
      r.body.read = (Text.encodeUtf8
        (first.schema.sentHeader client.connection.config.database ++ String.join lines), none) ∧
      (first.schema.sentHeader client.connection.config.database
          = first.schema.plainHeader client.connection.config.database ↔
        ∀ name ∈ first.schema.writableNames, Placeholder.occurs name.toList = false) ∧
      List.Forall₂ (fun record line => record.Writes first.schema line ∧
        (record.LinesUp record.schema.writableNames line ↔
          ∀ text ∈ record.bareTexts, separators text = [])) (first :: others) lines := by
  obtain ⟨hsize, known, hkeeps, hsend⟩ := insertWith_eq_ok h
  rcases exists_writes_or_refused first.schema (first :: others) with
    ⟨lines, hlines⟩ | ⟨front, record, behind, lines, e, hrecords, hfront, hrefused⟩
  · obtain ⟨hread, hfailure⟩ := Batches.drain_of_forall₂
      (b := batches client.connection first others hsize) rfl (by simp [batches]) hlines
    obtain ⟨response, -, -, hsent⟩ := sendBatches_eq_ok hfailure hsend
    refine ⟨known, _, lines, hkeeps, hsent, hread, sentHeader_eq_iff first.schema, ?_⟩
    refine hlines.imp ?_
    intro record line hwrites
    exact ⟨hwrites, linesUp_iff (hformat ▸ hwrites.2)⟩
  -- With a record that cannot be written the insert would have failed.
  · obtain ⟨-, hfailure⟩ := Batches.drain_of_refused
      (b := batches client.connection first others hsize) rfl hrecords hfront hrefused
    rw [run_sendBatches_of_failure options hreads hfailure] at hsend
    exact absurd (Prod.ext_iff.1 hsend).1 (by simp)

/-- The server of the examples answers every request with success. -/
theorem pairServer_accepts (sent : List Request) (r : Request) :
    ∃ response bytes, pairServer [] sent r = .ok response ∧ response.isSuccess = true ∧
      response.body.drain = .ok bytes :=
  ⟨_, _, rfl, rfl, by rw [Body.drain, Body.read_ofText]⟩

/-- Two rows of one table, in chunks of one row. -/
theorem posted_of_insertWith_pairs : ∃ (body : Body) (lines : List String),
    (insertWith [pairRow "a" "b", pairRow "c" "d"] 1 {}).run (pairServer []) shopClient
        = (.ok (), { shopClient with sent := [request shopClient.connection body {}] }) ∧
      body.read = (Text.encodeUtf8 (pairTable.plainHeader "shop" ++ String.join lines), none) ∧
      List.Forall₂ (fun record line => record.LinesUp ["a", "b"] line)
        [pairRow "a" "b", pairRow "c" "d"] lines := by
  have hlines : List.Forall₂ (Row.Writes (pairRow "a" "b").schema)
      [pairRow "a" "b", pairRow "c" "d"] ["a\tb\n", "c\td\n"] :=
    .cons ⟨rfl, rfl⟩ (.cons ⟨rfl, rfl⟩ .nil)
  obtain ⟨body, -, hrun⟩ := run_insertWith_of_forall₂ shopClient {}
    (by decide : 1 ≠ 0) rfl rfl (pairServer_accepts _) hlines
  obtain ⟨known, r, lines, -, hsent, hread, hheader, hall⟩ := posted_of_insertWith
    (Transport.readsBodies_of_taken fun _ _ => rfl) rfl hrun
  obtain ⟨-, hr⟩ := List.append_inj' (hsent : [] ++ [request shopClient.connection body {}] = _) rfl
  obtain rfl := (List.cons.inj hr).1
  rw [hheader.2 (by decide)] at hread
  refine ⟨body, lines, hrun, hread, ?_⟩
  cases hall with
  | cons hfirst hrest =>
    cases hrest with
    | cons hsecond hnil =>
      cases hnil
      exact .cons (hfirst.2.2 (by decide)) (.cons (hsecond.2.2 (by decide)) .nil)

/-- The same columns in another order. -/
def swappedTable : Schema where
  table := "pairs"
  fields := [{ name := "b", type := .string }, { name := "a", type := .string }]

/-- A row of the columns in the other order. -/
def swappedRow (b a : String) : Row :=
  ⟨swappedTable, [.text b, .text a]⟩

/-- Columns with placeholders in their names. -/
def dollarTable : Schema where
  table := "pairs"
  fields := [{ name := "$db", type := .string }, { name := "a$$b", type := .string }]

/-- A row with its columns in another order is posted under those of the first row, and a header
does not keep names with placeholders. -/
theorem swapped_row_posted :
    (∃ body : Body, body.read = (Text.encodeUtf8 (pairTable.plainHeader "shop"
        ++ String.join ["x\ty\n", "x\ty\n"]), none) ∧
      (insertWith [pairRow "x" "y", swappedRow "x" "y"] 10 {}).run (pairServer []) shopClient
        = (.ok (), { shopClient with sent := [request shopClient.connection body {}] })) ∧
      ¬ (swappedRow "x" "y").LinesUp ["a", "b"] "x\ty\n" ∧
      dollarTable.sentHeader "shop" ≠ dollarTable.plainHeader "shop" := by
  refine ⟨?_, ?_, ?_⟩
  · have hlines : List.Forall₂ (Row.Writes (pairRow "x" "y").schema)
        [pairRow "x" "y", swappedRow "x" "y"] ["x\ty\n", "x\ty\n"] :=
      .cons ⟨rfl, rfl⟩ (.cons ⟨rfl, rfl⟩ .nil)
    obtain ⟨body, hread, hrun⟩ := run_insertWith_of_forall₂ shopClient {}
      (by decide : 10 ≠ 0) rfl rfl (pairServer_accepts _) hlines
    have hheader : pairTable.sentHeader "shop" = pairTable.plainHeader "shop" :=
      (sentHeader_eq_iff pairTable).2 (by decide)
    exact ⟨body, by rw [← hheader]; exact hread, hrun⟩
  -- The first field of the line would have to be the value of `a`.
  · rintro ⟨texts, hline, -, hencodes⟩
    cases hencodes with
    | @cons _ text _ rest hfirst hrest =>
      obtain ⟨f, value, hmem, hname, htext⟩ := hfirst
      have htext : text = "y" := by
        simp only [swappedRow, swappedTable, List.zip_cons_cons, List.zip_nil_right, List.mem_cons,
          List.not_mem_nil, or_false, Prod.mk.injEq] at hmem
        rcases hmem with ⟨rfl, rfl⟩ | ⟨rfl, rfl⟩
        · exact absurd hname (by decide)
        · exact (Except.ok.inj htext).symm
      subst htext
      cases hrest with
      | cons hsecond hnil =>
        have hhead := congrArg (fun s => s.toList.head?) hline
        rw [String.intercalate_cons_cons] at hhead
        simp only [String.toList_append] at hhead
        exact absurd hhead (by simp)
  · exact fun h => absurd ((sentHeader_eq_iff dollarTable).1 h "$db" (by decide)) (by decide)

end Action

end Columnar
