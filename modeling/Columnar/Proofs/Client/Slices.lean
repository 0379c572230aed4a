import Columnar.Proofs.Client.Restriction
import Columnar.Proofs.Text.Numeral
import Mathlib.Algebra.Order.Floor.Div

/-!
The pages of a table, one behind the other.

The server counts the rows and gives any slice of them in the order that is asked for (`Serves`).
Then the pages from the first to the last are the whole table cut into pieces of one size, each row
exactly once, and the query of each of them names the number of rows in front of it: the product is
never cut to what the server can be told, since it is less than the number of rows. Behind the last
page there are no rows, and the page with the number -1 is the last one (`pages_of_listing`).
-/

namespace Columnar

/-! ### Numerals in replies -/

/-- The numeral of a count is read, with or without blanks around it. -/
theorem Action.readCount_eq {reply : String} {n : Nat} (h : Text.trimText reply = toString n)
    (hn : n ≤ Text.wordMax 64) : readCount reply = .ok n := by
  have hne : toString n ≠ "" := by
    intro hempty
    have hnil : (toString n).toList = [] := by rw [hempty]; rfl
    exact Nat.toDigits_ne_nil (Nat.toList_repr.symm.trans hnil)
  simp only [readCount, h, if_neg hne, Text.readNat?_toString hn, orFail_some]

/-! ### Slices of rows -/

namespace Page

variable {α : Type} {rows : List α} {count number size : Nat}

/-- The rows of a page. -/
def part (rows : List α) (number size : Nat) : List α :=
  (rows.drop ((number - 1) * size)).take size

theorem lt_total_iff {k : Nat} (hsize : size ≠ 0) : k < total count size ↔ k * size < count := by
  rw [total, ← Nat.succ_le_iff, Nat.le_div_iff_mul_le (Nat.pos_of_ne_zero hsize), Nat.succ_mul]
  omega

/-- In front of a page that there is, the rows are fewer than all of them. -/
theorem offset_lt (hsize : size ≠ 0) (hfirst : 1 ≤ number) (hlast : number ≤ total count size) :
    (number - 1) * size < count :=
  (lt_total_iff hsize).1 (Nat.lt_of_lt_of_le (Nat.sub_one_lt_of_lt hfirst) hlast)

/-- What the server is told is cut only where no rows are left. -/
theorem take_drop_offset (hrows : rows.length ≤ Text.wordMax 64) (number size : Nat) :
    (rows.drop (offset number size)).take size = part rows number size := by
  rcases Nat.le_total ((number - 1) * size) (Text.wordMax 64) with hle | hle
  · rw [offset, Nat.min_eq_right hle, part]
  · rw [offset, Nat.min_eq_left hle, part, List.drop_eq_nil_of_le hrows,
      List.drop_eq_nil_of_le (hrows.trans hle)]

theorem length_part (rows : List α) (number size : Nat) :
    (part rows number size).length = min size (rows.length - (number - 1) * size) := by
  rw [part, List.length_take, List.length_drop]

/-- The first pages hold the first rows. -/
theorem flatMap_part_range (rows : List α) (size : Nat) : ∀ k : Nat,
    (List.range k).flatMap (fun i => part rows (i + 1) size) = rows.take (k * size)
  | 0 => by rw [Nat.zero_mul]; rfl
  | k + 1 => by
    rw [List.range_succ, List.flatMap_append, flatMap_part_range rows size k,
      List.flatMap_singleton, part, Nat.add_sub_cancel, Nat.succ_mul, List.take_add]

/-- All pages hold all rows. -/
theorem flatMap_part_total (hsize : size ≠ 0) (rows : List α) :
    (List.range (total rows.length size)).flatMap (fun i => part rows (i + 1) size) = rows := by
  have hall : ¬ total rows.length size * size < rows.length := fun hlt =>
    absurd ((lt_total_iff hsize).2 hlt) (Nat.lt_irrefl _)
  rw [flatMap_part_range, List.take_of_length_le (Nat.le_of_not_lt hall)]

/-- All pages but the last are full, and the last one is not empty. -/
theorem length_part_of_le (hsize : size ≠ 0) (hfirst : 1 ≤ number)
    (hlast : number ≤ total rows.length size) :
    (number < total rows.length size → (part rows number size).length = size) ∧
      1 ≤ (part rows number size).length ∧ (part rows number size).length ≤ size := by
  have hoffset := offset_lt hsize hfirst hlast
  rw [length_part]
  refine ⟨fun hlt => ?_, ?_, Nat.min_le_left _ _⟩
  · have hnext : number * size < rows.length := (lt_total_iff hsize).1 hlt
    have hsucc : number * size = (number - 1) * size + size := by
      rw [← Nat.succ_mul, Nat.succ_eq_add_one, Nat.sub_add_cancel hfirst]
    omega
  · omega

/-- The numbers of pages are rounded up. -/
theorem total_eq_ceilDiv (count size : Nat) : total count size = count ⌈/⌉ size :=
  (Nat.ceilDiv_eq_add_pred_div count size).symm

/-- A number of a page stands for itself. -/
theorem resolve_natCast (number pages : Nat) : resolve (number : Int) pages = number := by
  rw [resolve, if_neg (by omega), Int.toNat_natCast]

/-- Behind the last page there are no rows. -/
theorem part_eq_nil (hsize : size ≠ 0) (h : total rows.length size < number) :
    part rows number size = [] := by
  have hbehind : ¬ (number - 1) * size < rows.length := fun hlt =>
    absurd ((lt_total_iff hsize).2 hlt) (by omega)
  rw [part, List.drop_eq_nil_of_le (Nat.le_of_not_lt hbehind), List.take_nil]

end Page

/-! ### Rows as the server writes them -/

/-- The rows of a table as the server writes them: the two lines of the header, and the lines of all
rows in the order that is asked for. -/
structure Listing where
  nameLine : String
  typeLine : String
  lines : List String

namespace Listing

variable {l : Listing} {schema : Schema} {zone : Calendar.Zone} {rows : List Row}

/-- The lines of the answer to a query for a slice. -/
def slice (l : Listing) (offset size : Nat) : List String :=
  l.nameLine :: l.typeLine :: (l.lines.drop offset).take size

/-- The header fits the schema, and each line is not blank and is decoded as the row in its
place. -/
def IsReadAs [Clocks] (l : Listing) (schema : Schema) (zone : Calendar.Zone) (rows : List Row) :
    Prop :=
  ∃ names types decoder, RowStream.readHeader l.nameLine = .ok names ∧
    RowStream.readHeader l.typeLine = .ok types ∧
    LineDecoder.ofNames schema names zone = .ok decoder ∧
    List.Forall₂ (fun line row => isFilled line = true ∧ decoder.decode line = .ok row) l.lines rows

theorem IsReadAs.length_eq [Clocks] (h : l.IsReadAs schema zone rows) :
    l.lines.length = rows.length := by
  obtain ⟨_, _, _, -, -, -, hlines⟩ := h
  exact hlines.length_eq

/-- Lines that are not blank are decoded one by one. -/
theorem decodeLines_of_forall₂ [Clocks] {decoder : LineDecoder} {lines : List String}
    {rows : List Row}
    (h : List.Forall₂ (fun line row => isFilled line = true ∧ decoder.decode line = .ok row)
      lines rows) :
    RowStream.decodeLines decoder (lines.map .ok) = rows.map .ok := by
  induction h with
  | nil => rfl
  | @cons line row _ _ hline _ ih =>
    have hfilled : Text.isBlankText line = false := by simpa [isFilled] using hline.1
    simp only [List.map_cons, RowStream.decodeLines, hfilled, Bool.false_eq_true, if_false,
      hline.2, ih]

/-- The rows of a slice are read from its lines. -/
theorem IsReadAs.ofLines_slice [Clocks] (h : l.IsReadAs schema zone rows) (offset size : Nat) :
    RowStream.ofLines (some schema) zone ((l.slice offset size).map .ok)
      = .ok ⟨schema, ((rows.drop offset).take size).map .ok⟩ := by
  obtain ⟨names, types, decoder, hnames, htypes, hdecoder, hlines⟩ := h
  have hslice := decodeLines_of_forall₂ (List.forall₂_take size (List.forall₂_drop offset hlines))
  have hgiven : (some schema).elim (RowStream.headerSchema names types) pure = .ok schema := rfl
  simp only [slice, List.map_cons, RowStream.ofLines, RowStream.ofParts, hnames, htypes, ok_bind,
    hgiven, hdecoder, hslice]
  rfl

/-- What a search for the offset finds gives the slice at it, also behind the last row. -/
theorem slice_find? (l : Listing) (offset size : Nat) :
    l.slice (((List.range l.lines.length).find? fun other => other = offset).getD l.lines.length)
      size = l.slice offset size := by
  by_cases hlt : offset < l.lines.length
  · have hfound : (List.range l.lines.length).find? (fun other => other = offset)
        = some offset := by
      rw [List.find?_range_eq_some]
      exact ⟨by simp, List.mem_range.2 hlt, fun j hj => by simpa using hj.ne⟩
    rw [hfound, Option.getD_some]
  · have hmissing : (List.range l.lines.length).find? (fun other => other = offset) = none := by
      rw [List.find?_range_eq_none]
      exact fun j hj => by simpa using (hj.trans_le (Nat.le_of_not_lt hlt)).ne
    rw [hmissing, Option.getD_none, slice, slice, List.drop_eq_nil_of_le (Nat.le_of_not_lt hlt),
      List.drop_length]

/-- What holds of the header and of all lines holds of the lines of a slice. -/
theorem forall_mem_slice {l : Listing} {p : String → Prop}
    (h : ∀ line ∈ l.nameLine :: l.typeLine :: l.lines, p line) :
    ∀ line ∈ l.slice offset size, p line := by
  intro line hline
  simp only [slice, List.mem_cons] at hline
  rcases hline with rfl | rfl | hline
  · exact h _ (by simp)
  · exact h _ (by simp)
  · exact h _ (by simp [List.mem_of_mem_drop (List.mem_of_mem_take hline)])

end Listing

/-- A stream without errors gives its rows. -/
theorem RowStream.collect_map_ok (schema : Schema) (rows : List Row) :
    RowStream.collect ⟨schema, rows.map .ok⟩ = .ok rows := by
  rw [collect, mapM_eq_ok_iff, List.forall₂_map_left_iff, List.forall₂_same]
  exact fun _ _ => rfl

/-! ### Servers with rows -/

/-- The query for a slice of the rows that meet a restriction, as the server gets it. -/
def sliceStatement (c : Connection) (schema : Schema) (restriction orderBy : String)
    (offset size : Nat) : String :=
  c.fill (some schema) ("SELECT * FROM $table" ++ restriction ++ " ORDER BY " ++ orderBy)
    ++ " LIMIT " ++ toString offset ++ ", " ++ toString size
    ++ " FORMAT TabSeparatedWithNamesAndTypes"

namespace Action

variable {transport : Transport} {client known : Client} {schema : Schema}
  {condition : Option Condition} {restriction orderBy : String} {number : Int} {size : Nat}
  {options : Options} {server : Capabilities} {listing : Listing} {rows : List Row}

/-- The request for a slice. -/
def sliceRequest (c : Connection) (schema : Schema) (restriction orderBy : String)
    (options : Options) (size offset : Nat) : Request :=
  request c (.ofText (sliceStatement c schema restriction orderBy offset size)) options

/-- From what the client has sent on, the server counts the rows of a listing and gives any slice of
them. -/
structure Serves (transport : Transport) (known : Client) (schema : Schema)
    (restriction orderBy : String) (size : Nat) (options : Options) (listing : Listing) : Prop where
  count : ∀ sent, known.sent <+: sent → ∃ reply,
    replyText (transport sent (countRequest known.connection schema restriction)) = .ok reply ∧
      Text.trimText reply = toString listing.lines.length
  slice : ∀ sent, known.sent <+: sent → ∀ offset ≤ Text.wordMax 64, ∃ response,
    transport sent (sliceRequest known.connection schema restriction orderBy options size offset)
        = .ok response ∧
      response.isSuccess = true ∧ response.body.lines = (listing.slice offset size).map .ok

/-- The server goes on as it did, whatever is sent. -/
theorem Serves.later
    (h : Serves transport known schema restriction orderBy size options listing) {after : Client}
    (hconnection : after.connection = known.connection) (hsent : known.sent <+: after.sent) :
    Serves transport after schema restriction orderBy size options listing where
  count sent hprefix := hconnection ▸ h.count sent (hsent.trans hprefix)
  slice sent hprefix := hconnection ▸ h.slice sent (hsent.trans hprefix)

/-- The client has been probed or can be, nothing else is found out than before, and what it has
sent begins as before. -/
def GoesOn (transport : Transport) (known client : Client) : Prop :=
  ∃ next, init.run transport client = (.ok (), next) ∧ next.connection = known.connection ∧
    known.sent <+: next.sent

/-- A page asks for the slice behind the rows of the pages in front of it. -/
theorem pageRequest_eq (c : Connection) (count : Nat) :
    pageRequest c schema restriction orderBy number size options count
      = sliceRequest c schema restriction orderBy options size
          (Page.offset (Page.resolve number (Page.total count size)) size) := by
  have hquery : Page.query restriction orderBy number size count
        ++ " FORMAT TabSeparatedWithNamesAndTypes"
      = "SELECT * FROM $table" ++ restriction ++ " ORDER BY " ++ orderBy
        ++ Page.slice number size count := by
    unfold Page.query Page.slice
    simp only [String.append_assoc]
  have hslice : (Page.slice number size count).toList.head? = some ' ' := by
    simp only [Page.slice, String.append_assoc]
    exact head?_append_of_head? rfl _
  rw [pageRequest, selectRequest, hquery, Connection.fill, Placeholder.fill_append_blank _ hslice,
    Placeholder.fill_eq_self (not_mem_slice number size count), sliceRequest, sliceStatement,
    Connection.fill]
  unfold Page.slice
  simp only [String.append_assoc]

/-! ### Pages one by one -/

section Served

variable [Clocks] (hinit : init.run transport client = (.ok (), known))
  (hserver : known.connection.capabilities = some server)
  (hclause : Condition.whereClause schema condition = .ok restriction)
  (hlength : rows.length ≤ Text.wordMax 64)
  (hreads : listing.IsReadAs schema server.zone rows)
  (hserves : Serves transport known schema restriction orderBy size options listing)

include hinit hserver hclause hlength hreads hserves

/-- A page holds its part of the rows; where there are any, it sends the count and one query. -/
theorem run_paginate_of_serves (hcheck : Page.check number size = .ok ()) {page : Nat}
    (hpage : Page.resolve number (Page.total rows.length size) = page) :
    (paginate schema orderBy number size condition options).run transport client
      = (.ok (Page.ofCount number size rows.length (Page.part rows page size)),
        if rows = [] then known.posting (countRequest known.connection schema restriction)
        else (known.posting (countRequest known.connection schema restriction)).posting
          (sliceRequest known.connection schema restriction orderBy options size
            (Page.offset page size))) := by
  obtain ⟨reply, hreply, hnumeral⟩ := hserves.count known.sent (List.prefix_refl _)
  have hcounted : counted transport known schema restriction = .ok rows.length := by
    rw [hreads.length_eq] at hnumeral
    rw [counted, hreply, ok_bind, readCount_eq hnumeral hlength]
  rw [run_paginate hcheck hclause hinit, hcounted, run_bind_ok (run_ofResult _)]
  by_cases hrows : rows = []
  · subst hrows
    have hnone : Page.part ([] : List Row) page size = [] := by simp [Page.part]
    rw [if_pos List.length_nil, if_pos rfl, hnone]
    rfl
  rw [if_neg (by simpa using hrows), if_neg hrows, run_bind_ofResult]
  -- The query goes out behind the count.
  obtain ⟨response, hresponse, hsuccess, hlines⟩ :=
    hserves.slice (known.posting (countRequest known.connection schema restriction)).sent
      (List.prefix_append _ _) (Page.offset page size) (Nat.min_le_left _ _)
  have hposting : (known.posting (countRequest known.connection schema restriction)
      ).connection.capabilities = some server := hserver
  have hrequest : selectRequest known.connection
      (Page.query restriction orderBy number size rows.length) (some schema) options
        = sliceRequest known.connection schema restriction orderBy options size
          (Page.offset page size) := hpage ▸ pageRequest_eq known.connection rows.length
  have hconnection : (known.posting (countRequest known.connection schema restriction)).connection
      = known.connection := rfl
  rw [run_select hposting, hconnection, hrequest, hresponse, ok_bind, accepted, if_pos hsuccess,
    ok_bind, hlines, hreads.ofLines_slice, ok_bind, RowStream.collect_map_ok,
    Page.take_drop_offset hlength]
  rfl

/-- A page that there is holds its part of the rows, and names the number of rows in front of it. -/
theorem run_paginate_of_le (hsize : size ≠ 0) {page : Nat} (hfirst : 1 ≤ page)
    (hlast : page ≤ Page.total rows.length size) :
    (paginate schema orderBy page size condition options).run transport client
      = (.ok (Page.ofCount page size rows.length (Page.part rows page size)),
        (known.posting (countRequest known.connection schema restriction)).posting
          (sliceRequest known.connection schema restriction orderBy options size
            ((page - 1) * size))) := by
  have hoffset := Page.offset_lt hsize hfirst hlast
  have hrows : rows ≠ [] := List.length_pos_iff.1 (Nat.zero_lt_of_lt hoffset)
  have huncut : Page.offset page size = (page - 1) * size :=
    Nat.min_eq_right (hoffset.le.trans hlength)
  rw [run_paginate_of_serves hinit hserver hclause hlength hreads hserves
    (Page.check_eq_ok hsize (.inl (by omega))) (Page.resolve_natCast _ _), if_neg hrows, huncut]

/-- The page with the number -1 is the last one, or the first one if there are no rows. -/
theorem run_paginate_last (hsize : size ≠ 0) :
    (paginate schema orderBy (-1) size condition options).run transport client
      = (paginate schema orderBy (max (Page.total rows.length size) 1 : Nat) size condition
          options).run transport client := by
  have hfirst : (1 : Int) ≤ (max (Page.total rows.length size) 1 : Nat) := by omega
  rw [run_paginate_of_serves hinit hserver hclause hlength hreads hserves
      (Page.check_eq_ok hsize (.inr rfl)) rfl,
    run_paginate_of_serves hinit hserver hclause hlength hreads hserves
      (Page.check_eq_ok hsize (.inl hfirst)) (Page.resolve_natCast _ _)]
  simp only [Page.ofCount, Page.resolve_natCast]
  rfl

/-! ### Pages one behind the other -/

omit hinit in
/-- A page that is asked for later holds its part of the rows, and the next one can be asked for. -/
theorem run_paginate_later (hsize : size ≠ 0) (page : Nat) {later : Client}
    (hlater : GoesOn transport known later) :
    ∃ after, (paginate schema orderBy (page + 1 : Nat) size condition options).run transport later
        = (.ok (Page.ofCount (page + 1 : Nat) size rows.length (Page.part rows (page + 1) size)),
          after) ∧ GoesOn transport known after := by
  obtain ⟨next, hnext, hconnection, hsent⟩ := hlater
  have hknown : next.connection.capabilities = some server := hconnection ▸ hserver
  have hrun := run_paginate_of_serves hnext hknown hclause hlength hreads
    (hserves.later hconnection hsent)
    (Page.check_eq_ok hsize (.inl (by omega))) (Page.resolve_natCast (page + 1) _)
  refine ⟨_, hrun, ?_⟩
  split
  · exact ⟨_, run_init hknown, hconnection, hsent.trans (List.prefix_append _ _)⟩
  · exact ⟨_, run_init hknown, hconnection,
      hsent.trans ((List.prefix_append _ _).trans (List.prefix_append _ _))⟩

/-- Pages can be asked for one after another; each holds its part of the rows. -/
theorem run_mapM_paginate (hsize : size ≠ 0) (pages : List Nat) :
    ∃ after, (pages.mapM fun i =>
        paginate schema orderBy (i + 1 : Nat) size condition options).run transport client
      = (.ok (pages.map fun i =>
          Page.ofCount (i + 1 : Nat) size rows.length (Page.part rows (i + 1) size)), after) := by
  obtain ⟨after, hrun, -⟩ := run_mapM_of_forall
    (fun page _ hlater => run_paginate_later hserver hclause hlength hreads hserves hsize page
      hlater) pages client ⟨known, hinit, rfl, List.prefix_refl _⟩
  exact ⟨after, hrun⟩

end Served

/-- The pages of a table of fewer than 2^64 rows, from the first to the last, hold each row once and
in order; all but the last are full, and the last one is not empty. Each asks for the slice behind
as many rows as the pages in front of it hold. Behind the last page there are no rows, and the page
with the number -1 is the last one; if there are no rows at all it is the first one, and only the
count is sent. -/
theorem pages_of_listing [Clocks] (hinit : init.run transport client = (.ok (), known))
    (hserver : known.connection.capabilities = some server)
    (hclause : Condition.whereClause schema condition = .ok restriction) (hsize : size ≠ 0)
    (hrows : rows.length < 2 ^ 64) (hreads : listing.IsReadAs schema server.zone rows)
    (hserves : Serves transport known schema restriction orderBy size options listing) :
    let page := fun number : Int => paginate schema orderBy number size condition options
    let total := rows.length ⌈/⌉ size
    let counting := countRequest known.connection schema restriction
    let slicing := sliceRequest known.connection schema restriction orderBy options size
    (∃ pages after,
      ((List.range total).mapM fun i => page (i + 1 : Nat)).run transport client
          = (.ok pages, after) ∧
        pages.map Page.objects
          = (List.range total).map (fun i => (rows.drop (i * size)).take size) ∧
        pages.flatMap Page.objects = rows) ∧
      (∀ number : Nat, 1 ≤ number → number ≤ total → ∃ objects,
        (page number).run transport client
            = (.ok { objects, count := rows.length, pagesTotal := total, number, size },
              { known with sent := known.sent ++ [counting, slicing ((number - 1) * size)] }) ∧
          objects = (rows.drop ((number - 1) * size)).take size ∧
          (number < total → objects.length = size) ∧
          1 ≤ objects.length ∧ objects.length ≤ size) ∧
      (∀ number : Nat, total < number → ∃ after, (page number).run transport client
          = (.ok { objects := [], count := rows.length, pagesTotal := total, number, size },
            after)) ∧
      (rows ≠ [] → (page (-1)).run transport client = (page total).run transport client) ∧
      (rows = [] → (page (-1)).run transport client
          = (.ok { objects := [], count := 0, pagesTotal := 0, number := 1, size },
            { known with sent := known.sent ++ [counting] })) := by
  intro page total counting slicing
  have hlength : rows.length ≤ Text.wordMax 64 := Nat.le_sub_one_of_lt hrows
  have htotal : total = Page.total rows.length size := (Page.total_eq_ceilDiv _ _).symm
  have hofCount : ∀ (number : Nat) (objects : List Row),
      Page.ofCount number size rows.length objects
        = { objects, count := rows.length, pagesTotal := total, number, size } := by
    intro number objects
    rw [Page.ofCount, Page.resolve_natCast, htotal]
  have hlast := run_paginate_last hinit hserver hclause hlength hreads hserves hsize
  rw [← htotal] at hlast
  refine ⟨?_, fun number hfirst hle => ?_, fun number hlt => ?_, fun hne => ?_, fun hnil => ?_⟩
  · obtain ⟨after, hrun⟩ := run_mapM_paginate hinit hserver hclause hlength hreads hserves hsize
      (List.range total)
    refine ⟨_, after, hrun, by rw [List.map_map]; rfl, ?_⟩
    rw [List.flatMap_map, htotal]
    exact Page.flatMap_part_total hsize rows
  · rw [htotal] at hle
    have hrun := run_paginate_of_le hinit hserver hclause hlength hreads hserves hsize hfirst hle
    obtain ⟨hfull, hpos, hsmall⟩ := Page.length_part_of_le hsize hfirst hle
    rw [hofCount] at hrun
    refine ⟨_, hrun.trans ?_, rfl, htotal ▸ hfull, hpos, hsmall⟩
    simp only [Client.posting, List.append_assoc, List.singleton_append]
    rfl
  · have hrun := run_paginate_of_serves hinit hserver hclause hlength hreads hserves
      (Page.check_eq_ok hsize (.inl (by omega))) (Page.resolve_natCast number _)
    rw [hofCount, Page.part_eq_nil hsize (htotal ▸ hlt)] at hrun
    exact ⟨_, hrun⟩
  · have hpos : 0 < total := by
      rw [htotal, Page.lt_total_iff hsize, Nat.zero_mul]
      exact List.length_pos_iff.2 hne
    rw [Nat.max_eq_left hpos] at hlast
    exact hlast
  · subst hnil
    have hzero : Page.total 0 size = 0 := by
      rw [Page.total, Nat.zero_add, Nat.div_eq_of_lt (by omega)]
    have hfirst : Page.resolve (-1) (Page.total 0 size) = 1 := by rw [hzero]; rfl
    refine (run_paginate_of_serves hinit hserver hclause hlength hreads hserves
      (Page.check_eq_ok hsize (.inr rfl)) hfirst).trans ?_
    simp only [Page.ofCount, List.length_nil, hzero, Page.part, List.drop_nil,
      List.take_nil, if_true]
    rfl

/-! ### A server with rows -/

theorem sliceStatement_inj {c : Connection} {offset offset' : Nat}
    (h : sliceStatement c schema restriction orderBy offset size
      = sliceStatement c schema restriction orderBy offset' size) : offset = offset' := by
  simp only [sliceStatement, ← String.toList_inj, String.toList_append] at h
  have hnumeral : (toString offset).toList = (toString offset').toList :=
    List.append_cancel_left (List.append_cancel_right (List.append_cancel_right
      (List.append_cancel_right h)))
  have hdigits : Nat.toDigits 10 offset = Nat.toDigits 10 offset' := by
    rw [← Nat.toList_repr, ← Nat.toList_repr]
    exact hnumeral
  rw [← Text.digitsValue_toDigits offset, hdigits, Text.digitsValue_toDigits]

/-- A server that answers with the number of the lines, or with the slice that is asked for. -/
def listingServer (l : Listing) (size : Nat) : Transport where
  answer _ r :=
    let asks (statement : String) : Bool := r.body.read.1 = Text.encodeUtf8 statement
    let c := shopClient.connection
    if asks (c.fill (some pairTable) ("SELECT count() FROM $table" ++ "")) then
      .ok ⟨200, .ofText (toString l.lines.length ++ "\n")⟩
    else
      let offset? := (List.range l.lines.length).find? fun offset =>
        asks (sliceStatement c pairTable "" "a" offset size)
      .ok ⟨200, .ofText (Text.terminated (l.slice (offset?.getD l.lines.length) size))⟩

/-- A query for a slice is not taken for a count. -/
theorem sliceStatement_ne_count (offset : Nat) :
    sliceStatement shopClient.connection pairTable "" "a" offset size
      ≠ shopClient.connection.fill (some pairTable) ("SELECT count() FROM $table" ++ "") := by
  have hrows : "SELECT * FROM $table" = "SELECT * FROM " ++ "$table" := eq_append_of_toList rfl
  have hall : "SELECT count() FROM $table" = "SELECT count() FROM " ++ "$table" :=
    eq_append_of_toList rfl
  intro heq
  have hchar := congrArg (fun s => s.toList[7]?) heq
  simp only [sliceStatement, Connection.fill, hrows, hall, String.append_assoc,
    Placeholder.fill_append (s := "SELECT * FROM ") (by decide),
    Placeholder.fill_append (s := "SELECT count() FROM ") (by decide),
    String.toList_append] at hchar
  rw [List.getElem?_append_left (by decide), List.getElem?_append_left (by decide)] at hchar
  exact absurd hchar (by decide)

theorem serves_listingServer {l : Listing}
    (hlines : ∀ line ∈ l.nameLine :: l.typeLine :: l.lines,
      '\n' ∉ line.toList ∧ '\r' ∉ line.toList) :
    Serves (listingServer l size) shopClient pairTable "" "a" size {} l where
  count sent _ := by
    have hanswer : listingServer l size sent (countRequest shopClient.connection pairTable "")
        = .ok ⟨200, .ofText (toString l.lines.length ++ "\n")⟩ := by
      simp [listingServer, countRequest, request]
    refine ⟨toString l.lines.length ++ "\n", ?_, Text.trimText_numeral _⟩
    rw [hanswer]
    exact Body.text_ofText _
  slice sent _ offset _ := by
    -- Only the offset that is asked for is found.
    have hasks : ∀ other, Text.encodeUtf8 (sliceStatement shopClient.connection pairTable "" "a"
        offset size) = Text.encodeUtf8 (sliceStatement shopClient.connection pairTable "" "a"
        other size) ↔ other = offset :=
      fun other => ⟨fun h => (sliceStatement_inj (Text.encodeUtf8_inj h)).symm, fun h => by rw [h]⟩
    have hne : Text.encodeUtf8 (sliceStatement shopClient.connection pairTable "" "a" offset size)
        ≠ Text.encodeUtf8 (shopClient.connection.fill (some pairTable)
          ("SELECT count() FROM $table" ++ "")) :=
      fun h => sliceStatement_ne_count offset (Text.encodeUtf8_inj h)
    refine ⟨⟨200, .ofText (Text.terminated (l.slice offset size))⟩, ?_, rfl, ?_⟩
    · simp only [listingServer, sliceRequest, request, Body.read_ofText, hne, decide_false,
        Bool.false_eq_true, if_false, hasks, l.slice_find? offset size]
    · rw [Body.lines_terminated (Listing.forall_mem_slice hlines)]

/-- Three rows of a table of two texts. -/
def threeRows : Listing where
  nameLine := "a\tb"
  typeLine := "String\tString"
  lines := ["x\ty", "u\tv", "p\tq"]

theorem isReadAs_threeRows :
    threeRows.IsReadAs pairTable .utc [pairRow "x" "y", pairRow "u" "v", pairRow "p" "q"] :=
  ⟨["a", "b"], ["String", "String"], ⟨pairTable, [0, 1], .utc⟩, rfl, rfl, rfl,
    .cons ⟨by decide, rfl⟩ (.cons ⟨by decide, rfl⟩ (.cons ⟨by decide, rfl⟩ .nil))⟩

/-- Three rows are on two pages of two. -/
theorem pages_of_listing_three :
    threeRows.IsReadAs pairTable .utc [pairRow "x" "y", pairRow "u" "v", pairRow "p" "q"] ∧
      ∃ pages after, ((List.range 2).mapM fun i =>
          paginate pairTable "a" (i + 1 : Nat) 2 none {}).run (listingServer threeRows 2) shopClient
            = (.ok pages, after) ∧
        pages.map Page.objects = [[pairRow "x" "y", pairRow "u" "v"], [pairRow "p" "q"]] ∧
        pages.flatMap Page.objects = [pairRow "x" "y", pairRow "u" "v", pairRow "p" "q"] := by
  have hserver : shopClient.connection.capabilities = some .fallback := rfl
  have hclause : Condition.whereClause pairTable none = .ok "" := rfl
  have hserves : Serves (listingServer threeRows 2) shopClient pairTable "" "a" 2 {} threeRows :=
    serves_listingServer (by decide)
  obtain ⟨hpages, -⟩ := pages_of_listing (run_init hserver) hserver hclause (by decide) (by decide)
    isReadAs_threeRows hserves
  exact ⟨isReadAs_threeRows, hpages⟩

end Action

end Columnar
