import Columnar.Client.Page
import Columnar.Proofs.Client.Keeps
import Columnar.Proofs.Client.Rows

/-!
Pages, request by request.

The rows of a page are counted first, and queried only if there are any. A call that is refused, or
whose condition is, sends nothing; any other sends the count, which is one request, and then at most
the query (`sent_paginate`).
-/

namespace Columnar

/-- The query for the rows of a page, when the rows on all pages are counted. -/
def Page.query (restriction orderBy : String) (number : Int) (size count : Nat) : String :=
  "SELECT * FROM $table" ++ restriction ++ " ORDER BY " ++ orderBy ++ " LIMIT "
    ++ toString (Page.offset (Page.resolve number (Page.total count size)) size) ++ ", "
    ++ toString size

/-- The page with the given objects, when the rows on all pages are counted. -/
def Page.ofCount {α : Type} (number : Int) (size count : Nat) (objects : List α) : Page α where
  objects
  count
  pagesTotal := Page.total count size
  number := Page.resolve number (Page.total count size)
  size

theorem Page.check_eq_ok {number : Int} {size : Nat} (hsize : size ≠ 0)
    (h : 1 ≤ number ∨ number = -1) : Page.check number size = .ok () := by
  rw [Page.check, if_neg hsize, if_neg]
  simp only [Bool.and_eq_true, decide_eq_true_eq, bne_iff_ne, ne_eq]
  omega

/-- A page without rows, or with a number that no page has, is refused. -/
theorem Page.check_eq_error {number : Int} {size : Nat}
    (h : size = 0 ∨ number < 1 ∧ number ≠ -1) :
    Page.check number size
      = .error (.config (if size = 0 then .emptyPage else .pageNumber number)) := by
  rw [Page.check]
  split
  · rfl
  · next hsize =>
    obtain ⟨hlow, hlast⟩ := h.resolve_left hsize
    rw [if_pos (by simp [hlow, hlast])]

/-- The client after one more request. -/
def Client.posting (client : Client) (r : Request) : Client :=
  { client with sent := client.sent ++ [r] }

namespace Action

variable {transport : Transport} {client known : Client} {schema : Schema}
  {condition : Option Condition} {restriction orderBy : String} {number : Int} {size : Nat}
  {options : Options}

/-! ### Behind the probe -/

/-- A client whose probe has succeeded knows its server. -/
theorem known_of_init (h : init.run transport client = (.ok (), known)) :
    ∃ server, known.connection.capabilities = some server := by
  have hmap : init = (fun _ => ()) <$> capabilities := rfl
  rw [hmap, run_map] at h
  obtain ⟨hresult, hknown⟩ := Prod.ext_iff.1 h
  obtain ⟨server, hserver, -⟩ := map_eq_ok hresult
  exact ⟨server, capabilities_known (Prod.ext hserver hknown)⟩

/-- The probe does not matter for what statements are filled with. -/
theorem fill_of_init (h : init.run transport client = (.ok (), known)) (schema : Option Schema)
    (statement : String) :
    client.connection.fill schema statement = known.connection.fill schema statement := by
  have hconfig := (keeps_init transport client).2
  rw [h] at hconfig
  rw [Connection.fill, Connection.fill, hconfig]

/-- A known server is not probed. -/
theorem run_init {server : Capabilities} (h : client.connection.capabilities = some server) :
    init.run transport client = (.ok (), client) := by
  have hmap : init = (fun _ => ()) <$> capabilities := rfl
  rw [hmap, run_map, run_capabilities h]
  rfl

/-! ### Counts -/

/-- The request of a count. -/
def countRequest (c : Connection) (schema : Schema) (restriction : String) : Request :=
  request c (.ofText (c.fill (some schema) ("SELECT count() FROM $table" ++ restriction))) {}

/-- The number that a count reads from the answer to its request. -/
def counted (transport : Transport) (client : Client) (schema : Schema) (restriction : String) :
    Result Nat :=
  replyText (transport client.sent (countRequest client.connection schema restriction))
    >>= readCount

/-- A count is one request behind the probe. -/
theorem run_count (hrestriction : Condition.whereClause schema condition = .ok restriction)
    (hinit : init.run transport client = (.ok (), known)) :
    (count schema condition).run transport client
      = (counted transport known schema restriction,
          known.posting (countRequest known.connection schema restriction)) := by
  have hclause : (ofResult (Condition.whereClause schema condition)).run transport client
      = (.ok restriction, client) := by rw [run_ofResult, hrestriction]
  rw [count, run_bind_ok hclause, run_bind_ok run_connection, run_bind_ok hinit, run_bind,
    run_dispatchText, fill_of_init hinit, ← countRequest, counted, Client.posting]
  cases replyText (transport known.sent (countRequest known.connection schema restriction)) with
  | error e => rfl
  | ok reply => rw [ok_bind]; exact run_ofResult _

/-! ### Pages -/

/-- The request for the rows of a page. -/
def pageRequest (c : Connection) (schema : Schema) (restriction orderBy : String) (number : Int)
    (size : Nat) (options : Options) (count : Nat) : Request :=
  selectRequest c (Page.query restriction orderBy number size count) (some schema) options

/-- A page that is refused, or whose condition is, is no request. -/
theorem run_paginate_refused [Clocks] {e : ClientError}
    (h : (Page.check number size >>= fun _ => Condition.whereClause schema condition) = .error e) :
    (paginate schema orderBy number size condition options).run transport client
      = (.error e, client) := by
  rcases bind_eq_error h with hcheck | ⟨_, hcheck, hclause⟩
  · exact run_ofResult_bind hcheck _
  · have hfirst : (ofResult (Page.check number size)).run transport client = (.ok (), client) := by
      rw [run_ofResult, hcheck]
    have hcount : (count schema condition).run transport client = (.error e, client) :=
      run_ofResult_bind hclause _
    rw [paginate, run_bind_ok hfirst, run_bind_error hcount]

/-- The requests of a page on a known server. -/
def pageRequests (transport : Transport) (client : Client) (schema : Schema)
    (restriction orderBy : String) (number : Int) (size : Nat) (options : Options) : List Request :=
  countRequest client.connection schema restriction ::
    match counted transport client schema restriction with
    | .error _ | .ok 0 => []
    | .ok (n + 1) =>
      [pageRequest client.connection schema restriction orderBy number size options (n + 1)]

section Accepted

variable (hcheck : Page.check number size = .ok ())
  (hrestriction : Condition.whereClause schema condition = .ok restriction)
  (hinit : init.run transport client = (.ok (), known))

include hcheck hrestriction hinit

/-- A page begins with the count. -/
theorem run_paginate [Clocks] :
    (paginate schema orderBy number size condition options).run transport client =
      (ofResult (counted transport known schema restriction) >>= fun n =>
        if n = 0 then pure (Page.ofCount number size n [])
        else select (Page.query restriction orderBy number size n) (some schema) options >>=
          fun stream => ofResult (stream.collect.map (Page.ofCount number size n))).run transport
        (known.posting (countRequest known.connection schema restriction)) := by
  have hfirst : (ofResult (Page.check number size)).run transport client = (.ok (), client) := by
    rw [run_ofResult, hcheck]
  rw [paginate, run_bind_ok hfirst, run_bind, run_count hrestriction hinit, run_bind, run_ofResult]
  cases counted transport known schema restriction with
  | error e => rfl
  | ok n =>
    simp only [hrestriction, ← ofResult_bind_pure]
    rfl

/-- A page is the count and, if that is not zero, the query for the rows. -/
theorem sent_paginate [Clocks] :
    ((paginate schema orderBy number size condition options).run transport client).2.sent
      = known.sent ++ pageRequests transport known schema restriction orderBy number size options
      := by
  obtain ⟨server, hserver⟩ := known_of_init hinit
  rw [run_paginate hcheck hrestriction hinit, pageRequests]
  cases counted transport known schema restriction with
  | error e => rfl
  | ok n =>
    cases n with
    | zero => rfl
    | succ n =>
      have hposting : ∀ r, (known.posting r).connection.capabilities = some server :=
        fun _ => hserver
      rw [run_bind_ok (run_ofResult _), if_neg n.succ_ne_zero, run_bind_ofResult,
        run_select (hposting _)]
      exact List.append_assoc _ _ _

end Accepted

end Action

end Columnar
