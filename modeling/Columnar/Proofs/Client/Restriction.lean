import Columnar.Proofs.Client.Header
import Columnar.Proofs.Client.Page
import Columnar.Proofs.Condition.Filled

/-!
Conditions of counts and pages, as the server gets them.

A statement is filled after the text of the condition has been put into it. The server gets the
condition as it is written exactly if no placeholder occurs in the names and the texts that stand in
it in quotes: in all others `$$`, or a placeholder for the database or the table, gives way to
another text.
-/

namespace Columnar

/-- The statement of a count with a text as its condition. -/
def countStatement (database : String) (schema : Schema) (condition : String) : String :=
  "SELECT count() FROM " ++ schema.reference database ++ " WHERE " ++ condition

/-- The slice of the rows and the format, behind the order in the statement of a page. -/
def Page.slice (number : Int) (size count : Nat) : String :=
  " LIMIT " ++ toString (offset (resolve number (total count size)) size) ++ ", " ++ toString size
    ++ " FORMAT TabSeparatedWithNamesAndTypes"

/-- The statement for the rows of a page with texts as its condition and its order. -/
def pageStatement (database : String) (schema : Schema) (condition orderBy : String) (number : Int)
    (size count : Nat) : String :=
  "SELECT * FROM " ++ schema.reference database ++ " WHERE " ++ condition ++ " ORDER BY " ++ orderBy
    ++ Page.slice number size count

open Placeholder (fill fill_append fill_append_blank fill_eq_self fill_table occurs)

variable {database : String} {schema : Schema}

theorem head?_append_of_head? {s : String} {c : Char} (h : s.toList.head? = some c) (t : String) :
    (s ++ t).toList.head? = some c := by
  rw [String.toList_append, List.head?_append, h]
  rfl

theorem eq_append_of_toList {s a b : String} (h : s.toList = a.toList ++ b.toList) :
    s = a ++ b := by
  rw [← String.toList_inj, h, String.toList_append]

theorem fill_countStatement (condition : String) :
    fill database (some schema) ("SELECT count() FROM $table" ++ (" WHERE " ++ condition))
      = countStatement database schema (fill database (some schema) condition) := by
  have hfront : "SELECT count() FROM $table" = "SELECT count() FROM " ++ "$table" :=
    eq_append_of_toList rfl
  have hclause : (" WHERE " ++ condition).toList.head? = some ' ' := head?_append_of_head? rfl _
  rw [fill_append_blank _ hclause, hfront, fill_table (by decide), fill_append (by decide)]
  unfold countStatement
  simp only [String.append_assoc]

theorem not_mem_slice (number : Int) (size count : Nat) :
    '$' ∉ (Page.slice number size count).toList := by
  have hnumber : ∀ n : Nat, '$' ∉ (toString n).toList := fun n h =>
    absurd (Value.isBareChar_of_mem_toString (n := n) h) (by decide)
  simp only [Page.slice, String.toList_append, List.mem_append, hnumber, or_false]
  decide

theorem fill_pageStatement (condition orderBy : String) (number : Int) (size count : Nat) :
    fill database (some schema) (Page.query (" WHERE " ++ condition) orderBy number size count
        ++ " FORMAT TabSeparatedWithNamesAndTypes")
      = pageStatement database schema (fill database (some schema) condition)
        (fill database (some schema) orderBy) number size count := by
  have hquery : Page.query (" WHERE " ++ condition) orderBy number size count
        ++ " FORMAT TabSeparatedWithNamesAndTypes"
      = "SELECT * FROM $table" ++ (" WHERE " ++ condition) ++ (" ORDER BY " ++ orderBy)
        ++ Page.slice number size count := by
    unfold Page.query Page.slice
    simp only [String.append_assoc]
  have hfront : "SELECT * FROM $table" = "SELECT * FROM " ++ "$table" := eq_append_of_toList rfl
  have hclause : (" WHERE " ++ condition).toList.head? = some ' ' := head?_append_of_head? rfl _
  have horder : (" ORDER BY " ++ orderBy).toList.head? = some ' ' := head?_append_of_head? rfl _
  have hslice : (Page.slice number size count).toList.head? = some ' ' := by
    simp only [Page.slice, String.append_assoc]
    exact head?_append_of_head? rfl _
  rw [hquery, fill_append_blank _ hslice, fill_append_blank _ horder, fill_append_blank _ hclause,
    hfront, fill_table (by decide), fill_append (by decide), fill_append (by decide),
    fill_eq_self (not_mem_slice number size count)]
  unfold pageStatement
  simp only [String.append_assoc]

namespace Action

variable {transport : Transport} {client known : Client} {c : Condition}

/-- Counts and pages put the text of their condition, filled, behind the name of the table. A count
sends one statement, and a page sends the count and, unless that is zero or fails, the query for the
rows. The condition arrives as it is written exactly if no placeholder occurs in the names and the
texts that stand in it in quotes. -/
theorem sent_of_condition [Clocks] (hover : c.IsOver schema)
    (hinit : init.run transport client = (.ok (), known)) :
    let database := client.connection.config.database
    let filled := fill database (some schema)
    let counting :=
      request known.connection (.ofText (countStatement database schema (filled c.text))) {}
    c.sql schema = .ok c.text ∧
    ((count schema (some c)).run transport client).2.sent = known.sent ++ [counting] ∧
    (∀ (orderBy : String) (number : Int) (size : Nat) (options : Options),
      Page.check number size = .ok () →
      ((paginate schema orderBy number size (some c) options).run transport client).2.sent
        = known.sent ++ counting ::
          match replyText (transport known.sent counting) >>= readCount with
          | .error _ | .ok 0 => []
          | .ok (n + 1) => [request known.connection (.ofText (pageStatement database schema
              (filled c.text) (filled orderBy) number size (n + 1))) options]) ∧
    (filled c.text = c.text ↔ ∀ s ∈ c.quotedTexts, occurs s.toList = false) := by
  intro database filled counting
  have hdatabase : known.connection.config.database = database := by
    have hconfig := (keeps_init transport client).2
    rw [hinit] at hconfig
    exact congrArg Config.database hconfig
  have hclause := hover.whereClause_eq
  have hcounting : countRequest known.connection schema (" WHERE " ++ c.text) = counting := by
    rw [countRequest, Connection.fill, hdatabase, fill_countStatement]
  refine ⟨hover.sql_eq, ?_, ?_, ?_⟩
  · rw [run_count hclause hinit, hcounting]
    rfl
  · intro orderBy number size options hcheck
    rw [sent_paginate hcheck hclause hinit, pageRequests, counted, hcounting]
    cases replyText (transport known.sent counting) >>= readCount with
    | error e => rfl
    | ok n =>
      cases n with
      | zero => rfl
      | succ n =>
        simp only [pageRequest, selectRequest, Connection.fill, hdatabase, fill_pageStatement]
        rfl
  · rw [Placeholder.fill_eq_self_iff, hover.closed_text.occurs_eq]
    exact Condition.occursIn_eq_false_iff

/-- A condition on the first column. -/
def firstIs (s : String) : Condition :=
  .compare "a" .eq (.text s)

theorem isOver_firstIs (s : String) : (firstIs s).IsOver pairTable :=
  .compare rfl .eq (.text s)

theorem sent_of_condition_pairs :
    ((count pairTable (some (firstIs "x"))).run (pairServer []) shopClient).2.sent
      = [request shopClient.connection (.ofText (countStatement "shop" pairTable "`a` = 'x'")) {}]
    := by
  have hinit : init.run (pairServer []) shopClient = (.ok (), shopClient) := run_init rfl
  obtain ⟨-, hsent, -, hfilled⟩ := sent_of_condition (isOver_firstIs "x") hinit
  rw [hfilled.2 (by decide)] at hsent
  exact hsent

/-- Of two dollar signs in a value the server gets one. -/
theorem filtered_by_another_text :
    (firstIs "a$$b").sql pairTable = .ok "`a` = 'a$$b'" ∧
    ((count pairTable (some (firstIs "a$$b"))).run (pairServer []) shopClient).2.sent
      = [request shopClient.connection
          (.ofText (countStatement "shop" pairTable "`a` = 'a$b'")) {}] ∧
    countStatement "shop" pairTable "`a` = 'a$b'"
      ≠ countStatement "shop" pairTable "`a` = 'a$$b'" := by
  have hover := isOver_firstIs "a$$b"
  have htext : (firstIs "a$$b").text = "`a` = 'a" ++ "$$b'" := eq_append_of_toList rfl
  have hfill : fill shopClient.connection.config.database (some pairTable) "$$b'" = "$b'" := by
    rw [fill, show "$$b'".toList = '$' :: '$' :: "b'".toList from rfl,
      Placeholder.fillChars_dollar_dollar, Placeholder.fillChars_eq_self (by decide)]
    rfl
  have hshort : "`a` = 'a$b'" = "`a` = 'a" ++ "$b'" := eq_append_of_toList rfl
  refine ⟨hover.sql_eq, ?_, by decide⟩
  rw [run_count hover.whereClause_eq (run_init rfl), countRequest, Connection.fill,
    fill_countStatement, htext, fill_append (by decide), hfill, ← hshort]
  rfl

end Action

end Columnar
