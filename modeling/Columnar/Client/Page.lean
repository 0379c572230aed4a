import Columnar.Client.Select

/-!
Pages: slices of fixed size of the ordered rows of a table.
-/

namespace Columnar

/-- One page of ordered rows. -/
structure Page (α : Type) where
  objects : List α
  /-- The number of rows on all pages. -/
  count : Nat
  pagesTotal : Nat
  /-- The number of this page, from 1. -/
  number : Nat
  size : Nat

namespace Page

/-- The number of pages. -/
def total (count size : Nat) : Nat :=
  (count + size - 1) / size

/-- The number of the page that is asked for; -1 asks for the last one. -/
def resolve (number : Int) (pagesTotal : Nat) : Nat :=
  if number = -1 then max pagesTotal 1 else number.toNat

/-- The number of rows before a page, cut to what the server can be told. -/
def offset (number size : Nat) : Nat :=
  min (Text.wordMax 64) ((number - 1) * size)

/-- Refuses pages without rows, and numbers that no page has. -/
def check (number : Int) (size : Nat) : Result Unit :=
  if size = 0 then .error (.config .emptyPage)
  else if number < 1 && number != -1 then .error (.config (.pageNumber number))
  else .ok ()

/-- The page with its objects read in another way. -/
def withObjects {α β : Type} (page : Page α) (objects : List β) : Page β :=
  { page with objects }

end Page

namespace Action

/-- One page of the rows of a table that meet a condition, in a given order. -/
def paginate [Clocks] (schema : Schema) (orderBy : String) (number : Int) (size : Nat)
    (condition : Option Condition) (options : Options) : Action (Page Row) := do
  ofResult (Page.check number size)
  let count ← count schema condition
  let pagesTotal := Page.total count size
  let number := Page.resolve number pagesTotal
  if count = 0 then pure { objects := [], count, pagesTotal, number, size }
  else
    let restriction ← ofResult (Condition.whereClause schema condition)
    let query := "SELECT * FROM $table" ++ restriction ++ " ORDER BY " ++ orderBy ++ " LIMIT "
      ++ toString (Page.offset number size) ++ ", " ++ toString size
    let stream ← select query (some schema) options
    let objects ← ofResult stream.collect
    pure { objects, count, pagesTotal, number, size }

end Action

end Columnar
