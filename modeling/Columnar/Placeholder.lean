import Columnar.Table.Schema

/-!
Placeholders for the database and the table in statements.

A dollar sign before `db` or `table`, bare or in braces, stands for the name in backquotes; two
dollar signs stand for one. Anything else after a dollar sign is left as it is, and so is the table
where there is none. What is put in is not scanned again.
-/

namespace Columnar.Placeholder

/-- Characters that a bare placeholder begins with. -/
def isNameStart (c : Char) : Bool :=
  c.isAlpha || c = '_'

/-- Characters of a bare placeholder. -/
def isNameChar (c : Char) : Bool :=
  c.isAlphanum || c = '_'

/-- The placeholder that follows a dollar sign: its name, and the number of characters it takes. -/
def name? : List Char → Option (List Char × Nat)
  | '{' :: rest =>
    let name := rest.takeWhile (· != '}')
    if name.isEmpty || name.length = rest.length then none else some (name, name.length + 2)
  | c :: rest =>
    if isNameStart c then
      let name := c :: rest.takeWhile isNameChar
      some (name, name.length)
    else none
  | [] => none

/-- What a placeholder stands for. -/
def replacement? (database : String) (schema : Option Schema) (name : List Char) :
    Option String :=
  if name = ['d', 'b'] then some (backquoted database)
  else if name = ['t', 'a', 'b', 'l', 'e'] then schema.map fun s => s.reference database
  else none

/-- The text for the placeholder that follows a dollar sign, and the number of characters it takes;
`none` where the dollar sign stands for itself. -/
def expand? (database : String) (schema : Option Schema) (rest : List Char) :
    Option (List Char × Nat) := do
  let (name, length) ← name? rest
  let text ← replacement? database schema name
  pure (text.toList, length)

/-- The characters of a statement with its placeholders replaced. -/
def fillChars (database : String) (schema : Option Schema) : List Char → List Char
  | [] => []
  | '$' :: '$' :: rest => '$' :: fillChars database schema rest
  | '$' :: rest =>
    match expand? database schema rest with
    | some (text, length) => text ++ fillChars database schema (rest.drop length)
    | none => '$' :: fillChars database schema rest
  | c :: rest => c :: fillChars database schema rest
termination_by s => s.length
decreasing_by
  all_goals simp only [List.length_cons, List.length_drop]; omega

/-- A statement with its placeholders replaced. -/
def fill (database : String) (schema : Option Schema) (statement : String) : String :=
  String.ofList (fillChars database schema statement.toList)

end Columnar.Placeholder
