import Columnar.Tsv.Escape

/-!
Array literals such as `['a','b']` or `[[1,2],[3]]`.

A literal is read by one left fold over the characters between its outer brackets. The scan is
either between elements, inside a quoted element, or inside a bare one; a bare element counts its
open brackets and steps over quoted strings, so commas there do not end it. Quoted elements come out
unescaped and bare elements as they stand, without the blanks around them.

    between ── ' ──▶ quoted ⇄ quotedEscape
       │  ▲            │ '
       │  └────────────┘
       └─ other ──▶ bare ⇄ bareQuoted ⇄ bareEscape
                      └── , outside brackets ──▶ between
-/

namespace Columnar.Tsv

/-- One element of an array literal. -/
inductive Element where
  /-- A text that stood in single quotes, unescaped. -/
  | quoted (text : String)
  /-- Anything else as it stands: a number, `NULL`, a nested literal. -/
  | bare (text : String)
  deriving DecidableEq, Repr

namespace ArrayLiteral

/-- Where the scan stands. Texts are kept in reverse. -/
inductive Scan where
  | between
  | quoted (text : List Char)
  | quotedEscape (text : List Char)
  | bare (depth : Nat) (text : List Char)
  | bareQuoted (depth : Nat) (text : List Char)
  | bareEscape (depth : Nat) (text : List Char)
  deriving DecidableEq

/-- The elements completed so far, in order, and where the scan stands. -/
structure Progress where
  elements : List Element
  scan : Scan

/-- The bare element with the given characters (in reverse), without blanks around it. -/
def bareElement (text : List Char) : Element :=
  .bare (String.ofList (Text.trim text.reverse))

/-- One character inside a bare element; `none` on a bracket that closes nothing. -/
def stepBare (done : List Element) (depth : Nat) (text : List Char) (c : Char) : Option Progress :=
  if c = '[' || c = '(' then some ⟨done, .bare (depth + 1) (c :: text)⟩
  else if c = ']' || c = ')' then
    match depth with
    | 0 => none
    | depth + 1 => some ⟨done, .bare depth (c :: text)⟩
  else if c = '\'' then some ⟨done, .bareQuoted depth (c :: text)⟩
  else if c = ',' && depth = 0 then some ⟨done ++ [bareElement text], .between⟩
  else some ⟨done, .bare depth (c :: text)⟩

/-- One character of the scan; `none` when no literal continues this way. -/
def step (progress : Progress) (c : Char) : Option Progress :=
  let done := progress.elements
  match progress.scan with
  | .between =>
    if c = ',' || c = ' ' then some ⟨done, .between⟩
    else if c = '\'' then some ⟨done, .quoted []⟩
    else if c = '[' || c = '(' then some ⟨done, .bare 1 [c]⟩
    else some ⟨done, .bare 0 [c]⟩
  | .quoted text =>
    if c = '\\' then some ⟨done, .quotedEscape text⟩
    else if c = '\'' then some ⟨done ++ [.quoted (String.ofList text.reverse)], .between⟩
    else some ⟨done, .quoted (c :: text)⟩
  | .quotedEscape text => some ⟨done, .quoted (markedChar c :: text)⟩
  | .bare depth text => stepBare done depth text c
  | .bareQuoted depth text =>
    if c = '\\' then some ⟨done, .bareEscape depth (c :: text)⟩
    else if c = '\'' then some ⟨done, .bare depth (c :: text)⟩
    else some ⟨done, .bareQuoted depth (c :: text)⟩
  | .bareEscape depth text => some ⟨done, .bareQuoted depth (c :: text)⟩

/-- The elements when the text ends here; `none` inside a quote or an open bracket. -/
def finish (progress : Progress) : Option (List Element) :=
  match progress.scan with
  | .between => some progress.elements
  | .bare 0 text => some (progress.elements ++ [bareElement text])
  | _ => none

/-- The scan before the first character. -/
def start : Progress := ⟨[], .between⟩

/-- The elements between the brackets. -/
def ofInside? (inside : List Char) : Option (List Element) :=
  (inside.foldlM step start).bind finish

/-- What stands between an opening square bracket and the closing one at the end. -/
def inside? : List Char → Option (List Char)
  | '[' :: rest => if rest.getLast? = some ']' then some rest.dropLast else none
  | _ => none

end ArrayLiteral

/-- The top-level elements of an array literal; `none` when the text is not one. -/
def readArray? (text : String) : Option (List Element) :=
  (ArrayLiteral.inside? text.toList).bind ArrayLiteral.ofInside?

end Columnar.Tsv
