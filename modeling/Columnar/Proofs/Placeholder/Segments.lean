import Columnar.Proofs.Placeholder
import Columnar.Proofs.Text.Blank

/-!
Statements put together from texts and placeholders.

A text whose dollar signs are doubled is filled as itself, whatever stands behind it, and a
placeholder as the name it stands for, or as itself where there is none. A placeholder in braces
ends at its brace; a bare one needs a character behind it that ends its name. So a statement made of
such segments is filled segment by segment (`fill_written`), and what is put in for one is not
scanned again, whatever the names are.
-/

namespace Columnar.Placeholder

variable {database : String} {schema : Option Schema}

/-! ### Segments -/

/-- What a placeholder stands for. -/
inductive Target where
  | database
  | table

/-- The name of a placeholder. -/
def Target.name : Target → List Char
  | .database => ['d', 'b']
  | .table => ['t', 'a', 'b', 'l', 'e']

/-- A part of a statement. -/
inductive Segment where
  /-- A text that is meant as it stands. -/
  | text (s : String)
  /-- A placeholder, in braces or bare. -/
  | placeholder (target : Target) (inBraces : Bool)

/-- A text with its dollar signs doubled. -/
def doubled (s : List Char) : List Char :=
  s.flatMap fun c => if c = '$' then ['$', '$'] else [c]

/-- What is behind the dollar sign of a placeholder. -/
def marker (target : Target) (inBraces : Bool) : List Char :=
  if inBraces then '{' :: (target.name ++ ['}']) else target.name

/-- A segment as it stands in the statement. -/
def Segment.written : Segment → List Char
  | text s => doubled s.toList
  | placeholder target inBraces => '$' :: marker target inBraces

/-- A segment in the filled statement; without a table its placeholder stays as it stands. -/
def Segment.filled (database : String) (schema : Option Schema) : Segment → List Char
  | text s => s.toList
  | placeholder .database _ => (backquoted database).toList
  | placeholder .table inBraces =>
    match schema with
    | some s => (s.reference database).toList
    | none => '$' :: marker .table inBraces

/-- Some segments as they stand in the statement. -/
def written (segments : List Segment) : List Char :=
  segments.flatMap Segment.written

/-- No character behind a bare placeholder goes on with its name. -/
def Separated : List Segment → Prop
  | [] => True
  | .placeholder _ false :: rest =>
    (∀ c, (written rest).head? = some c → isNameChar c = false) ∧ Separated rest
  | _ :: rest => Separated rest

/-! ### Texts -/

theorem doubled_cons (c : Char) (s : List Char) :
    doubled (c :: s) = (if c = '$' then ['$', '$'] else [c]) ++ doubled s :=
  List.flatMap_cons

/-- A text whose dollar signs are doubled is filled as itself. -/
theorem fillChars_doubled (rest : List Char) : ∀ s : List Char,
    fillChars database schema (doubled s ++ rest) = s ++ fillChars database schema rest
  | [] => rfl
  | c :: s => by
    rw [doubled_cons, List.append_assoc]
    by_cases hc : c = '$'
    · rw [if_pos hc, List.cons_append, List.cons_append, List.nil_append,
        fillChars_dollar_dollar, fillChars_doubled rest s, hc, List.cons_append]
    · rw [if_neg hc, List.singleton_append, fillChars_cons hc, fillChars_doubled rest s,
        List.cons_append]

/-! ### Placeholders -/

theorem dollar_not_mem_marker (target : Target) (inBraces : Bool) :
    '$' ∉ marker target inBraces := by
  cases target <;> cases inBraces <;> decide

theorem head?_marker_ne (target : Target) (inBraces : Bool) (rest : List Char) :
    (marker target inBraces ++ rest).head? ≠ some '$' := by
  cases target <;> cases inBraces <;> simp [marker, Target.name]

/-- A name in braces is found, whatever follows the closing brace. -/
theorem name?_braces {n : List Char} (hne : n ≠ []) (hbrace : '}' ∉ n) (rest : List Char) :
    name? ('{' :: (n ++ '}' :: rest)) = some (n, n.length + 2) := by
  have hname : (n ++ '}' :: rest).takeWhile (· != '}') = n := by
    refine (Text.span_append_cons (fun d hd => ?_) (by decide) rest).1
    exact bne_iff_ne.2 fun heq => hbrace (heq ▸ hd)
  exact name?_brace_eq_some_iff.2 ⟨hname, hne, by simp, rfl⟩

/-- A bare name is found if the character behind it does not go on with it. -/
theorem name?_bare {c : Char} {n rest : List Char} (hstart : isNameStart c = true)
    (hn : ∀ d ∈ n, isNameChar d = true)
    (hrest : ∀ d, rest.head? = some d → isNameChar d = false) :
    name? (c :: (n ++ rest)) = some (c :: n, n.length + 1) := by
  have hc : c ≠ '{' := by
    rintro rfl
    exact absurd hstart (by decide)
  exact (name?_word_eq_some_iff hc).2 ⟨hstart, by rw [(Text.span_append hn hrest).1], rfl⟩

/-- A placeholder is found by its name. -/
theorem name?_marker (target : Target) {inBraces : Bool} {rest : List Char}
    (h : inBraces = false → ∀ c, rest.head? = some c → isNameChar c = false) :
    name? (marker target inBraces ++ rest)
      = some (target.name, (marker target inBraces).length) := by
  cases inBraces with
  | true =>
    have hmarker : marker target true ++ rest = '{' :: (target.name ++ '}' :: rest) := by
      rw [marker, if_pos rfl, List.cons_append, List.append_assoc, List.singleton_append]
    rw [hmarker, name?_braces]
    · cases target <;> rfl
    · cases target <;> decide
    · cases target <;> decide
  | false =>
    cases target with
    | database => exact name?_bare rfl (List.all_eq_true.1 rfl) (h rfl)
    | table => exact name?_bare rfl (List.all_eq_true.1 rfl) (h rfl)

/-- A placeholder is filled with what it stands for, and scanning goes on behind it. -/
theorem fillChars_placeholder (target : Target) {inBraces : Bool} {rest : List Char}
    (h : inBraces = false → ∀ c, rest.head? = some c → isNameChar c = false) :
    fillChars database schema ((Segment.placeholder target inBraces).written ++ rest)
      = (Segment.placeholder target inBraces).filled database schema
        ++ fillChars database schema rest := by
  have hdrop : (marker target inBraces ++ rest).drop (marker target inBraces).length = rest :=
    List.drop_left
  rw [Segment.written, List.cons_append, fillChars_dollar (head?_marker_ne target inBraces rest),
    expand?, name?_marker target h]
  cases target with
  | database =>
    have hname : replacement? database schema Target.database.name = some (backquoted database) :=
      rfl
    simp only [Option.bind_eq_bind, Option.bind_some, hname, Option.pure_def, hdrop,
      Segment.filled]
  | table =>
    have hname : replacement? database schema Target.table.name
        = schema.map fun s => s.reference database := rfl
    cases schema with
    | some s =>
      simp only [Option.bind_eq_bind, Option.bind_some, hname, Option.map_some, Option.pure_def,
        hdrop, Segment.filled]
    | none =>
      -- The dollar sign is left, and no other one stands in the placeholder.
      simp only [Option.bind_eq_bind, Option.bind_some, hname, Option.map_none, Option.bind_none,
        Segment.filled, fillChars_append (dollar_not_mem_marker .table inBraces), List.cons_append]

/-! ### Statements -/

/-- Segments are filled one after the other. -/
theorem fillChars_written : ∀ {segments : List Segment}, Separated segments →
    fillChars database schema (written segments)
      = segments.flatMap (Segment.filled database schema)
  | [], _ => fillChars_nil
  | segment :: segments, h => by
    have hall : written (segment :: segments) = segment.written ++ written segments :=
      List.flatMap_cons
    rw [hall, List.flatMap_cons]
    cases segment with
    | text s =>
      have hrest : Separated segments := h
      rw [Segment.written, fillChars_doubled, fillChars_written hrest]
      rfl
    | placeholder target inBraces =>
      cases inBraces with
      | true =>
        have hrest : Separated segments := h
        rw [fillChars_placeholder target (by simp), fillChars_written hrest]
      | false =>
        obtain ⟨hend, hrest⟩ : _ ∧ Separated segments := h
        rw [fillChars_placeholder target fun _ => hend, fillChars_written hrest]

/-- A statement made of texts whose dollar signs are doubled and of placeholders is filled segment
by segment, whatever the names are. One without dollar signs is left alone. -/
theorem fill_written (database : String) (schema : Option Schema) (segments : List Segment)
    (h : Separated segments) :
    fill database schema (String.ofList (written segments))
        = String.ofList (segments.flatMap (Segment.filled database schema)) ∧
      ∀ statement : String, '$' ∉ statement.toList →
        fill database schema statement = statement := by
  refine ⟨?_, fun statement hstatement => fill_eq_self hstatement⟩
  rw [fill, String.toList_ofList, fillChars_written h]

/-- Placeholders next to each other and next to text that looks like one. -/
def priceSegments : List Segment :=
  [.text "cost $5 ", .placeholder .table false, .placeholder .database true, .text "$db",
    .placeholder .database false]

/-- A table whose name could be taken for placeholders. -/
def priceTable : Schema where
  table := "t$$table"

theorem fill_written_prices :
    Separated priceSegments ∧
      fill "d$db" (some priceTable) "cost $$5 $table$\x7bdb\x7d$$db$db"
        = "cost $5 `d$db`.`t$$table``d$db`$db`d$db`" ∧
      fill "d$db" none "cost $$5 $table$\x7bdb\x7d$$db$db" = "cost $5 $table`d$db`$db`d$db`" := by
  have hend : ∀ c, (written priceSegments.tail.tail).head? = some c → isNameChar c = false := by
    rintro c ⟨⟩
    rfl
  have hlast : ∀ c, (written []).head? = some c → isNameChar c = false := nofun
  have hseparated : Separated priceSegments := ⟨hend, hlast, trivial⟩
  exact ⟨hseparated, (fill_written "d$db" (some priceTable) priceSegments hseparated).1,
    (fill_written "d$db" none priceSegments hseparated).1⟩

end Columnar.Placeholder
