import Columnar.Proofs.Text.Blank
import Columnar.Proofs.Tsv.Escape

/-!
Brackets, commas and quoted strings of a text.

The strings in single quotes are taken out of a text first, and what is left is read bracket by
bracket. `topCommas?` counts the commas outside of all of them, and is `none` for a text that leaves
a string or a bracket open or closes one that is not. The count goes on over texts that follow one
another (`topFrom?_append`).
-/

namespace Columnar.Tsv

/-! ### Quoted strings -/

/-- Where a character stands: outside of strings, in one, or behind a backslash in one. -/
inductive Quoting where
  | outside | inside | escaped
  deriving DecidableEq

/-- The characters outside of quoted strings; `none` if a string is not closed. -/
def bareChars? : Quoting → List Char → Option (List Char)
  | .outside, [] => some []
  | .inside, [] | .escaped, [] => none
  | .outside, c :: s =>
    if c = '\'' then bareChars? .inside s else (bareChars? .outside s).map (c :: ·)
  | .inside, c :: s =>
    if c = '\\' then bareChars? .escaped s
    else if c = '\'' then bareChars? .outside s
    else bareChars? .inside s
  | .escaped, _ :: s => bareChars? .inside s

theorem bareChars?_outside (c : Char) (s : List Char) : bareChars? .outside (c :: s)
    = if c = '\'' then bareChars? .inside s else (bareChars? .outside s).map (c :: ·) := rfl

theorem bareChars?_inside (c : Char) (s : List Char) : bareChars? .inside (c :: s)
    = if c = '\\' then bareChars? .escaped s
      else if c = '\'' then bareChars? .outside s else bareChars? .inside s := rfl

/-! ### Brackets -/

/-- The brackets that open a nested list or a tuple. -/
def isOpening (c : Char) : Bool :=
  c = '[' || c = '('

/-- The brackets that close one. -/
def isClosing (c : Char) : Bool :=
  c = ']' || c = ')'

theorem isOpening_eq_true_iff {c : Char} : isOpening c = true ↔ c = '[' ∨ c = '(' := by
  simp [isOpening]

theorem isClosing_eq_true_iff {c : Char} : isClosing c = true ↔ c = ']' ∨ c = ')' := by
  simp [isClosing]

theorem isOpening_of_isClosing {c : Char} (h : isClosing c = true) : isOpening c = false := by
  rcases isClosing_eq_true_iff.1 h with rfl | rfl <;> rfl

/-- The number of open brackets behind a character, from the number in front of it; `none` if it
closes a bracket that is not open. -/
def nest? (depth : Nat) (c : Char) : Option Nat :=
  if isOpening c then some (depth + 1)
  else if isClosing c then if depth = 0 then none else some (depth - 1)
  else some depth

/-- The number of commas outside of brackets, where so many brackets are open in front; `none` if a
bracket closes nothing or stays open. -/
def commas? : Nat → List Char → Option Nat
  | depth, [] => if depth = 0 then some 0 else none
  | depth, c :: s =>
    (nest? depth c).bind fun next =>
      (commas? next s).map fun n => if c = ',' && depth = 0 then n + 1 else n

/-- The number of commas outside of quoted strings and brackets, going on behind some text. -/
def topFrom? (quoting : Quoting) (depth : Nat) (text : List Char) : Option Nat :=
  (bareChars? quoting text).bind (commas? depth)

/-- The number of commas of a text outside of quoted strings and brackets; `none` if these are not
balanced. -/
def topCommas? (text : List Char) : Option Nat :=
  topFrom? .outside 0 text

/-! ### One character -/

/-- What a character does to the quotes and brackets that are open. -/
def advance? : Quoting → Nat → Char → Option (Quoting × Nat)
  | .outside, depth, c =>
    if c = '\'' then some (.inside, depth) else (nest? depth c).map (.outside, ·)
  | .inside, depth, c =>
    if c = '\\' then some (.escaped, depth)
    else if c = '\'' then some (.outside, depth)
    else some (.inside, depth)
  | .escaped, depth, _ => some (.inside, depth)

/-- Whether a character is a comma outside of all quotes and brackets. -/
def isTopComma (quoting : Quoting) (depth : Nat) (c : Char) : Bool :=
  quoting = .outside && depth = 0 && c = ','

variable {quoting : Quoting} {depth : Nat} {c : Char} {s t : List Char}

theorem isTopComma_eq_true_iff :
    isTopComma quoting depth c = true ↔ (quoting = .outside ∧ depth = 0) ∧ c = ',' := by
  simp [isTopComma]

theorem topFrom?_nil_eq_some_iff {n : Nat} :
    topFrom? quoting depth [] = some n ↔ quoting = .outside ∧ depth = 0 ∧ n = 0 := by
  cases quoting with
  | outside =>
    have hnil : topFrom? .outside depth [] = if depth = 0 then some 0 else none := rfl
    simp [hnil, eq_comm]
  | inside =>
    have hnil : topFrom? .inside depth [] = none := rfl
    simp [hnil]
  | escaped =>
    have hnil : topFrom? .escaped depth [] = none := rfl
    simp [hnil]

/-- A comma outside of quotes and brackets is counted. -/
theorem topFrom?_comma (h : isTopComma quoting depth c = true) (s : List Char) :
    topFrom? quoting depth (c :: s) = (topCommas? s).map (· + 1) := by
  obtain ⟨⟨rfl, rfl⟩, rfl⟩ := isTopComma_eq_true_iff.1 h
  rw [topCommas?, topFrom?, topFrom?, bareChars?_outside, if_neg (by decide)]
  cases bareChars? .outside s with
  | none => rfl
  | some bare => rfl

theorem topCommas?_comma (s : List Char) :
    topCommas? (',' :: s) = (topCommas? s).map (· + 1) :=
  topFrom?_comma rfl s

/-- After any other character the count goes on. -/
theorem topFrom?_cons (h : isTopComma quoting depth c = false) (s : List Char) :
    topFrom? quoting depth (c :: s)
      = (advance? quoting depth c).bind fun next => topFrom? next.1 next.2 s := by
  cases quoting with
  | escaped => rfl
  | inside =>
    rw [topFrom?, bareChars?_inside, advance?]
    split
    · rfl
    · split <;> rfl
  | outside =>
    have hcount : (c = ',' && depth = 0) = false := by
      simpa [isTopComma, imp_not_comm] using h
    rw [topFrom?, bareChars?_outside, advance?]
    split
    · rfl
    · cases hbare : bareChars? .outside s <;> cases hnest : nest? depth c <;>
        simp [topFrom?, commas?, hbare, hnest, hcount]

/-! ### Texts one behind the other -/

theorem bareChars?_outside_cons (h : c ≠ '\'') (s : List Char) :
    bareChars? .outside (c :: s) = (bareChars? .outside s).map (c :: ·) := by
  rw [bareChars?_outside, if_neg h]

theorem sublist_of_bareChars? {bare : List Char} (h : bareChars? quoting s = some bare) :
    bare.Sublist s := by
  fun_induction bareChars? quoting s generalizing bare with
  | case1 => exact Option.some.inj h ▸ List.Sublist.refl []
  | case2 | case3 => cases h
  | case5 c s hquote ih =>
    obtain ⟨rest, hrest, rfl⟩ := Option.map_eq_some_iff.1 h
    exact (ih hrest).cons_cons c
  | case4 s ih | case6 s ih | case7 s hne ih | case8 c s hbackslash hquote ih | case9 c s ih =>
    exact (ih h).cons _

/-- Behind a text that closes its strings the next one begins outside of them. -/
theorem bareChars?_append {bare : List Char} (h : bareChars? quoting s = some bare)
    (t : List Char) : bareChars? quoting (s ++ t) = (bareChars? .outside t).map (bare ++ ·) := by
  induction s generalizing quoting bare with
  | nil =>
    cases quoting with
    | outside =>
      obtain rfl : [] = bare := Option.some.inj h
      simp
    | inside => cases h
    | escaped => cases h
  | cons c s ih =>
    cases quoting with
    | outside =>
      rw [List.cons_append]
      by_cases hquote : c = '\''
      · rw [bareChars?_outside, if_pos hquote] at h ⊢
        exact ih h
      · rw [bareChars?_outside_cons hquote] at h ⊢
        obtain ⟨rest, hrest, rfl⟩ := Option.map_eq_some_iff.1 h
        rw [ih hrest, Option.map_map]
        rfl
    | inside =>
      rw [bareChars?_inside] at h
      rw [List.cons_append, bareChars?_inside]
      split at h
      · rw [if_pos ‹_›, ih h]
      · rw [if_neg ‹_›]
        split at h
        · rw [if_pos ‹_›, ih h]
        · rw [if_neg ‹_›, ih h]
    | escaped => exact ih h

/-- Behind balanced brackets the count begins anew. -/
theorem commas?_append {n : Nat} (h : commas? depth s = some n) (t : List Char) :
    commas? depth (s ++ t) = (commas? 0 t).map (n + ·) := by
  induction s generalizing depth n with
  | nil =>
    obtain ⟨rfl, rfl⟩ : depth = 0 ∧ 0 = n := by simpa [commas?] using h
    simp
  | cons c s ih =>
    rw [commas?] at h
    obtain ⟨next, hnext, h⟩ := Option.bind_eq_some_iff.1 h
    obtain ⟨m, hm, rfl⟩ := Option.map_eq_some_iff.1 h
    rw [List.cons_append, commas?, hnext, Option.bind_some, ih hm, Option.map_map]
    refine congrArg (Option.map · _) (funext fun k => ?_)
    simp only [Function.comp_apply]
    split <;> omega

/-- A text that is balanced closes its strings. -/
theorem exists_bareChars?_of_topCommas? {n : Nat} (h : topCommas? s = some n) :
    ∃ bare, bareChars? .outside s = some bare :=
  (Option.bind_eq_some_iff.1 h).imp fun _ h => h.1

/-- Behind a text that is balanced the count begins anew. -/
theorem topFrom?_append {n : Nat} (h : topFrom? quoting depth s = some n) (t : List Char) :
    topFrom? quoting depth (s ++ t) = (topCommas? t).map (n + ·) := by
  obtain ⟨bare, hbare, hn⟩ := Option.bind_eq_some_iff.1 h
  rw [topFrom?, bareChars?_append hbare, topCommas?, topFrom?]
  cases bareChars? .outside t with
  | none => rfl
  | some rest => exact commas?_append hn rest

/-- A text with a comma outside of quotes and brackets is cut at the first of them. -/
theorem exists_cut_of_topFrom? {n : Nat}
    (h : topFrom? quoting depth s = some (n + 1)) :
    ∃ front rest, s = front ++ ',' :: rest ∧ topFrom? quoting depth front = some 0 ∧
      topCommas? rest = some n := by
  induction s generalizing quoting depth with
  | nil =>
    obtain ⟨-, -, hn⟩ := topFrom?_nil_eq_some_iff.1 h
    cases hn
  | cons c s ih =>
    cases hcomma : isTopComma quoting depth c with
    | true =>
      rw [topFrom?_comma hcomma] at h
      obtain ⟨m, hm, hn⟩ := Option.map_eq_some_iff.1 h
      obtain ⟨⟨rfl, rfl⟩, rfl⟩ := isTopComma_eq_true_iff.1 hcomma
      exact ⟨[], s, rfl, rfl, Nat.succ.inj hn ▸ hm⟩
    | false =>
      rw [topFrom?_cons hcomma] at h
      obtain ⟨next, hnext, h⟩ := Option.bind_eq_some_iff.1 h
      obtain ⟨front, rest, rfl, hfront, hrest⟩ := ih h
      exact ⟨c :: front, rest, rfl, by rw [topFrom?_cons hcomma, hnext, Option.bind_some, hfront],
        hrest⟩

/-! ### The first character that is not blank -/

/-- No bracket is open where a text begins. -/
theorem topCommas?_closing (h : isClosing c = true) (s : List Char) :
    topCommas? (c :: s) = none := by
  rcases isClosing_eq_true_iff.1 h with rfl | rfl <;> rw [topCommas?, topFrom?_cons rfl] <;> rfl

theorem topCommas?_blank (h : Text.isBlank c = true) (s : List Char) :
    topCommas? (c :: s) = topCommas? s := by
  have hne : ∀ d, Text.isBlank d = false → c ≠ d := by
    rintro d hd rfl
    exact absurd h (by simp [hd])
  have hcomma : isTopComma .outside 0 c = false := by
    simp [isTopComma, hne ',' (by decide)]
  have hadvance : advance? .outside 0 c = some (.outside, 0) := by
    simp [advance?, nest?, isOpening, isClosing, hne '\'' (by decide), hne '[' (by decide),
      hne '(' (by decide), hne ']' (by decide), hne ')' (by decide)]
  rw [topCommas?, topFrom?_cons hcomma, hadvance]
  rfl

theorem topCommas?_trimStart (s : List Char) : topCommas? (Text.trimStart s) = topCommas? s := by
  induction s with
  | nil => rfl
  | cons c s ih =>
    cases hc : Text.isBlank c with
    | true =>
      rw [topCommas?_blank hc, ← ih, Text.trimStart, Text.trimStart,
        List.dropWhile_cons_of_pos hc]
    | false => rw [Text.trimStart, List.dropWhile_cons, if_neg (by simp [hc])]

/-- The first character of a balanced text that is not blank closes no bracket. -/
theorem head?_any_isClosing_eq_false {n : Nat} (h : topCommas? s = some n) :
    (Text.trim s).head?.any isClosing = false := by
  rw [← topCommas?_trimStart] at h
  rw [Text.head?_trim]
  cases hs : Text.trimStart s with
  | nil => rfl
  | cons c rest =>
    cases hc : isClosing c with
    | false => exact hc
    | true =>
      rw [hs, topCommas?_closing hc] at h
      exact absurd h (Option.some_ne_none n).symm

/-! ### The inside of a quoted string -/

/-- Behind a quoted string the text goes on outside of it. -/
theorem Spells.bareChars?_eq {x body : List Char} (h : Spells x body) (s : List Char) :
    bareChars? .inside (body ++ '\'' :: s) = bareChars? .outside s := by
  induction h with
  | nil => rfl
  | pair mark h ih => exact ih
  | char hbackslash hquote h ih =>
    rw [List.cons_append, bareChars?_inside, if_neg hbackslash, if_neg hquote]
    exact ih

/-- The count goes on behind a quoted string as in front of it. -/
theorem Spells.topFrom?_eq {x body : List Char} (h : Spells x body) (depth : Nat)
    (s : List Char) :
    topFrom? .inside depth (body ++ '\'' :: s) = topFrom? .outside depth s := by
  rw [topFrom?, h.bareChars?_eq, topFrom?]

end Columnar.Tsv
