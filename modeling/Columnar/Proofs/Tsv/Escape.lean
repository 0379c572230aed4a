import Columnar.Tsv.Escape

/-!
What escaping keeps apart.

Unescaping undoes escaping, whatever follows the escaped characters (`unescapeChars?_escapeChars`).
The escaped form holds none of the characters that end a field, a line or a quoted literal, and it
is never the mark of a missing value.
-/

namespace Columnar.Tsv

/-! ### Single characters -/

/-- The mark of a character stands for it. -/
theorem markedChar_of_escapeMark? {c mark : Char} (h : escapeMark? c = some mark) :
    markedChar mark = c := by
  unfold escapeMark? at h
  split at h <;> cases h <;> rfl

/-- A character is written as itself, or as a backslash and its mark. -/
theorem escapeChar_cases (c : Char) :
    (escapeMark? c = none ∧ escapeChar c = [c]) ∨
      ∃ mark, escapeMark? c = some mark ∧ escapeChar c = ['\\', mark] := by
  cases h : escapeMark? c with
  | none => exact .inl ⟨rfl, by rw [escapeChar, h]⟩
  | some mark => exact .inr ⟨mark, rfl, by rw [escapeChar, h]⟩

theorem ne_backslash_of_escapeMark? {c : Char} (h : escapeMark? c = none) : c ≠ '\\' := by
  rintro rfl
  exact absurd h (by decide)

theorem ne_quote_of_escapeMark? {c : Char} (h : escapeMark? c = none) : c ≠ '\'' := by
  rintro rfl
  exact absurd h (by decide)

@[simp] theorem escapeChars_nil : escapeChars [] = [] := rfl

@[simp] theorem escapeChars_cons (c : Char) (s : List Char) :
    escapeChars (c :: s) = escapeChar c ++ escapeChars s := rfl

@[simp] theorem toList_escape (s : String) : (escape s).toList = escapeChars s.toList :=
  String.toList_ofList

@[simp] theorem toList_quote (s : String) :
    (quote s).toList = '\'' :: (escapeChars s.toList ++ ['\'']) := by
  simp [quote]

/-! ### Reading back -/

/-- A character other than a backslash is read as itself. -/
theorem unescapeChars?_cons {c : Char} (h : c ≠ '\\') (rest : List Char) :
    unescapeChars? (c :: rest) = (unescapeChars? rest).map (c :: ·) := by
  rw [unescapeChars?]
  · rintro rfl; exact absurd rfl h
  · rintro mark rest rfl; exact absurd rfl h

theorem unescapeChars?_escapeChar (c : Char) (rest : List Char) :
    unescapeChars? (escapeChar c ++ rest) = (unescapeChars? rest).map (c :: ·) := by
  rcases escapeChar_cases c with ⟨hc, hw⟩ | ⟨mark, hm, hw⟩ <;> rw [hw]
  · exact unescapeChars?_cons (ne_backslash_of_escapeMark? hc) rest
  · simp only [List.cons_append, List.nil_append, unescapeChars?, markedChar_of_escapeMark? hm]

/-- Unescaping undoes escaping. -/
theorem unescapeChars?_escapeChars : ∀ s : List Char, unescapeChars? (escapeChars s) = some s
  | [] => rfl
  | c :: s => by
    rw [escapeChars_cons, unescapeChars?_escapeChar, unescapeChars?_escapeChars s]
    rfl

/-- Unescaping undoes escaping. -/
@[simp] theorem unescape?_escape (s : String) : unescape? (escape s) = some s := by
  rw [unescape?, toList_escape, unescapeChars?_escapeChars, Option.map_some, String.ofList_toList]

/-! ### Texts in quotes -/

/-- The inside of a quoted string: a backslash and the character behind it stand for one character,
and no quote stands alone. -/
inductive Spells : List Char → List Char → Prop
  | nil : Spells [] []
  | pair {x s : List Char} (mark : Char) (h : Spells x s) :
      Spells (markedChar mark :: x) ('\\' :: mark :: s)
  | char {x s : List Char} {c : Char} (hbackslash : c ≠ '\\') (hquote : c ≠ '\'')
      (h : Spells x s) : Spells (c :: x) (c :: s)

/-- An escaped text may stand in quotes. -/
theorem spells_escapeChars : ∀ s : List Char, Spells s (escapeChars s)
  | [] => .nil
  | c :: s => by
    rw [escapeChars_cons]
    rcases escapeChar_cases c with ⟨hc, hw⟩ | ⟨mark, hm, hw⟩ <;> rw [hw]
    · exact .char (ne_backslash_of_escapeMark? hc) (ne_quote_of_escapeMark? hc)
        (spells_escapeChars s)
    · have h := Spells.pair mark (spells_escapeChars s)
      rwa [markedChar_of_escapeMark? hm] at h

/-! ### Characters of escaped texts -/

/-- The characters that never stand in an escaped text. -/
def isControl (c : Char) : Bool :=
  c = '\x08' || c = '\x0c' || c = '\r' || c = '\n' || c = '\t' || c = '\x00'

theorem isControl_mark {c mark : Char} (h : escapeMark? c = some mark) :
    isControl mark = false := by
  unfold escapeMark? at h
  split at h <;> cases h <;> rfl

theorem isControl_eq_false {c : Char} (h : escapeMark? c = none) : isControl c = false := by
  cases hc : isControl c with
  | false => rfl
  | true =>
    simp only [isControl, Bool.or_eq_true, decide_eq_true_eq] at hc
    rcases hc with ((((rfl | rfl) | rfl) | rfl) | rfl) | rfl <;> exact absurd h (by decide)

/-- An escaped text has no control that the format gives a meaning. -/
theorem isControl_of_mem_escapeChars {c : Char} :
    ∀ {s : List Char}, c ∈ escapeChars s → isControl c = false
  | [], h => by simp at h
  | d :: s, h => by
    rw [escapeChars_cons, List.mem_append] at h
    rcases h with h | h
    · rcases escapeChar_cases d with ⟨hd, hw⟩ | ⟨mark, hm, hw⟩ <;> rw [hw] at h
      · rw [List.mem_singleton] at h
        exact h ▸ isControl_eq_false hd
      · rcases List.mem_cons.1 h with rfl | h
        · rfl
        · exact List.mem_singleton.1 h ▸ isControl_mark hm
    · exact isControl_of_mem_escapeChars h

theorem newline_not_mem_escapeChars (s : List Char) : '\n' ∉ escapeChars s :=
  fun h => absurd (isControl_of_mem_escapeChars h) (by decide)

theorem tab_not_mem_escapeChars (s : List Char) : '\t' ∉ escapeChars s :=
  fun h => absurd (isControl_of_mem_escapeChars h) (by decide)

theorem carriageReturn_not_mem_escapeChars (s : List Char) : '\r' ∉ escapeChars s :=
  fun h => absurd (isControl_of_mem_escapeChars h) (by decide)

/-- No text is written as the mark of a missing value. -/
theorem escape_ne_nullField (s : String) : escape s ≠ nullField := by
  intro h
  have hs : escapeChars s.toList = ['\\', 'N'] := by rw [← toList_escape, h]; rfl
  cases hl : s.toList with
  | nil => rw [hl] at hs; exact absurd hs (by simp)
  | cons c rest =>
    rw [hl, escapeChars_cons] at hs
    rcases escapeChar_cases c with ⟨hc, hw⟩ | ⟨mark, hm, hw⟩ <;> rw [hw] at hs
    · exact ne_backslash_of_escapeMark? hc (List.cons.inj hs).1
    · have hN : mark = 'N' := (List.cons.inj (List.cons.inj hs).2).1
      subst hN
      have hc := markedChar_of_escapeMark? hm
      subst hc
      exact absurd hm (by decide)

end Columnar.Tsv
