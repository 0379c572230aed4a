import Columnar.Proofs.Decimal.Notation
import Columnar.Proofs.Tsv.ArrayLiteral

/-!
The literals of values as elements of array literals.

A text and a date stand in quotes, an array is a literal of its own, and all other values are words.
So each of them is one element however deep it stands, and the literal of an array is read as one
element for every item (`readArray?_literal`).
-/

namespace Columnar.Value

open Tsv.ArrayLiteral (Written isMark isWordChar written_quote written_word)

/-! ### Words -/

theorem ne_of_isBareChar {c d : Char} (h : isBareChar c = true) (hd : isBareChar d = false) :
    c ≠ d := by
  rintro rfl
  exact absurd (h.symm.trans hd) (by decide)

theorem isBlank_of_isBareChar {c : Char} (h : isBareChar c = true) : Text.isBlank c = false := by
  simp only [isBareChar, Bool.or_eq_true, decide_eq_true_eq] at h
  rcases h with ((h | rfl) | rfl) | rfl
  · exact Text.isBlank_of_isAlphanum h
  all_goals decide

theorem isWordChar_of_isBareChar {c : Char} (h : isBareChar c = true) : isWordChar c = true := by
  have hne : ∀ d : Char, isBareChar d = false → c ≠ d := fun _ hd => ne_of_isBareChar h hd
  simp [isWordChar, isMark, isBlank_of_isBareChar h, hne '[' rfl, hne '(' rfl, hne ']' rfl,
    hne ')' rfl, hne '\'' rfl, hne ',' rfl]

/-- A text of the characters of words and numerals is a bare element. -/
theorem written_bare {text : String} (hne : text.toList ≠ [])
    (h : ∀ c ∈ text.toList, isBareChar c = true) : Written (.bare text) text.toList :=
  written_word hne fun c hc => isWordChar_of_isBareChar (h c hc)

/-! ### Dates -/

theorem isBareChar_of_mem_padded {width n : Nat} {c : Char}
    (h : c ∈ (Text.padded width n).toList) : isBareChar c = true :=
  isBareChar_of_isDigit (Calendar.isDigit_of_mem_padded h)

theorem isBareChar_of_mem_yearText {year : Int} {c : Char}
    (h : c ∈ (Calendar.yearText year).toList) : isBareChar c = true := by
  rw [Calendar.yearText] at h
  split at h
  · exact isBareChar_of_mem_padded h
  · rcases List.mem_append.1 (String.toList_append ▸ h) with h | h
    · split at h <;> exact List.all_eq_true.1 (by decide) c h
    · exact isBareChar_of_mem_padded h

theorem isBareChar_of_mem_dateText {d : Calendar.Date} {c : Char} (h : c ∈ d.text.toList) :
    isBareChar c = true := by
  simp only [Calendar.Date.text, String.toList_append, List.mem_append] at h
  rcases h with (((h | h) | h) | h) | h
  · exact isBareChar_of_mem_yearText h
  · exact List.all_eq_true.1 (by decide) c h
  · exact isBareChar_of_mem_padded h
  · exact List.all_eq_true.1 (by decide) c h
  · exact isBareChar_of_mem_padded h

theorem escapeMark?_of_isBareChar {c : Char} (h : isBareChar c = true) :
    Tsv.escapeMark? c = none := by
  unfold Tsv.escapeMark?
  split
  case h_9 => rfl
  all_goals exact absurd h (by decide)

theorem escapeChars_of_isBareChar :
    ∀ {s : List Char}, (∀ c ∈ s, isBareChar c = true) → Tsv.escapeChars s = s
  | [], _ => rfl
  | c :: s, h => by
    rw [Tsv.escapeChars_cons, Tsv.escapeChar, escapeMark?_of_isBareChar (h c List.mem_cons_self),
      escapeChars_of_isBareChar fun d hd => h d (List.mem_cons_of_mem c hd)]
    rfl

/-- A date in quotes is written as the quoted text of the date: nothing in it is escaped. -/
theorem literal_date (d : Calendar.Date) : (date d).literal = Tsv.quote d.text := by
  rw [← String.toList_inj, Tsv.toList_quote,
    escapeChars_of_isBareChar fun _ => isBareChar_of_mem_dateText]
  simp [literal]

/-! ### Elements -/

/-- The element that the literal of a value is inside an array literal. -/
def element : Value → Tsv.Element
  | text s => .quoted s
  | date d => .quoted d.text
  | v => .bare v.literal

/-- A word or a numeral, as values are written that stand in no quotes. -/
structure IsBare (text : String) : Prop where
  chars : ∀ c ∈ text.toList, isBareChar c = true
  kind : text ∈ ["NULL", "true", "false"] ∨ ∃ x, Decimal.read? text.toList = some x

theorem IsBare.ne_nil {text : String} (h : IsBare text) : text.toList ≠ [] := by
  intro hnil
  rcases h.kind with hword | ⟨x, hx⟩
  · simp only [List.mem_cons, List.not_mem_nil, or_false] at hword
    rcases hword with rfl | rfl | rfl <;> exact absurd hnil (by decide)
  · rw [hnil] at hx
    cases hx

theorem isBare_toString (n : Int) : IsBare (toString n) :=
  ⟨fun _ => isBareChar_of_mem_toString, .inr (Decimal.exists_read?_toString n)⟩

/-- A value that is no array is written as a quoted text, or as a word or a numeral. -/
theorem quoted_or_bare {v : Value} (h : v.asArray = none) :
    (∃ s, v.literal = Tsv.quote s ∧ v.quotedTexts = [s] ∧ v.element = .quoted s) ∨
      (IsBare v.literal ∧ v.quotedTexts = [] ∧ v.element = .bare v.literal) := by
  cases v with
  | null => exact .inr ⟨⟨List.all_eq_true.1 (by decide), .inl (by decide)⟩, rfl, rfl⟩
  | int n => exact .inr ⟨isBare_toString n.toInt, rfl, rfl⟩
  | uint n => exact .inr ⟨isBare_toString n.toNat, rfl, rfl⟩
  | float x =>
    have hbare : IsBare (floatText x) :=
      ⟨fun _ => isBareChar_of_mem_floatText, .inr (Decimal.exists_read?_floatText x)⟩
    exact .inr ⟨hbare, rfl, rfl⟩
  | bool b =>
    have hbare : IsBare (boolText b) :=
      ⟨fun _ => isBareChar_of_mem_boolText, .inl (by cases b <;> decide)⟩
    exact .inr ⟨hbare, rfl, rfl⟩
  | text s => exact .inl ⟨s, rfl, rfl, rfl⟩
  | date d => exact .inl ⟨d.text, literal_date d, rfl, rfl⟩
  | moment m => exact .inr ⟨isBare_toString m.seconds, rfl, rfl⟩
  | array items => exact absurd h (by simp [asArray])

/-- The literal of a value may stand inside an array literal, and is one element there. -/
theorem written_element (v : Value) : Written v.element v.literal.toList := by
  induction v using Value.induction with
  | scalar v hv =>
    rcases quoted_or_bare hv with ⟨s, hliteral, -, helement⟩ | ⟨hbare, -, helement⟩
    · rw [hliteral, helement]
      exact written_quote s
    · rw [helement]
      exact written_bare hbare.ne_nil hbare.chars
  | array items ih =>
    have hforall : List.Forall₂ (fun e t => Written e t.toList) (items.map element)
        (items.map literal) := by
      rw [List.forall₂_map_left_iff, List.forall₂_map_right_iff, List.forall₂_same]
      exact ih
    have helement : (array items).element = .bare (array items).literal := rfl
    rw [helement, literal, literals_eq_map]
    exact Tsv.ArrayLiteral.written_literal hforall

/-- The literal of an array is read as its items: texts and dates as what stands in their quotes,
and all other values, arrays too, as their own literals. -/
theorem readArray?_literal (values : List Value) :
    Tsv.readArray? (array values).literal = some (values.map element) := by
  rw [literal, literals_eq_map]
  refine Tsv.ArrayLiteral.readArray?_of_written ?_
  rw [List.forall₂_map_left_iff, List.forall₂_map_right_iff, List.forall₂_same]
  exact fun v _ => written_element v

end Columnar.Value
