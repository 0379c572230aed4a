import Columnar.Text.Blank
import Mathlib.Data.Bool.AllAny
import Mathlib.Data.List.DropRight

/-!
Trimming texts, and cutting off a run of characters in front.

What is dropped at both ends of a text is gone for good, and does not matter for what is left
(`stripped_stripped`, `stripped_append`); trimming drops the blanks. A run of characters of one kind
ends where the first one of another kind follows (`span_append`).
-/

namespace Columnar.Text

/-! ### Letters and digits -/

/-- No letter and no digit is blank. -/
theorem isBlank_of_isAlphanum {c : Char} (h : c.isAlphanum = true) : isBlank c = false := by
  unfold Char.isAlphanum Char.isAlpha Char.isUpper Char.isLower Char.isDigit at h
  simp only [Bool.or_eq_true, Bool.and_eq_true, decide_eq_true_eq, UInt32.le_iff_toNat_le,
    ge_iff_le] at h
  change ((65 ≤ c.toNat ∧ c.toNat ≤ 90) ∨ (97 ≤ c.toNat ∧ c.toNat ≤ 122)) ∨
    (48 ≤ c.toNat ∧ c.toNat ≤ 57) at h
  simp only [isBlank, Bool.or_eq_false_iff, Bool.and_eq_false_iff, decide_eq_false_iff_not,
    beq_eq_false_iff_ne]
  omega

/-! ### Trimmed texts -/

theorem dropWhile_eq_self {α : Type} {p : α → Bool} {l : List α} (h : ∀ a ∈ l, p a = false) :
    l.dropWhile p = l := by
  cases l with
  | nil => rfl
  | cons a l => rw [List.dropWhile_cons, if_neg]; rw [h a List.mem_cons_self]; decide

/-- A text without blank characters has none to trim. -/
theorem trim_eq_self {s : List Char} (h : ∀ c ∈ s, isBlank c = false) : trim s = s := by
  have hrev : ∀ c ∈ s.reverse, isBlank c = false := fun c hc => h c (List.mem_reverse.1 hc)
  rw [trim, trimEnd, trimStart, dropWhile_eq_self h, dropWhile_eq_self hrev, List.reverse_reverse]

/-- A text that begins and ends with a character that is not blank has none to trim. -/
theorem trim_eq_self_of_ends {first last : Char} {s : List Char} (hf : isBlank first = false)
    (hl : isBlank last = false) : trim (first :: (s ++ [last])) = first :: (s ++ [last]) := by
  have hrev : (first :: (s ++ [last])).reverse = last :: (s.reverse ++ [first]) := by simp
  rw [trim, trimStart, List.dropWhile_cons, if_neg (by simp [hf]), trimEnd, hrev,
    List.dropWhile_cons, if_neg (by simp [hl]), ← hrev, List.reverse_reverse]

/-! ### Runs of characters -/

/-- A run of characters is cut off in front of the first one that is not of the kind. -/
theorem span_append {p : Char → Bool} {run rest : List Char} (hrun : ∀ d ∈ run, p d = true)
    (hrest : ∀ c, rest.head? = some c → p c = false) :
    (run ++ rest).takeWhile p = run ∧ (run ++ rest).dropWhile p = rest := by
  rw [List.takeWhile_append_of_pos hrun, List.dropWhile_append_of_pos hrun]
  cases rest with
  | nil => exact ⟨List.append_nil run, rfl⟩
  | cons c rest =>
    have hc : ¬ p c = true := by simp [hrest c rfl]
    rw [List.takeWhile_cons, List.dropWhile_cons, if_neg hc, if_neg hc, List.append_nil]
    exact ⟨rfl, rfl⟩

theorem span_append_cons {p : Char → Bool} {run : List Char} {c : Char}
    (hrun : ∀ d ∈ run, p d = true) (hc : p c = false) (rest : List Char) :
    (run ++ c :: rest).takeWhile p = run ∧ (run ++ c :: rest).dropWhile p = c :: rest := by
  refine span_append hrun fun d hd => ?_
  rwa [← Option.some.inj hd]

/-- A text begins with a run of characters of a kind, possibly an empty one. -/
theorem exists_span (p : Char → Bool) (s : List Char) : ∃ run rest, s = run ++ rest ∧
    (∀ c ∈ run, p c = true) ∧ ∀ c, rest.head? = some c → p c = false := by
  refine ⟨s.takeWhile p, s.dropWhile p, List.takeWhile_append_dropWhile.symm,
    fun c hc => List.mem_takeWhile_imp hc, fun c hc => ?_⟩
  have hhead := List.head?_dropWhile_not p s
  rw [hc] at hhead
  simpa using hhead

/-! ### Blanks at the ends -/

variable {s blanks : List Char}

theorem trimStart_of_all (h : ∀ c ∈ s, isBlank c = true) : trimStart s = [] := by
  rw [trimStart, List.dropWhile_eq_nil_iff]
  exact h

/-- Only what stands in front of a character that is not blank is trimmed. -/
theorem trimStart_append_cons {c : Char} (hc : isBlank c = false) (s rest : List Char) :
    trimStart (s ++ c :: rest) = trimStart s ++ c :: rest := by
  rw [trimStart, List.dropWhile_append]
  split
  · next hnil =>
    rw [List.isEmpty_iff] at hnil
    rw [trimStart, hnil, List.dropWhile_cons, if_neg (by simp [hc]), List.nil_append]
  · rfl

/-- Characters of a kind at the end are dropped with it. -/
theorem rdropWhile_append {p : Char → Bool} {t : List Char} (s : List Char)
    (h : ∀ c ∈ t, p c = true) : (s ++ t).rdropWhile p = s.rdropWhile p := by
  rw [List.rdropWhile, List.reverse_append, List.dropWhile_append_of_pos]
  · rfl
  · exact fun c hc => h c (List.mem_reverse.1 hc)

/-- Blanks at the end are dropped. -/
theorem trimEnd_append (s : List Char) (h : ∀ c ∈ blanks, isBlank c = true) :
    trimEnd (s ++ blanks) = trimEnd s :=
  rdropWhile_append s h

/-- A text that ends in a character that is not blank keeps its end. -/
theorem trimEnd_concat {c : Char} (hc : isBlank c = false) (s : List Char) :
    trimEnd (s ++ [c]) = s ++ [c] :=
  List.rdropWhile_concat_neg isBlank s c (by simp [hc])

/-- The last character of a text that is not blank. -/
theorem getLast?_trimEnd_eq_some_iff {c : Char} : (trimEnd s).getLast? = some c ↔
    isBlank c = false ∧ ∃ front blanks, s = front ++ c :: blanks ∧
      ∀ b ∈ blanks, isBlank b = true := by
  constructor
  · intro h
    obtain ⟨front, hfront⟩ := List.getLast?_eq_some_iff.1 h
    have hs : s = trimEnd s ++ s.rtakeWhile isBlank := List.rdropWhile_append_rtakeWhile.symm
    have hlast : isBlank c = false := by
      have hend : s.rdropWhile isBlank = front ++ [c] := hfront
      have hnot := List.rdropWhile_last_not isBlank s
      simpa [hend] using hnot
    refine ⟨hlast, front, s.rtakeWhile isBlank, ?_, fun b hb => List.mem_rtakeWhile_imp hb⟩
    rw [List.append_cons, ← hfront]
    exact hs
  · rintro ⟨hc, front, blanks, rfl, hblanks⟩
    rw [List.append_cons, trimEnd_append _ hblanks, trimEnd_concat hc, List.getLast?_concat]

/-! ### Both ends -/

/-- The text without the characters of a kind at both ends. -/
def stripped (p : Char → Bool) (s : List Char) : List Char :=
  (s.dropWhile p).rdropWhile p

variable {p : Char → Bool} {t : List Char}

theorem stripped_append (s : List Char) (h : ∀ c ∈ t, p c = true) :
    stripped p (s ++ t) = stripped p s := by
  rw [stripped, stripped, List.dropWhile_append]
  split
  · next hnil =>
    rw [List.isEmpty_iff] at hnil
    rw [hnil, List.dropWhile_eq_nil_iff.2 h]
  · exact rdropWhile_append _ h

/-- What is left begins with a character of another kind. -/
theorem not_of_dropWhile_eq_cons {c : Char} {rest : List Char} (h : s.dropWhile p = c :: rest) :
    p c = false := by
  have hhead := List.head?_dropWhile_not p s
  rwa [h] at hhead

theorem stripped_stripped (p : Char → Bool) (s : List Char) :
    stripped p (stripped p s) = stripped p s := by
  have hfront : (stripped p s).dropWhile p = stripped p s := by
    cases hs : stripped p s with
    | nil => rfl
    | cons c rest =>
      -- what is left begins with what follows the dropped characters in front
      obtain ⟨more, hmore⟩ : c :: rest <+: s.dropWhile p := by
        rw [← hs]
        exact List.rdropWhile_prefix p _
      have hc : p c = false := not_of_dropWhile_eq_cons hmore.symm
      rw [List.dropWhile_cons, if_neg (by simp [hc])]
  rw [stripped, hfront]
  exact List.rdropWhile_idempotent p _

/-- Blanks at the end of a text do not matter for its trimmed form. -/
theorem trim_append (s : List Char) (h : ∀ c ∈ blanks, isBlank c = true) :
    trim (s ++ blanks) = trim s :=
  stripped_append s h

/-- A text begins, once it is trimmed, with its first character that is not blank. -/
theorem head?_trim (s : List Char) : (trim s).head? = (trimStart s).head? := by
  rw [trim]
  cases hs : trimStart s with
  | nil => rfl
  | cons c rest =>
    rcases List.prefix_cons_iff.1 (List.rdropWhile_prefix isBlank (c :: rest)) with h | ⟨t, ht, -⟩
    · have hc := List.rdropWhile_eq_nil_iff.1 h c List.mem_cons_self
      exact absurd hc (by simp [not_of_dropWhile_eq_cons hs])
    · rw [trimEnd, ← List.rdropWhile, ht]
      rfl

/-- A trimmed text begins with no blank. -/
theorem isBlank_eq_false_of_trim_eq {c : Char} {rest : List Char}
    (h : trim (c :: rest) = c :: rest) : isBlank c = false := by
  have hhead := head?_trim (c :: rest)
  rw [h] at hhead
  cases hs : trimStart (c :: rest) with
  | nil => simp [hs] at hhead
  | cons d more =>
    rw [hs] at hhead
    obtain rfl : c = d := Option.some.inj hhead
    exact not_of_dropWhile_eq_cons hs

/-- Trimming leaves a part of the text. -/
theorem trim_sublist (s : List Char) : (trim s).Sublist s :=
  (List.rdropWhile_prefix isBlank _).sublist.trans (List.dropWhile_suffix _).sublist

/-- A trimmed text is trimmed. -/
theorem trim_trim (s : List Char) : trim (trim s) = trim s :=
  stripped_stripped isBlank s

end Columnar.Text
