import Columnar.Proofs.Text.Numeral
import Columnar.Proofs.Tsv.Escape
import Columnar.Tsv.ArrayLiteral
import Mathlib.Data.List.Forall2

/-!
Reading an array literal that was written element by element.

An element is written as a quoted text, as a word without blanks and marks, or as a literal of its
own. Over the text of an element that stands deeper inside a literal the scan only goes on
(`Passes`); at the top it ends with that element (`Written.scan`). Texts with commas between them
and brackets around them are therefore read as their elements (`readArray?_of_written`).
-/

namespace Columnar.Tsv.ArrayLiteral

/-! ### One character inside a bare element -/

/-- The characters that change the depth of a bare element, or begin a quote in it. -/
def isMark (c : Char) : Bool :=
  c = '[' || c = '(' || c = ']' || c = ')' || c = '\''

/-- The characters of words: neither blank nor a mark nor a comma. -/
def isWordChar (c : Char) : Bool :=
  !Text.isBlank c && !isMark c && c != ','

theorem step_bare (done : List Element) (depth : Nat) (text : List Char) (c : Char) :
    step ⟨done, .bare depth text⟩ c = stepBare done depth text c := rfl

theorem stepBare_of_not_mark {c : Char} (h : isMark c = false) (done : List Element) (depth : Nat)
    (text : List Char) :
    stepBare done depth text c
      = if c = ',' && depth = 0 then some ⟨done ++ [bareElement text], .between⟩
        else some ⟨done, .bare depth (c :: text)⟩ := by
  simp only [isMark, Bool.or_eq_false_iff, decide_eq_false_iff_not] at h
  simp [stepBare, h]

theorem stepBare_wordChar {c : Char} (h : isWordChar c = true) (done : List Element)
    (text : List Char) :
    stepBare done 0 text c = some ⟨done, .bare 0 (c :: text)⟩ := by
  simp only [isWordChar, Bool.and_eq_true, Bool.not_eq_true', bne_iff_ne] at h
  rw [stepBare_of_not_mark h.1.2, if_neg (by simp [h.2])]

/-! ### The scan of a longer text -/

theorem scan_cons {p q : Progress} {c : Char} (h : step p c = some q) (text : List Char) :
    (c :: text).foldlM step p = text.foldlM step q := by
  rw [List.foldlM_cons, h]
  rfl

theorem scan_singleton {p q : Progress} {c : Char} (h : step p c = some q) :
    [c].foldlM step p = some q :=
  scan_cons h []

theorem scan_append {p q : Progress} {s : List Char} (h : s.foldlM step p = some q)
    (t : List Char) : (s ++ t).foldlM step p = t.foldlM step q := by
  rw [List.foldlM_append, h]
  rfl

/-! ### Texts inside a bracket -/

/-- A text over which a bare element with an open bracket goes on. -/
def Passes (text : List Char) : Prop :=
  ∀ done depth before, text.foldlM step ⟨done, .bare (depth + 1) before⟩
    = some ⟨done, .bare (depth + 1) (text.reverse ++ before)⟩

theorem passes_nil : Passes [] := fun _ _ _ => rfl

theorem Passes.append {s t : List Char} (hs : Passes s) (ht : Passes t) : Passes (s ++ t) := by
  intro done depth before
  rw [scan_append (hs done depth before), ht, List.reverse_append, List.append_assoc]

/-- Inside a bracket every character but the marks is passed over, commas and blanks too. -/
theorem passes_singleton {c : Char} (h : isMark c = false) : Passes [c] := by
  intro done depth before
  refine scan_singleton ?_
  rw [step_bare, stepBare_of_not_mark h, if_neg (by simp)]
  rfl

theorem passes_of_forall {s : List Char} (h : ∀ c ∈ s, isMark c = false) : Passes s := by
  induction s with
  | nil => exact passes_nil
  | cons c s ih =>
    exact (passes_singleton (h c List.mem_cons_self)).append
      (ih fun d hd => h d (List.mem_cons_of_mem c hd))

/-- The inside of a quote, where only a backslash hides the character after it. -/
theorem scan_bareQuoted_spells {x body : List Char} (h : Spells x body) (done : List Element)
    (depth : Nat) : ∀ before, body.foldlM step ⟨done, .bareQuoted depth before⟩
      = some ⟨done, .bareQuoted depth (body.reverse ++ before)⟩ := by
  induction h with
  | nil => exact fun before => rfl
  | pair mark h ih =>
    intro before
    have hpair : ['\\', mark].foldlM step ⟨done, .bareQuoted depth before⟩
        = some ⟨done, .bareQuoted depth (mark :: '\\' :: before)⟩ := rfl
    rw [List.reverse_cons, List.reverse_cons, List.append_assoc, List.append_assoc]
    exact (scan_append hpair _).trans (ih _)
  | @char x s c hbackslash hquote h ih =>
    intro before
    have hstep : step ⟨done, .bareQuoted depth before⟩ c
        = some ⟨done, .bareQuoted depth (c :: before)⟩ := by
      simp [step, hbackslash, hquote]
    rw [scan_cons hstep, ih, List.reverse_cons, List.append_assoc]
    rfl

theorem passes_quoted (s : List Char) : Passes ('\'' :: (escapeChars s ++ ['\''])) := by
  intro done depth before
  have hopen : step ⟨done, .bare (depth + 1) before⟩ '\''
      = some ⟨done, .bareQuoted (depth + 1) ('\'' :: before)⟩ := by
    simp [step, stepBare]
  rw [scan_cons hopen, scan_append (scan_bareQuoted_spells (spells_escapeChars s) ..)]
  refine scan_singleton ?_
  simp [step]

/-- A literal is passed over: its brackets raise the depth and lower it again. -/
theorem Passes.bracketed {inside : List Char} (h : Passes inside) :
    Passes ('[' :: (inside ++ [']'])) := by
  intro done depth before
  have hopen : step ⟨done, .bare (depth + 1) before⟩ '['
      = some ⟨done, .bare (depth + 1 + 1) ('[' :: before)⟩ := by
    simp [step, stepBare]
  rw [scan_cons hopen, scan_append (h done (depth + 1) _)]
  refine scan_singleton ?_
  simp [step, stepBare]

/-! ### Elements -/

/-- The ways to write an element of a literal. -/
inductive Written : Element → List Char → Prop
  | quoted (s : String) : Written (.quoted s) ('\'' :: (escapeChars s.toList ++ ['\'']))
  | word (w : List Char) (hne : w ≠ []) (hw : ∀ c ∈ w, isWordChar c = true) :
      Written (.bare (String.ofList w)) w
  | literal (inside : List Char) (h : Passes inside) :
      Written (.bare (String.ofList ('[' :: (inside ++ [']'])))) ('[' :: (inside ++ [']']))

theorem written_word {text : String} (hne : text.toList ≠ [])
    (hw : ∀ c ∈ text.toList, isWordChar c = true) : Written (.bare text) text.toList := by
  have h := Written.word text.toList hne hw
  rwa [String.ofList_toList] at h

theorem written_quote (s : String) : Written (.quoted s) (quote s).toList := by
  rw [toList_quote]
  exact .quoted s

/-- A written element may stand inside another literal. -/
theorem Written.passes {e : Element} {text : List Char} : Written e text → Passes text
  | .quoted s => passes_quoted s.toList
  | .word w _ hw => by
    refine passes_of_forall fun c hc => ?_
    have h := hw c hc
    simp only [isWordChar, Bool.and_eq_true, Bool.not_eq_true'] at h
    exact h.1.2
  | .literal _ h => h.bracketed

/-- The scan stands behind an element: it may end here, and a comma leads to the next one. -/
def EndsWith (done : List Element) (e : Element) (progress : Progress) : Prop :=
  finish progress = some (done ++ [e]) ∧ step progress ',' = some ⟨done ++ [e], .between⟩

theorem endsWith_bare {done : List Element} {text : List Char} (h : Text.trim text = text) :
    EndsWith done (.bare (String.ofList text)) ⟨done, .bare 0 text.reverse⟩ := by
  have he : bareElement text.reverse = .bare (String.ofList text) := by
    rw [bareElement, List.reverse_reverse, h]
  exact ⟨by simp [finish, he], by simp [step, stepBare, he]⟩

theorem scan_word (done : List Element) :
    ∀ (w before : List Char), (∀ c ∈ w, isWordChar c = true) →
      w.foldlM step ⟨done, .bare 0 before⟩ = some ⟨done, .bare 0 (w.reverse ++ before)⟩
  | [], _, _ => rfl
  | c :: w, before, hw => by
    have hstep : step ⟨done, .bare 0 before⟩ c = some ⟨done, .bare 0 (c :: before)⟩ :=
      stepBare_wordChar (hw c List.mem_cons_self) done before
    rw [scan_cons hstep, scan_word done w _ fun d hd => hw d (List.mem_cons_of_mem c hd)]
    simp

theorem step_between_wordChar {c : Char} (h : isWordChar c = true) (done : List Element) :
    step ⟨done, .between⟩ c = some ⟨done, .bare 0 [c]⟩ := by
  simp only [isWordChar, isMark, Bool.and_eq_true, Bool.not_eq_true', bne_iff_ne,
    Bool.or_eq_false_iff, decide_eq_false_iff_not] at h
  obtain ⟨⟨hblank, ⟨⟨⟨⟨h1, h2⟩, h3⟩, h4⟩, h5⟩⟩, h6⟩ := h
  have hspace : c ≠ ' ' := by
    rintro rfl
    exact absurd hblank (by decide)
  simp [step, h1, h2, h5, h6, hspace]

/-- The inside of a quoted element comes out unescaped. -/
theorem scan_quoted_spells {x body : List Char} (h : Spells x body) (done : List Element) :
    ∀ before, body.foldlM step ⟨done, .quoted before⟩
      = some ⟨done, .quoted (x.reverse ++ before)⟩ := by
  induction h with
  | nil => exact fun before => rfl
  | pair mark h ih =>
    intro before
    have hpair : ['\\', mark].foldlM step ⟨done, .quoted before⟩
        = some ⟨done, .quoted (markedChar mark :: before)⟩ := rfl
    rw [List.reverse_cons, List.append_assoc]
    exact (scan_append hpair _).trans (ih _)
  | @char x s c hbackslash hquote h ih =>
    intro before
    have hstep : step ⟨done, .quoted before⟩ c = some ⟨done, .quoted (c :: before)⟩ := by
      simp [step, hbackslash, hquote]
    rw [scan_cons hstep, ih, List.reverse_cons, List.append_assoc]
    rfl

/-- Between elements, the scan over a written element ends with that element. -/
theorem Written.scan {e : Element} {text : List Char} (done : List Element) :
    Written e text → ∃ p, text.foldlM step ⟨done, .between⟩ = some p ∧ EndsWith done e p
  | .quoted s => by
    refine ⟨⟨done ++ [.quoted s], .between⟩, ?_, rfl, rfl⟩
    have hopen : step ⟨done, .between⟩ '\'' = some ⟨done, .quoted []⟩ := rfl
    rw [scan_cons hopen, scan_append (scan_quoted_spells (spells_escapeChars s.toList) ..)]
    refine scan_singleton ?_
    simp [step]
  | .word w hne hw => by
    cases w with
    | nil => exact absurd rfl hne
    | cons c w =>
      refine ⟨⟨done, .bare 0 (c :: w).reverse⟩, ?_, endsWith_bare (Text.trim_eq_self ?_)⟩
      · rw [scan_cons (step_between_wordChar (hw c List.mem_cons_self) done),
          scan_word done w _ fun d hd => hw d (List.mem_cons_of_mem c hd), List.reverse_cons]
      · intro d hd
        have h := hw d hd
        simp only [isWordChar, Bool.and_eq_true, Bool.not_eq_true'] at h
        exact h.1.1
  | .literal inside h => by
    refine ⟨⟨done, .bare 0 ('[' :: (inside ++ [']'])).reverse⟩, ?_,
      endsWith_bare (Text.trim_eq_self_of_ends (by decide) (by decide))⟩
    have hopen : step ⟨done, .between⟩ '[' = some ⟨done, .bare (0 + 1) ['[']⟩ := rfl
    rw [scan_cons hopen, scan_append (h done 0 _)]
    refine scan_singleton ?_
    simp [step, stepBare]

/-! ### Whole literals -/

/-- The characters of texts with commas between them. -/
theorem toList_intercalate (t u : String) (rest : List String) :
    (",".intercalate (t :: u :: rest)).toList
      = t.toList ++ ',' :: (",".intercalate (u :: rest)).toList := by
  have hsep : ",".toList = [','] := rfl
  rw [String.intercalate_cons_cons, String.toList_append, String.toList_append, hsep,
    List.append_assoc, List.singleton_append]

/-- Texts with commas between them may stand inside a literal if each of them may. -/
theorem passes_intercalate :
    ∀ {texts : List String}, (∀ t ∈ texts, Passes t.toList) →
      Passes (",".intercalate texts).toList
  | [], _ => by
    rw [String.intercalate_nil]
    exact passes_nil
  | [t], h => by
    rw [String.intercalate_singleton]
    exact h t (List.mem_singleton_self t)
  | t :: u :: rest, h => by
    rw [toList_intercalate]
    have hcomma : Passes [','] := passes_singleton (by decide)
    exact (h t List.mem_cons_self).append
      (hcomma.append (passes_intercalate fun s hs => h s (List.mem_cons_of_mem t hs)))

/-- The scan over written elements with commas between them ends with those elements. -/
theorem scan_intercalate :
    ∀ {elements : List Element} {texts : List String},
      List.Forall₂ (fun e t => Written e t.toList) elements texts → ∀ done,
      ((",".intercalate texts).toList.foldlM step ⟨done, .between⟩).bind finish
        = some (done ++ elements)
  | _, _, .nil, done => by simp [finish]
  | [_], [t], .cons hw .nil, done => by
    obtain ⟨p, hp, hfinish, _⟩ := hw.scan done
    rw [String.intercalate_singleton, hp, Option.bind_some, hfinish]
  | e :: _ :: _, t :: u :: rest, .cons hw (.cons hw' hrest), done => by
    obtain ⟨p, hp, _, hcomma⟩ := hw.scan done
    rw [toList_intercalate, scan_append hp, scan_cons hcomma]
    have ih := scan_intercalate (.cons hw' hrest) (done ++ [e])
    rw [List.append_assoc] at ih
    exact ih

theorem inside?_bracketed (inside : List Char) :
    inside? ('[' :: (inside ++ [']'])) = some inside := by
  rw [inside?, if_pos List.getLast?_concat, List.dropLast_concat]

/-- The characters of a literal of texts. -/
theorem toList_literal (texts : List String) :
    ("[" ++ ",".intercalate texts ++ "]").toList
      = '[' :: ((",".intercalate texts).toList ++ [']']) := by
  rw [String.toList_append, String.toList_append]
  rfl

/-- A literal of written elements is an element itself. -/
theorem written_literal {elements : List Element} {texts : List String}
    (h : List.Forall₂ (fun e t => Written e t.toList) elements texts) :
    Written (.bare ("[" ++ ",".intercalate texts ++ "]"))
      ("[" ++ ",".intercalate texts ++ "]").toList := by
  have hp : Passes (",".intercalate texts).toList := by
    refine passes_intercalate fun t ht => ?_
    obtain ⟨e, _, he⟩ : ∃ e ∈ elements, Written e t.toList := by
      obtain ⟨i, hi, rfl⟩ := List.getElem_of_mem ht
      have hlen := h.length_eq
      exact ⟨elements[i], List.getElem_mem _, h.get (by omega) hi⟩
    exact he.passes
  have hw := Written.literal _ hp
  rw [← toList_literal, String.ofList_toList] at hw
  exact hw

/-- A literal of written elements is read as those elements. -/
theorem readArray?_of_written {elements : List Element} {texts : List String}
    (h : List.Forall₂ (fun e t => Written e t.toList) elements texts) :
    readArray? ("[" ++ ",".intercalate texts ++ "]") = some elements := by
  rw [readArray?, toList_literal, inside?_bracketed, Option.bind_some, ofInside?, start,
    scan_intercalate h]
  rfl

end Columnar.Tsv.ArrayLiteral
