import Columnar.Proofs.Tsv.Escape

/-!
Texts with quoted parts.

A quoted part begins with a quotation mark and ends with the next such mark that no backslash hides.
A text is read as its fragments: the quoted parts, and single characters between them. A text that
stays inside its marks (`staysInside`) is found again as one fragment, whatever follows it
(`readsAs_quoted`), so the fragments of a text put together from others are theirs.
-/

namespace Columnar.Text

/-! ### Fragments -/

/-- A part of a text. -/
inductive Fragment where
  | plain (c : Char)
  /-- What stands between two marks, as it is written. -/
  | quoted (mark : Char) (inside : List Char)
  deriving DecidableEq, Repr

/-- Where the scan of a text stands; in quotes, with what it has read behind the opening mark. -/
inductive Place where
  | outside
  | quoted (mark : Char) (inside : List Char)
  /-- Behind a backslash in quotes. -/
  | escape (mark : Char) (inside : List Char)

/-- The fragments of the rest of a text; `none` when its last quoted part is not closed. -/
def scanFragments? (marks : List Char) : Place → List Char → Option (List Fragment)
  | .outside, [] => some []
  | .quoted _ _, [] => none
  | .escape _ _, [] => none
  | .outside, c :: rest =>
    if c ∈ marks then scanFragments? marks (.quoted c []) rest
    else (scanFragments? marks .outside rest).map (.plain c :: ·)
  | .quoted mark inside, c :: rest =>
    if c = '\\' then scanFragments? marks (.escape mark (inside ++ [c])) rest
    else if c = mark then (scanFragments? marks .outside rest).map (.quoted mark inside :: ·)
    else scanFragments? marks (.quoted mark (inside ++ [c])) rest
  | .escape mark inside, c :: rest => scanFragments? marks (.quoted mark (inside ++ [c])) rest

/-- The fragments of a text in which the given marks quote. -/
def fragments? (marks : List Char) (s : List Char) : Option (List Fragment) :=
  scanFragments? marks .outside s

/-- Whether a text may stand between two marks: a mark in it stands behind a backslash, and so does
a backslash at its end. -/
def staysInside (mark : Char) : List Char → Bool
  | [] => true
  | '\\' :: [] => false
  | '\\' :: _ :: rest => staysInside mark rest
  | c :: rest => c != mark && staysInside mark rest

example : fragments? ['\''] "a'b\\'c'".toList = some [.plain 'a', .quoted '\'' "b\\'c".toList] := by
  decide

/-! ### Texts one behind the other -/

variable {marks s t : List Char} {fragments more : List Fragment}

/-- The text is read as the given fragments in front of any other text. -/
def ReadsAs (marks s : List Char) (fragments : List Fragment) : Prop :=
  ∀ rest, fragments? marks (s ++ rest) = (fragments? marks rest).map (fragments ++ ·)

theorem readsAs_nil (marks : List Char) : ReadsAs marks [] [] := fun rest => by simp

theorem ReadsAs.append (hs : ReadsAs marks s fragments) (ht : ReadsAs marks t more) :
    ReadsAs marks (s ++ t) (fragments ++ more) := by
  intro rest
  rw [List.append_assoc, hs, ht, Option.map_map]
  simp only [Function.comp_def, List.append_assoc]

theorem ReadsAs.fragments?_eq (h : ReadsAs marks s fragments) :
    fragments? marks s = some fragments := by
  have hs := h []
  rw [List.append_nil] at hs
  rw [hs]
  exact congrArg some (List.append_nil fragments)

theorem readsAs_plain {c : Char} (h : c ∉ marks) : ReadsAs marks [c] [.plain c] := by
  intro rest
  rw [List.singleton_append, fragments?, scanFragments?, if_neg h]
  rfl

theorem readsAs_of_forall {s : List Char} (h : ∀ c ∈ s, c ∉ marks) :
    ReadsAs marks s (s.map .plain) := by
  induction s with
  | nil => exact readsAs_nil marks
  | cons c s ih =>
    exact (readsAs_plain (h c List.mem_cons_self)).append
      (ih fun d hd => h d (List.mem_cons_of_mem c hd))

/-! ### Texts in quotes -/

theorem staysInside_cons {mark c : Char} (h : c ≠ '\\') (rest : List Char) :
    staysInside mark (c :: rest) = (c != mark && staysInside mark rest) := by
  rw [staysInside]
  · rintro rfl
    exact absurd rfl h
  · rintro d rest rfl
    exact absurd rfl h

/-- The scan reads a text that stays inside its marks up to the closing one. -/
theorem scanFragments?_quoted {mark : Char} (hmark : mark ≠ '\\') (marks rest : List Char) :
    ∀ (s inside : List Char), staysInside mark s = true →
      scanFragments? marks (.quoted mark inside) (s ++ mark :: rest)
        = (fragments? marks rest).map (.quoted mark (inside ++ s) :: ·) := by
  intro s
  fun_induction staysInside mark s with
  | case1 =>
    intro inside _
    rw [List.nil_append, scanFragments?, if_neg hmark, if_pos rfl, List.append_nil]
    rfl
  | case2 => exact fun _ h => absurd h (by decide)
  | case3 c s ih =>
    intro inside h
    rw [List.cons_append, List.cons_append, scanFragments?, if_pos rfl, scanFragments?, ih _ h,
      List.append_assoc, List.append_assoc]
    rfl
  | case4 c s hlone hpair ih =>
    intro inside h
    have hc : c ≠ '\\' := by
      rintro rfl
      cases s with
      | nil => exact hlone rfl rfl
      | cons d s => exact hpair d s rfl rfl
    rw [Bool.and_eq_true, bne_iff_ne] at h
    rw [List.cons_append, scanFragments?, if_neg hc, if_neg h.1, ih _ h.2, List.append_assoc]
    rfl

/-- A text that stays inside its marks is one fragment. -/
theorem readsAs_quoted {mark : Char} (hmark : mark ≠ '\\') (hmem : mark ∈ marks)
    (h : staysInside mark s = true) :
    ReadsAs marks (mark :: (s ++ [mark])) [.quoted mark s] := by
  intro rest
  rw [List.cons_append, List.append_assoc, List.singleton_append, fragments?, scanFragments?,
    if_pos hmem, scanFragments?_quoted hmark marks rest s [] h]
  rfl

/-- What spells a text inside single quotes stays inside them. -/
theorem staysInside_of_spells {x s : List Char} (h : Tsv.Spells x s) :
    staysInside '\'' s = true := by
  induction h with
  | nil => rfl
  | pair mark h ih => rwa [staysInside]
  | char hbackslash hquote h ih =>
    rw [staysInside_cons hbackslash, ih, Bool.and_true, bne_iff_ne]
    exact hquote

/-- An escaped text in single quotes is one fragment. -/
theorem readsAs_quote (hmem : '\'' ∈ marks) (s : String) :
    ReadsAs marks (Tsv.quote s).toList [.quoted '\'' (Tsv.escapeChars s.toList)] := by
  rw [Tsv.toList_quote]
  exact readsAs_quoted (by decide) hmem (staysInside_of_spells (Tsv.spells_escapeChars s.toList))

end Columnar.Text
