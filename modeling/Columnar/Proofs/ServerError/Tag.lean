import Columnar.Proofs.Text.Blank
import Columnar.ServerError

/-!
Where the tag of an error text begins.

A group is a tag in parentheses with what may stand behind it, a version and blanks. The message in
front of a group may hold tags and versions of its own, closed or not: no tag that begins there
reaches over the group to the end of the text, since a tag has no blank in it and a version has
parentheses only one level deep (`isTag_append_group`). So the message is what stands in front of
the group (`withoutTag_append_group`), and a message that does not end in a closing parenthesis has
no tag to take away (`withoutTag_eq_self`).
-/

namespace Columnar.ServerError

/-- Characters of a tag behind its first one. -/
def isTagChar (c : Char) : Bool :=
  c.isUpper || c.isDigit || c = '_'

/-- A tag: a capital letter, then capital letters, digits and bars. -/
def IsTagName : List Char → Prop
  | [] => False
  | first :: rest => first.isUpper = true ∧ ∀ c ∈ rest, isTagChar c = true

instance : DecidablePred IsTagName
  | [] => .isFalse id
  | first :: rest =>
    decidable_of_iff (first.isUpper = true ∧ rest.all isTagChar = true)
      (and_congr_right' List.all_eq_true)

/-- A text without parentheses. -/
def IsFlat (s : List Char) : Prop :=
  '(' ∉ s ∧ ')' ∉ s

instance : DecidablePred IsFlat :=
  fun s => inferInstanceAs (Decidable ('(' ∉ s ∧ ')' ∉ s))

/-- The text of a version: flat, or with one flat text in parentheses at its end. -/
inductive IsVersion : List Char → Prop
  | flat {s : List Char} : IsFlat s → IsVersion s
  | nested {s inner : List Char} : IsFlat s → IsFlat inner →
      IsVersion (s ++ '(' :: (inner ++ [')']))

/-- What stands behind the tag of a group: a version or none, and blanks. -/
inductive IsEnding : List Char → Prop
  | blank {blanks : List Char} : (∀ c ∈ blanks, Text.isBlank c = true) → IsEnding blanks
  | version {version blanks : List Char} : IsVersion version →
      (∀ c ∈ blanks, Text.isBlank c = true) →
      IsEnding (" (version ".toList ++ (version ++ ')' :: blanks))

/-! ### The parts of a tag -/

theorem after?_eq_some_iff {beginning : String} {s rest : List Char} :
    after? beginning s = some rest ↔ s = beginning.toList ++ rest := by
  rw [after?]
  constructor
  · intro h
    split at h
    · next hpre =>
      obtain ⟨more, rfl⟩ := List.isPrefixOf_iff_prefix.1 hpre
      rw [← String.length_toList, List.drop_left] at h
      rw [Option.some.inj h]
    · exact absurd h (by simp)
  · rintro rfl
    rw [if_pos (List.isPrefixOf_iff_prefix.2 (List.prefix_append _ _)), ← String.length_toList,
      List.drop_left]

theorem after?_eq_none_iff {beginning : String} {s : List Char} :
    after? beginning s = none ↔ ¬ beginning.toList <+: s := by
  rw [after?, ← List.isPrefixOf_iff_prefix]
  split <;> simp_all

/-- What a tag in parentheses is, and what follows it. -/
theorem afterTag?_eq_some_iff {s rest : List Char} : afterTag? s = some rest ↔
    ∃ name, IsTagName name ∧ s = '(' :: (name ++ ')' :: rest) := by
  constructor
  · intro h
    unfold afterTag? at h
    split at h
    · next first more =>
      split at h
      · next hupper =>
        split at h
        · next found hfound =>
          obtain rfl := Option.some.inj h
          refine ⟨first :: more.takeWhile isTagChar, ⟨hupper, ?_⟩, ?_⟩
          · exact fun c hc => List.mem_takeWhile_imp hc
          · rw [List.cons_append, ← hfound]
            exact congrArg (fun l => '(' :: first :: l) List.takeWhile_append_dropWhile.symm
        · exact absurd h (by simp)
      · exact absurd h (by simp)
    · exact absurd h (by simp)
  · rintro ⟨name, hname, rfl⟩
    cases name with
    | nil => exact hname.elim
    | cons first more =>
      have hdrop : (more ++ ')' :: rest).dropWhile (fun c => c.isUpper || c.isDigit || c = '_')
          = ')' :: rest := List.dropWhile_append_of_pos hname.2
      rw [List.cons_append, afterTag?, if_pos hname.1]
      simp only [hdrop]

theorem afterVersion?_cons {inner : Bool} {c : Char} (hopen : c ≠ '(') (hclose : c ≠ ')')
    (rest : List Char) : afterVersion? inner (c :: rest) = afterVersion? inner rest := by
  rw [afterVersion?] <;> assumption

/-- Reading the version goes over a text without parentheses. -/
theorem afterVersion?_append {inner : Bool} : ∀ {s : List Char}, IsFlat s → ∀ rest,
    afterVersion? inner (s ++ rest) = afterVersion? inner rest
  | [], _, _ => rfl
  | c :: s, h, rest => by
    obtain ⟨hopen, hclose⟩ := h
    rw [List.mem_cons, not_or] at hopen hclose
    rw [List.cons_append, afterVersion?_cons (Ne.symm hopen.1) (Ne.symm hclose.1),
      afterVersion?_append ⟨hopen.2, hclose.2⟩]

/-- What follows a version stands behind a closing parenthesis. -/
theorem eq_of_afterVersion? {inner : Bool} {s rest : List Char}
    (h : afterVersion? inner s = some rest) : ∃ front, s = front ++ ')' :: rest := by
  fun_induction afterVersion? inner s with
  | case1 => exact absurd h (by simp)
  | case2 => exact absurd h (by simp)
  | case3 inner s hinner ih =>
    obtain ⟨front, rfl⟩ := ih h
    exact ⟨'(' :: front, rfl⟩
  | case4 s ih =>
    obtain ⟨front, rfl⟩ := ih h
    exact ⟨')' :: front, rfl⟩
  | case5 inner s hinner =>
    obtain rfl := Option.some.inj h
    exact ⟨[], rfl⟩
  | case6 inner c s hopen hclose ih =>
    obtain ⟨front, rfl⟩ := ih h
    exact ⟨c :: front, rfl⟩

/-- A tag at the end of a text ends it with a closing parenthesis, but for blanks. -/
theorem getLast?_of_isTag {s : List Char} (h : isTag s = true) :
    (Text.trimEnd s).getLast? = some ')' := by
  rw [Text.getLast?_trimEnd_eq_some_iff]
  refine ⟨by decide, ?_⟩
  unfold isTag at h
  split at h
  · exact absurd h (by simp)
  · next rest hrest =>
    obtain ⟨name, -, rfl⟩ := afterTag?_eq_some_iff.1 hrest
    split at h
    · exact ⟨'(' :: name, rest, rfl, List.all_eq_true.1 h⟩
    · next version hversion =>
      rw [after?_eq_some_iff] at hversion
      obtain ⟨before, hrest⟩ : Text.trimStart rest <:+ rest := List.dropWhile_suffix _
      cases hafter : afterVersion? false version with
      | none => simp [hafter] at h
      | some blanks =>
        rw [hafter] at h
        obtain ⟨front, rfl⟩ := eq_of_afterVersion? hafter
        refine ⟨'(' :: (name ++ ')' :: (before ++ "(version ".toList ++ front)), blanks, ?_,
          List.all_eq_true.1 h⟩
        rw [← hrest, hversion]
        simp only [List.append_assoc, List.cons_append]

/-- Taking away a tag leaves what stands in front of it. -/
theorem withoutTag_isPrefix : ∀ s : List Char, withoutTag s <+: s
  | [] => List.prefix_rfl
  | c :: s => by
    rw [withoutTag]
    split
    · exact List.nil_prefix
    · exact (List.prefix_cons_inj c).2 (withoutTag_isPrefix s)

/-- A text that does not end in a closing parenthesis, but for blanks, has no tag at its end. -/
theorem withoutTag_eq_self : ∀ {s : List Char}, (Text.trimEnd s).getLast? ≠ some ')' →
    withoutTag s = s
  | [], _ => rfl
  | c :: s, h => by
    have hs : (Text.trimEnd s).getLast? ≠ some ')' := by
      intro hlast
      obtain ⟨hc, front, blanks, rfl, hblanks⟩ := Text.getLast?_trimEnd_eq_some_iff.1 hlast
      exact h (Text.getLast?_trimEnd_eq_some_iff.2 ⟨hc, c :: front, blanks, rfl, hblanks⟩)
    rw [withoutTag, if_neg fun htag => h (getLast?_of_isTag htag), withoutTag_eq_self hs]

/-! ### Groups -/

variable {name ending : List Char}

/-- A tag in parentheses, and what stands behind it. -/
def group (name ending : List Char) : List Char :=
  '(' :: (name ++ ')' :: ending)

theorem IsTagName.isTagChar_of_mem {c : Char} (h : IsTagName name) (hc : c ∈ name) :
    isTagChar c = true := by
  cases name with
  | nil => exact h.elim
  | cons first rest =>
    rcases List.mem_cons.1 hc with rfl | hc
    · rw [isTagChar, h.1]
      rfl
    · exact h.2 c hc

theorem IsTagName.isFlat (h : IsTagName name) : IsFlat name :=
  ⟨fun hc => absurd (h.isTagChar_of_mem hc) (by decide),
    fun hc => absurd (h.isTagChar_of_mem hc) (by decide)⟩

/-- The end of a version is read. -/
theorem IsVersion.afterVersion?_eq {version : List Char} (h : IsVersion version)
    (rest : List Char) : afterVersion? false (version ++ ')' :: rest) = some rest := by
  cases h with
  | flat hflat =>
    rw [afterVersion?_append hflat]
    rfl
  | @nested s inner hflat hinner =>
    have hassoc : s ++ '(' :: (inner ++ [')']) ++ ')' :: rest
        = s ++ '(' :: (inner ++ ')' :: ')' :: rest) := by simp
    rw [hassoc, afterVersion?_append hflat, afterVersion?, if_neg Bool.false_ne_true,
      afterVersion?_append hinner]
    rfl

theorem afterVersion?_blanks {inner : Bool} {blanks : List Char}
    (h : ∀ c ∈ blanks, Text.isBlank c = true) : afterVersion? inner blanks = none := by
  have hflat : IsFlat blanks :=
    ⟨fun hc => absurd (h _ hc) (by decide), fun hc => absurd (h _ hc) (by decide)⟩
  rw [← List.append_nil blanks, afterVersion?_append hflat, afterVersion?]

/-- A version takes all the closing parentheses that stand behind a tag. -/
theorem IsEnding.afterVersion?_eq_none (h : IsEnding ending) :
    afterVersion? false ending = none := by
  cases h with
  | blank hblanks => exact afterVersion?_blanks hblanks
  | @version version blanks hversion hblanks =>
    have hopened : afterVersion? false (" (version ".toList ++ (version ++ ')' :: blanks))
        = afterVersion? true (version ++ ')' :: blanks) := rfl
    rw [hopened]
    cases hversion with
    | flat hflat =>
      rw [afterVersion?_append hflat, afterVersion?, if_pos rfl, afterVersion?_blanks hblanks]
    | @nested s inner hflat hinner =>
      rw [List.append_assoc, afterVersion?_append hflat, List.cons_append, afterVersion?,
        if_pos rfl]

/-- A version that begins in front of a group does not end in it. -/
theorem afterVersion?_group (inner : Bool) (hname : IsTagName name) (hending : IsEnding ending) :
    afterVersion? inner (group name ending) = none := by
  rw [group, afterVersion?]
  split
  · rfl
  · rw [afterVersion?_append hname.isFlat, afterVersion?, if_pos rfl, hending.afterVersion?_eq_none]

/-- A version that begins in front of a group ends there. -/
theorem mem_of_afterVersion?_append (hname : IsTagName name) (hending : IsEnding ending)
    {rest : List Char} : ∀ {front : List Char} {inner : Bool},
    afterVersion? inner (front ++ group name ending) = some rest → '(' ∈ rest
  | [], inner, h => by
    rw [List.nil_append, afterVersion?_group inner hname hending] at h
    exact absurd h (by simp)
  | c :: front, inner, h => by
    have hgroup : '(' ∈ front ++ group name ending := List.mem_append_right _ List.mem_cons_self
    rw [List.cons_append] at h
    unfold afterVersion? at h
    split at h
    · next heq => exact absurd heq (by simp)
    · next rest' heq =>
      obtain ⟨-, rfl⟩ := List.cons.inj heq
      split at h
      · exact absurd h (by simp)
      · exact mem_of_afterVersion?_append hname hending h
    · next rest' heq =>
      obtain ⟨-, rfl⟩ := List.cons.inj heq
      split at h
      · exact mem_of_afterVersion?_append hname hending h
      · exact Option.some.inj h ▸ hgroup
    · next rest' _ _ heq =>
      obtain ⟨-, rfl⟩ := List.cons.inj heq
      exact mem_of_afterVersion?_append hname hending h

theorem afterTag?_group (hname : IsTagName name) : afterTag? (group name ending) = some ending :=
  afterTag?_eq_some_iff.2 ⟨name, hname, rfl⟩

theorem isTag_eq {s rest : List Char} (h : afterTag? s = some rest) : isTag s =
    match after? "(version " (Text.trimStart rest) with
    | none => rest.all Text.isBlank
    | some version => ((afterVersion? false version).map (·.all Text.isBlank)).getD false := by
  cases hversion : after? "(version " (Text.trimStart rest) <;> simp only [isTag, h, hversion]

/-- A group is a tag that ends the text. -/
theorem isTag_group (hname : IsTagName name) (hending : IsEnding ending) :
    isTag (group name ending) = true := by
  rw [isTag_eq (afterTag?_group hname)]
  cases hending with
  | blank hblanks =>
    rw [Text.trimStart_of_all hblanks]
    exact List.all_eq_true.2 hblanks
  | @version version blanks hversion hblanks =>
    have hafter : after? "(version "
        (Text.trimStart (" (version ".toList ++ (version ++ ')' :: blanks)))
        = some (version ++ ')' :: blanks) := after?_eq_some_iff.2 rfl
    rw [hafter]
    simp only [hversion.afterVersion?_eq, Option.map_some, Option.getD_some]
    exact List.all_eq_true.2 hblanks

/-- No version begins with the parenthesis of a tag. -/
theorem exists_append_of_prefix_group {front : List Char} (hname : IsTagName name)
    (h : "(version ".toList <+: front ++ group name ending) :
    ∃ more, front = "(version ".toList ++ more := by
  obtain ⟨rest, hrest⟩ := h
  rcases List.append_eq_append_iff.1 hrest with ⟨more, hmore, -⟩ | ⟨begun, hbegun, hgroup⟩
  · exact ⟨more, hmore⟩
  · have hopened : "(version ".toList = '(' :: "version ".toList := rfl
    rw [hopened] at hbegun
    cases begun with
    | nil => exact ⟨[], by rw [hopened, hbegun, List.append_nil, List.append_nil]⟩
    | cons c begun =>
      exfalso
      obtain ⟨rfl, hname'⟩ := List.cons.inj hgroup
      cases front with
      | nil =>
        have hbegun' : "version ".toList = begun := (List.cons.inj hbegun).2
        cases name with
        | nil => exact hname.elim
        | cons first name =>
          rw [← hbegun'] at hname'
          have hfirst : first = 'v' := (List.cons.inj hname').1
          exact absurd hname.1 (by rw [hfirst]; decide)
      | cons d front =>
        have hversion : "version ".toList = front ++ '(' :: begun := (List.cons.inj hbegun).2
        have hmem : '(' ∈ "version ".toList := by rw [hversion]; simp
        exact absurd hmem (by decide)

/-- A tag has no blank in it, so it does not reach over one. -/
theorem exists_append_of_afterTag? {front s rest : List Char}
    (h : afterTag? (front ++ ' ' :: s) = some rest) : ∃ more, rest = more ++ s := by
  obtain ⟨tag, htag, heq⟩ := afterTag?_eq_some_iff.1 h
  have hassoc : '(' :: (tag ++ ')' :: rest) = '(' :: (tag ++ [')']) ++ rest := by simp
  rw [List.append_cons, hassoc] at heq
  rcases List.append_eq_append_iff.1 heq with ⟨more, hmore, -⟩ | ⟨more, -, hmore⟩
  · have hblank : ' ' ∈ '(' :: (tag ++ [')']) := by rw [hmore]; simp
    simp only [List.mem_cons, List.mem_append, List.not_mem_nil, or_false, Char.reduceEq,
      false_or] at hblank
    exact absurd (htag.isTagChar_of_mem hblank) (by decide)
  · exact ⟨more, hmore⟩

/-- No tag that begins in front of a group, and a blank, reaches over the group to the end. -/
theorem isTag_append_group (hname : IsTagName name) (hending : IsEnding ending)
    (front : List Char) : isTag (front ++ ' ' :: group name ending) = false := by
  by_contra htag
  rw [Bool.not_eq_false] at htag
  cases hafter : afterTag? (front ++ ' ' :: group name ending) with
  | none =>
    unfold isTag at htag
    rw [hafter] at htag
    exact absurd htag (by simp)
  | some rest =>
    rw [isTag_eq hafter] at htag
    obtain ⟨more, rfl⟩ := exists_append_of_afterTag? hafter
    have htrim : Text.trimStart (more ++ group name ending)
        = Text.trimStart more ++ group name ending := Text.trimStart_append_cons (by decide) _ _
    rw [htrim] at htag
    split at htag
    · have hopen : '(' ∈ more ++ group name ending := List.mem_append_right _ List.mem_cons_self
      exact absurd (List.all_eq_true.1 htag _ hopen) (by decide)
    · next version hversion =>
      rw [after?_eq_some_iff] at hversion
      obtain ⟨front', hfront⟩ := exists_append_of_prefix_group hname ⟨version, hversion.symm⟩
      rw [hfront, List.append_assoc, List.append_cancel_left_eq] at hversion
      cases hend : afterVersion? false version with
      | none => simp [hend] at htag
      | some blanks =>
        rw [hend] at htag
        have hmem := mem_of_afterVersion?_append hname hending (hversion.symm ▸ hend)
        exact absurd (List.all_eq_true.1 htag _ hmem) (by decide)

/-- A tag at the end is taken away, and nothing in front of it. -/
theorem withoutTag_append_group (hname : IsTagName name) (hending : IsEnding ending) :
    ∀ front : List Char, withoutTag (front ++ ' ' :: group name ending) = front ++ [' ']
  | [] => by
    rw [List.nil_append, withoutTag, ← List.nil_append (' ' :: group name ending),
      isTag_append_group hname hending, if_neg Bool.false_ne_true, group, withoutTag, ← group,
      isTag_group hname hending, if_pos rfl, List.nil_append]
  | c :: front => by
    rw [List.cons_append, withoutTag, ← List.cons_append, isTag_append_group hname hending,
      if_neg Bool.false_ne_true, withoutTag_append_group hname hending front, List.cons_append]

end Columnar.ServerError
