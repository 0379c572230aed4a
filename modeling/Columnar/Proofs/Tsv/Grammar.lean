import Columnar.Proofs.Tsv.ArrayLiteral
import Columnar.Proofs.Tsv.Brackets

/-!
The grammar of array literals, and what it says about brackets and commas.

`Listed` is the grammar of what stands between the brackets of a literal: quoted elements, bare
elements that a comma or the end of the literal ends, and between them any commas and spaces. The
scan gives exactly the elements of the grammar (`exists_listed_of_scan`, `Listed.scan`): sound by
induction on the characters that are left, complete by induction on the derivation. A closing
bracket that a bare element begins with is the only one that may be out of balance, and the commas
outside of quotes and brackets are those of the grammar (`Listed.topCommas?_eq`), however many
elements there are.
-/

namespace Columnar.Tsv.ArrayLiteral

/-! ### The grammar -/

/-- The characters that begin a bare element: not those the scan passes over between elements, and
no quote. -/
def BeginsBare (c : Char) : Prop :=
  c ≠ ',' ∧ c ≠ ' ' ∧ c ≠ '\''

/-- The texts of bare elements. Their quotes and brackets are balanced, with no comma outside of
them; a closing bracket that they begin with does not count. -/
def IsBareText : List Char → Prop
  | [] => False
  | c :: rest => BeginsBare c ∧ topCommas? (if isClosing c then rest else c :: rest) = some 0

/-- What may stand between the brackets of a literal, with its elements and with the number of
commas outside of them. -/
inductive Listed : Nat → List Element → List Char → Prop
  | nil : Listed 0 [] []
  | comma {n : Nat} {elements : List Element} {s : List Char} (h : Listed n elements s) :
      Listed (n + 1) elements (',' :: s)
  | space {n : Nat} {elements : List Element} {s : List Char} (h : Listed n elements s) :
      Listed n elements (' ' :: s)
  | quoted {n : Nat} {elements : List Element} {x body s : List Char} (hbody : Spells x body)
      (h : Listed n elements s) :
      Listed n (.quoted (String.ofList x) :: elements) ('\'' :: (body ++ '\'' :: s))
  | last {t : List Char} (ht : IsBareText t) : Listed 0 [.bare (String.ofList (Text.trim t))] t
  | bare {n : Nat} {elements : List Element} {t s : List Char} (ht : IsBareText t)
      (h : Listed n elements s) :
      Listed (n + 1) (.bare (String.ofList (Text.trim t)) :: elements) (t ++ ',' :: s)

variable {done elements : List Element} {quoting : Quoting} {depth n : Nat}
  {text s t x body : List Char} {c : Char}

/-! ### Bare elements -/

/-- The scan inside a bare element. -/
def bareScan : Quoting → Nat → List Char → Scan
  | .outside, depth, text => .bare depth text
  | .inside, depth, text => .bareQuoted depth text
  | .escaped, depth, text => .bareEscape depth text

/-- The scan of a bare element follows its quotes and brackets up to a comma outside of them. -/
theorem step_bareScan (h : isTopComma quoting depth c = false) (done : List Element)
    (text : List Char) : step ⟨done, bareScan quoting depth text⟩ c
      = (advance? quoting depth c).map fun next => ⟨done, bareScan next.1 next.2 (c :: text)⟩ := by
  cases quoting with
  | escaped => rfl
  | inside =>
    simp only [bareScan, step, advance?]
    split
    · rfl
    · split <;> rfl
  | outside =>
    have hcount : (c = ',' && depth = 0) = false := by
      simpa [isTopComma, imp_not_comm] using h
    by_cases hquote : c = '\''
    · subst hquote
      rfl
    · rw [advance?, if_neg hquote, Option.map_map, nest?, bareScan, step_bare]
      unfold stepBare isOpening isClosing
      rw [if_neg hquote, hcount]
      split
      · rfl
      · split
        · cases depth <;> rfl
        · rfl

theorem step_bareScan_comma (h : isTopComma quoting depth c = true) (done : List Element)
    (text : List Char) : step ⟨done, bareScan quoting depth text⟩ c
      = some ⟨done ++ [bareElement text], .between⟩ := by
  obtain ⟨⟨rfl, rfl⟩, rfl⟩ := isTopComma_eq_true_iff.1 h
  rfl

theorem finish_bareScan_eq_some_iff :
    finish ⟨done, bareScan quoting depth text⟩ = some elements ↔
      quoting = .outside ∧ depth = 0 ∧ elements = done ++ [bareElement text] := by
  cases quoting <;> cases depth <;> simp [finish, bareScan, eq_comm]

/-- A balanced text is passed over inside a bare element. -/
theorem scan_bareScan (done : List Element) (h : topFrom? quoting depth s = some 0) :
    ∀ text, s.foldlM step ⟨done, bareScan quoting depth text⟩
      = some ⟨done, bareScan .outside 0 (s.reverse ++ text)⟩ := by
  induction s generalizing quoting depth with
  | nil =>
    intro text
    obtain ⟨rfl, rfl, -⟩ := topFrom?_nil_eq_some_iff.1 h
    rfl
  | cons c s ih =>
    intro text
    cases hcomma : isTopComma quoting depth c with
    | true =>
      rw [topFrom?_comma hcomma] at h
      obtain ⟨m, -, hm⟩ := Option.map_eq_some_iff.1 h
      exact absurd hm (Nat.succ_ne_zero m)
    | false =>
      rw [topFrom?_cons hcomma] at h
      obtain ⟨next, hnext, h⟩ := Option.bind_eq_some_iff.1 h
      have hstep := step_bareScan hcomma done text
      rw [hnext, Option.map_some] at hstep
      rw [scan_cons hstep, ih h, List.reverse_cons, List.append_assoc]
      rfl

/-- A scan inside a bare element ends with it, or behind the comma that ends it. -/
theorem exists_of_scan_bareScan
    (h : (s.foldlM step ⟨done, bareScan quoting depth text⟩).bind finish = some elements) :
    (topFrom? quoting depth s = some 0 ∧ elements = done ++ [bareElement (s.reverse ++ text)]) ∨
      ∃ t rest, s = t ++ ',' :: rest ∧ topFrom? quoting depth t = some 0 ∧
        (rest.foldlM step ⟨done ++ [bareElement (t.reverse ++ text)], .between⟩).bind finish
          = some elements := by
  induction s generalizing quoting depth text with
  | nil =>
    -- the literal ends here
    obtain ⟨rfl, rfl, rfl⟩ := finish_bareScan_eq_some_iff.1 h
    exact .inl ⟨rfl, rfl⟩
  | cons c s ih =>
    cases hcomma : isTopComma quoting depth c with
    | true =>
      rw [scan_cons (step_bareScan_comma hcomma done text)] at h
      obtain ⟨⟨rfl, rfl⟩, rfl⟩ := isTopComma_eq_true_iff.1 hcomma
      exact .inr ⟨[], s, rfl, rfl, h⟩
    | false =>
      cases hnext : advance? quoting depth c with
      | none =>
        -- a bracket that closes nothing
        rw [List.foldlM_cons, step_bareScan hcomma, hnext] at h
        exact absurd h (by simp)
      | some next =>
        have hstep := step_bareScan hcomma done text
        rw [hnext, Option.map_some] at hstep
        rw [scan_cons hstep] at h
        have hfrom : ∀ t, topFrom? quoting depth (c :: t) = topFrom? next.1 next.2 t := by
          intro t
          rw [topFrom?_cons hcomma, hnext, Option.bind_some]
        have hreverse : ∀ t : List Char, (c :: t).reverse ++ text = t.reverse ++ c :: text := by
          intro t
          rw [List.reverse_cons, List.append_assoc]
          rfl
        rcases ih h with ⟨hs, rfl⟩ | ⟨t, rest, rfl, ht, hrest⟩
        · exact .inl ⟨by rw [hfrom, hs], by rw [hreverse]⟩
        · exact .inr ⟨c :: t, rest, rfl, by rw [hfrom, ht], by rw [hreverse]; exact hrest⟩

/-! ### The first character -/

theorem step_between_bare (h : BeginsBare c) (done : List Element) :
    step ⟨done, .between⟩ c
      = some ⟨done, bareScan .outside (if isOpening c then 1 else 0) [c]⟩ := by
  obtain ⟨hcomma, hspace, hquote⟩ := h
  have hpassed : (c = ',' || c = ' ') = false := by simp [hcomma, hspace]
  simp only [step, hpassed, hquote, Bool.false_eq_true, if_false]
  unfold isOpening
  split <;> rfl

/-- A bare text is balanced behind its first character, if that is counted when it opens a bracket
and not when it closes one. -/
theorem isBareText_cons_iff : IsBareText (c :: t) ↔
    BeginsBare c ∧ topFrom? .outside (if isOpening c then 1 else 0) t = some 0 := by
  refine and_congr_right fun hc => Eq.congr_left ?_
  cases hclosing : isClosing c with
  | true =>
    rw [isOpening_of_isClosing hclosing]
    rfl
  | false =>
    have htop : isTopComma .outside 0 c = false := by simp [isTopComma, hc.1]
    rw [if_neg Bool.false_ne_true, topCommas?, topFrom?_cons htop, advance?, if_neg hc.2.2, nest?,
      hclosing]
    split <;> rfl

/-! ### Quoted elements -/

/-- A scan inside a quoted element that comes to an end passes a quote. -/
theorem exists_spells_of_scan {elements : List Element} :
    ∀ (s text : List Char), (s.foldlM step ⟨done, .quoted text⟩).bind finish = some elements →
      ∃ x body rest, s = body ++ '\'' :: rest ∧ Spells x body ∧
        (rest.foldlM step
          ⟨done ++ [.quoted (String.ofList (text.reverse ++ x))], .between⟩).bind finish
            = some elements
  | [], _, h => by simp [finish] at h
  | c :: s, text, h => by
    by_cases hbackslash : c = '\\'
    · subst hbackslash
      cases s with
      | nil => simp [step, finish] at h
      | cons mark s =>
        obtain ⟨x, body, rest, rfl, hbody, hrest⟩ := exists_spells_of_scan s _ h
        refine ⟨markedChar mark :: x, '\\' :: mark :: body, rest, rfl, .pair mark hbody, ?_⟩
        rwa [List.reverse_cons, List.append_assoc] at hrest
    · by_cases hquote : c = '\''
      · subst hquote
        refine ⟨[], [], s, rfl, .nil, ?_⟩
        rw [List.append_nil]
        exact h
      · have hstep : step ⟨done, .quoted text⟩ c = some ⟨done, .quoted (c :: text)⟩ := by
          simp [step, hbackslash, hquote]
        rw [scan_cons hstep] at h
        obtain ⟨x, body, rest, rfl, hbody, hrest⟩ := exists_spells_of_scan s _ h
        refine ⟨c :: x, c :: body, rest, rfl, .char hbackslash hquote hbody, ?_⟩
        rwa [List.reverse_cons, List.append_assoc] at hrest
  termination_by s => s.length

/-! ### The scan and the grammar -/

theorem bareElement_reverse (c : Char) (t : List Char) :
    bareElement (t.reverse ++ [c]) = .bare (String.ofList (Text.trim (c :: t))) := by
  rw [bareElement, ← List.reverse_cons, List.reverse_reverse]

/-- The scan gives the elements of the grammar. -/
theorem Listed.scan (h : Listed n elements s) : ∀ done,
    (s.foldlM step ⟨done, .between⟩).bind finish = some (done ++ elements) := by
  induction h with
  | nil => exact fun done => congrArg some (List.append_nil done).symm
  | comma h ih => exact ih
  | space h ih => exact ih
  | quoted hbody h ih =>
    intro done
    have hopen : step ⟨done, .between⟩ '\'' = some ⟨done, .quoted []⟩ := rfl
    rw [scan_cons hopen, scan_append (scan_quoted_spells hbody done []), scan_cons rfl, ih,
      List.append_nil, List.reverse_reverse, List.append_assoc]
    rfl
  | @last t ht =>
    intro done
    cases t with
    | nil => exact ht.elim
    | cons c t =>
      obtain ⟨hc, ht⟩ := isBareText_cons_iff.1 ht
      rw [scan_cons (step_between_bare hc done), scan_bareScan done ht, Option.bind_some,
        ← bareElement_reverse]
      rfl
  | @bare n elements t s ht h ih =>
    intro done
    cases t with
    | nil => exact ht.elim
    | cons c t =>
      obtain ⟨hc, ht⟩ := isBareText_cons_iff.1 ht
      have hcomma : isTopComma .outside 0 ',' = true := rfl
      rw [List.cons_append, scan_cons (step_between_bare hc done),
        scan_append (scan_bareScan done ht _), scan_cons (step_bareScan_comma hcomma done _), ih,
        bareElement_reverse, List.append_assoc]
      rfl

/-- A scan that comes to an end has gone over a text of the grammar. -/
theorem exists_listed_of_scan : ∀ (s : List Char) (done : List Element),
    (s.foldlM step ⟨done, .between⟩).bind finish = some elements →
      ∃ n found, elements = done ++ found ∧ Listed n found s
  | [], done, h => ⟨0, [], by simpa [finish] using h.symm, .nil⟩
  | c :: s, done, h => by
    -- behind an element the scan is between elements again, with less of the text left
    by_cases hbare : BeginsBare c
    · rw [scan_cons (step_between_bare hbare done)] at h
      rcases exists_of_scan_bareScan h with ⟨hs, rfl⟩ | ⟨t, rest, rfl, ht, h⟩
      · rw [bareElement_reverse]
        exact ⟨0, _, rfl, .last (isBareText_cons_iff.2 ⟨hbare, hs⟩)⟩
      · rw [bareElement_reverse] at h
        obtain ⟨n, found, rfl, hfound⟩ := exists_listed_of_scan rest _ h
        rw [List.append_assoc]
        exact ⟨n + 1, _, rfl, .bare (isBareText_cons_iff.2 ⟨hbare, ht⟩) hfound⟩
    · have hc : c = ',' ∨ c = ' ' ∨ c = '\'' := by
        simpa only [BeginsBare, not_and_or, not_not] using hbare
      rcases hc with rfl | rfl | rfl
      · obtain ⟨n, found, rfl, hfound⟩ := exists_listed_of_scan s done h
        exact ⟨n + 1, found, rfl, hfound.comma⟩
      · obtain ⟨n, found, rfl, hfound⟩ := exists_listed_of_scan s done h
        exact ⟨n, found, rfl, hfound.space⟩
      · obtain ⟨x, body, rest, rfl, hbody, h⟩ := exists_spells_of_scan s [] h
        obtain ⟨n, found, rfl, hfound⟩ := exists_listed_of_scan rest _ h
        rw [List.append_assoc]
        exact ⟨n, _, rfl, hfound.quoted hbody⟩
  termination_by s => s.length

/-! ### Brackets and commas -/

/-- Bare elements that begin with a closing bracket. -/
def beginsClosing : Element → Bool
  | .quoted _ => false
  | .bare text => text.toList.head?.any isClosing

theorem beginsClosing_bare (s : List Char) :
    beginsClosing (.bare (String.ofList s)) = s.head?.any isClosing := by
  rw [beginsClosing, String.toList_ofList]

/-- A bare element has no comma of its own, and no bracket is left open behind it. -/
theorem IsBareText.topCommas?_append (h : IsBareText t) (s : List Char) :
    topCommas? (t ++ s)
      = if beginsClosing (.bare (String.ofList (Text.trim t))) then none else topCommas? s := by
  cases t with
  | nil => exact h.elim
  | cons c t =>
    rw [beginsClosing_bare]
    cases hc : isClosing c with
    | true =>
      -- it closes a bracket that is not open, whatever stands behind it
      have hblank : Text.isBlank c = false := by
        rcases isClosing_eq_true_iff.1 hc with rfl | rfl <;> rfl
      rw [Text.head?_trim, Text.trimStart, List.dropWhile_cons_of_neg (by simp [hblank]),
        List.head?_cons, Option.any_some, if_pos hc, List.cons_append, topCommas?_closing hc]
    | false =>
      have ht : topCommas? (c :: t) = some 0 := by simpa [hc] using h.2
      have happend : topCommas? (c :: t ++ s) = (topCommas? s).map (0 + ·) :=
        topFrom?_append ht s
      rw [head?_any_isClosing_eq_false ht, if_neg Bool.false_ne_true, happend]
      simp

/-- The commas of the grammar are those outside of quotes and brackets, and only a closing bracket
that begins an element is out of balance. -/
theorem Listed.topCommas?_eq (h : Listed n elements s) :
    topCommas? s = if elements.any beginsClosing then none else some n := by
  induction h with
  | nil => rfl
  | comma h ih =>
    rw [topCommas?_comma, ih]
    split <;> rfl
  | space h ih => exact (topCommas?_blank rfl _).trans ih
  | quoted hbody h ih =>
    rw [topCommas?, topFrom?_cons rfl, advance?, if_pos rfl, Option.bind_some, hbody.topFrom?_eq]
    exact ih
  | last ht =>
    have h := ht.topCommas?_append []
    rw [List.append_nil] at h
    rw [h, List.any_cons, List.any_nil, Bool.or_false]
    rfl
  | bare ht h ih =>
    rw [ht.topCommas?_append, topCommas?_comma, ih, List.any_cons]
    cases beginsClosing _ with
    | true => rfl
    | false =>
      rw [Bool.false_or, if_neg Bool.false_ne_true]
      split <;> rfl

theorem IsBareText.exists_bareChars? (h : IsBareText t) :
    ∃ bare, bareChars? .outside t = some bare := by
  cases t with
  | nil => exact h.elim
  | cons c t =>
    obtain ⟨hc, h⟩ := h
    split at h
    · obtain ⟨bare, hbare⟩ := exists_bareChars?_of_topCommas? h
      exact ⟨c :: bare, by rw [bareChars?_outside_cons hc.2.2, hbare]; rfl⟩
    · exact exists_bareChars?_of_topCommas? h

/-- The grammar leaves no quoted string open. -/
theorem Listed.exists_bareChars? (h : Listed n elements s) :
    ∃ bare, bareChars? .outside s = some bare := by
  induction h with
  | nil => exact ⟨[], rfl⟩
  | comma h ih | space h ih =>
    obtain ⟨bare, hbare⟩ := ih
    exact ⟨_, by rw [bareChars?_outside_cons (by decide), hbare]; rfl⟩
  | quoted hbody h ih =>
    obtain ⟨bare, hbare⟩ := ih
    exact ⟨bare, by rw [bareChars?, if_pos rfl, hbody.bareChars?_eq, hbare]⟩
  | last ht => exact ht.exists_bareChars?
  | bare ht h ih =>
    obtain ⟨front, hfront⟩ := ht.exists_bareChars?
    obtain ⟨bare, hbare⟩ := ih
    refine ⟨front ++ ',' :: bare, ?_⟩
    rw [bareChars?_append hfront, bareChars?_outside_cons (by decide), hbare]
    rfl

/-! ### Open brackets -/

/-- The number of brackets open in the scan. -/
def Scan.opened : Scan → Nat
  | .between | .quoted _ | .quotedEscape _ => 0
  | .bare depth _ | .bareQuoted depth _ | .bareEscape depth _ => depth

theorem opened_le_of_step {progress next : Progress} {c : Char} (h : step progress c = some next) :
    next.scan.opened ≤ progress.scan.opened + 1 := by
  obtain ⟨done, scan⟩ := progress
  cases scan with
  | bare depth text =>
    rw [step_bare] at h
    unfold stepBare at h
    grind [Scan.opened]
  | between | quoted | quotedEscape | bareQuoted | bareEscape =>
    simp only [step] at h
    grind [Scan.opened]

/-- Each open bracket stands in the text that has been scanned. -/
theorem opened_le_of_scan {progress next : Progress} {s : List Char}
    (h : s.foldlM step progress = some next) :
    next.scan.opened ≤ progress.scan.opened + s.length := by
  induction s generalizing progress with
  | nil =>
    obtain rfl := Option.some.inj h
    exact Nat.le_refl _
  | cons c s ih =>
    rw [List.foldlM_cons] at h
    obtain ⟨between, hstep, hrest⟩ := Option.bind_eq_some_iff.1 h
    have hone := opened_le_of_step hstep
    have hlater := ih hrest
    rw [List.length_cons]
    omega

/-- In a text of less than `2 ^ 32` characters the open brackets are counted within 32 bits. -/
theorem opened_le_of_length_le {inside front : List Char} {progress : Progress}
    (hlength : inside.length ≤ Text.wordMax 32) (hfront : front <+: inside)
    (h : front.foldlM step start = some progress) :
    progress.scan.opened ≤ Text.wordMax 32 := by
  have hstart : start.scan.opened = 0 := rfl
  have hopened := opened_le_of_scan h
  have hshort := hfront.length_le
  omega

/-! ### Whole literals -/

theorem inside?_eq_some_iff {inside : List Char} :
    inside? s = some inside ↔ s = '[' :: (inside ++ [']']) := by
  refine ⟨fun h => ?_, fun h => h ▸ inside?_bracketed inside⟩
  unfold inside? at h
  split at h
  · next rest =>
    split at h
    · next hlast =>
      obtain ⟨front, rfl⟩ := List.getLast?_eq_some_iff.1 hlast
      rw [List.dropLast_concat] at h
      rw [Option.some.inj h]
    · cases h
  · cases h

/-- What is read between the brackets are the elements of the grammar. -/
theorem ofInside?_eq_some_iff : ofInside? s = some elements ↔ ∃ n, Listed n elements s := by
  constructor
  · intro h
    obtain ⟨n, found, rfl, hfound⟩ := exists_listed_of_scan s [] h
    exact ⟨n, hfound⟩
  · rintro ⟨n, h⟩
    exact h.scan []

/-- A text is read as a list of elements if and only if it stands in square brackets and the grammar
gives these elements for what is between them. Then no quote is left open there. Outside of the
quotes the brackets are balanced, unless an element begins with a closing one, and the commas
outside of both are those of the grammar: one behind each bare element but the last, and any number
of them wherever an element may begin. Open brackets are counted without a limit here; a count that
ends at `2 ^ 32` is the same for every text under 4 GiB (`opened_le_of_length_le`). -/
theorem readArray?_eq_some_iff (text : String) (elements : List Element) :
    readArray? text = some elements ↔
      ∃ inside n bare, text.toList = '[' :: (inside ++ [']']) ∧ Listed n elements inside ∧
        bareChars? .outside inside = some bare ∧
        commas? 0 bare = if elements.any beginsClosing then none else some n := by
  rw [readArray?, Option.bind_eq_some_iff]
  constructor
  · rintro ⟨inside, hinside, h⟩
    obtain ⟨n, hn⟩ := ofInside?_eq_some_iff.1 h
    obtain ⟨bare, hbare⟩ := hn.exists_bareChars?
    have hcommas := hn.topCommas?_eq
    rw [topCommas?, topFrom?, hbare, Option.bind_some] at hcommas
    exact ⟨inside, n, bare, inside?_eq_some_iff.1 hinside, hn, hbare, hcommas⟩
  · rintro ⟨inside, n, bare, htext, hn, -⟩
    exact ⟨inside, inside?_eq_some_iff.2 htext, ofInside?_eq_some_iff.2 ⟨n, hn⟩⟩

/-- A closing bracket too many is read as an element, and commas are passed over or missed: two
commas between two elements, none between two quoted ones, and one behind the last. -/
theorem malformed_literals_read :
    (readArray? "[]]" = some [.bare "]"] ∧ topCommas? "]".toList = none) ∧
    (readArray? "[1,,2]" = some [.bare "1", .bare "2"] ∧ topCommas? "1,,2".toList = some 2) ∧
    (readArray? "['a''b']" = some [.quoted "a", .quoted "b"] ∧
      topCommas? "'a''b'".toList = some 0) ∧
    (readArray? "[1,]" = some [.bare "1"] ∧ topCommas? "1,".toList = some 1) ∧
    ¬ ∀ text elements, readArray? text = some elements →
      ∃ inside, text.toList = '[' :: (inside ++ [']']) ∧
        topCommas? inside = some (elements.length - 1) := by
  refine ⟨⟨rfl, rfl⟩, ⟨rfl, rfl⟩, ⟨rfl, rfl⟩, ⟨rfl, rfl⟩, fun h => ?_⟩
  obtain ⟨inside, htext, hcommas⟩ := h "[]]" [.bare "]"] rfl
  obtain rfl : inside = [']'] := Option.some.inj (inside?_eq_some_iff.2 htext).symm
  exact absurd hcommas (by decide)

end Columnar.Tsv.ArrayLiteral
