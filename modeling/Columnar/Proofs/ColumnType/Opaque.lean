import Columnar.ColumnType.Decoder
import Columnar.Proofs.Result
import Columnar.Proofs.Tsv.Grammar
import Mathlib.Data.List.Infix

/-!
Lists of values whose type is not known further.

A tuple or a map is kept as the text it is written with. Such texts stand in a list one behind the
other with commas between them, and the commas in them stand in brackets (`IsOpaque`). The reader
counts square and round brackets together (`exists_commas?_of_balanced`) and no others, so a text
stays whole if its commas stand in these. A comma that only braces hold ends the element, and a
bracket that is closed behind it belongs to another one (`IsOpaque.exists_closing`): the list is
read all the same, with more elements than texts (`exists_readArray?_of_isOpaque`).
-/

namespace Columnar.Tsv

/-! ### Kinds of brackets -/

/-- A kind of brackets. -/
structure BracketKind where
  opening : Char
  closing : Char

namespace BracketKind

def square : BracketKind := ⟨'[', ']'⟩

def paren : BracketKind := ⟨'(', ')'⟩

def brace : BracketKind := ⟨'{', '}'⟩

/-- The number of brackets that are open behind a text. -/
def openAfter (b : BracketKind) (front : List Char) : Nat :=
  front.count b.opening - front.count b.closing

/-- Every closing bracket has an opening one in front of it, and all are closed at the end. -/
def IsBalanced (b : BracketKind) (s : List Char) : Prop :=
  (∀ front ∈ s.inits, front.count b.closing ≤ front.count b.opening) ∧
    s.count b.closing = s.count b.opening

instance (b : BracketKind) (s : List Char) : Decidable (b.IsBalanced s) :=
  inferInstanceAs (Decidable (_ ∧ _))

end BracketKind

open BracketKind

/-- Every comma outside of quoted strings stands in one of the brackets. -/
def HoldsCommas (brackets : List BracketKind) (t : List Char) : Prop :=
  ∃ bare ∈ bareChars? .outside t,
    ∀ front ∈ bare.inits, front ++ [','] <+: bare → ∃ b ∈ brackets, 0 < b.openAfter front

instance (brackets : List BracketKind) (t : List Char) : Decidable (HoldsCommas brackets t) :=
  inferInstanceAs (Decidable (∃ bare ∈ bareChars? .outside t, _))

/-- The texts of opaque values: tuples, maps and what is nested in them. It follows that they begin
with no comma, blank or closing bracket. -/
structure IsOpaque (t : List Char) : Prop where
  ne_nil : t ≠ []
  unquoted : t.head? ≠ some '\''
  trimmed : Text.trim t = t
  balanced : ∃ bare ∈ bareChars? .outside t,
    ∀ b ∈ [square, paren, brace], b.IsBalanced bare
  commas : HoldsCommas [square, paren, brace] t

instance (t : List Char) : Decidable (IsOpaque t) :=
  decidable_of_iff
    (t ≠ [] ∧ t.head? ≠ some '\'' ∧ Text.trim t = t ∧
      (∃ bare ∈ bareChars? .outside t, ∀ b ∈ [square, paren, brace], b.IsBalanced bare) ∧
      HoldsCommas [square, paren, brace] t)
    ⟨fun ⟨h₁, h₂, h₃, h₄, h₅⟩ => ⟨h₁, h₂, h₃, h₄, h₅⟩, fun h => ⟨h.1, h.2, h.3, h.4, h.5⟩⟩

variable {s front bare t : List Char} {c d : Char}

/-! ### The depth -/

/-- The number of square and round brackets that are open behind a text. -/
def depthAfter (front : List Char) : Nat :=
  square.openAfter front + paren.openAfter front

theorem BracketKind.IsBalanced.count_le {b : BracketKind} (h : b.IsBalanced bare)
    (hfront : front <+: bare) : front.count b.closing ≤ front.count b.opening :=
  h.1 front ((List.mem_inits front bare).2 hfront)

/-- Brackets that are balanced kind by kind are balanced for the reader, which does not tell the
kinds apart. -/
theorem nest?_depthAfter (hsquare : square.IsBalanced bare) (hparen : paren.IsBalanced bare)
    (h : front ++ [c] <+: bare) :
    nest? (depthAfter front) c = some (depthAfter (front ++ [c])) := by
  have hfront : front <+: bare := (List.prefix_append front [c]).trans h
  have hsquare₁ := hsquare.count_le hfront
  have hparen₁ := hparen.count_le hfront
  have hsquare₂ := hsquare.count_le h
  have hparen₂ := hparen.count_le h
  simp only [square, paren] at hsquare₁ hparen₁ hsquare₂ hparen₂
  simp only [List.count_append, List.count_singleton] at hsquare₂ hparen₂
  simp only [depthAfter, openAfter, square, paren, List.count_append, List.count_singleton]
  cases hopening : isOpening c with
  | true =>
    rw [nest?, hopening, if_pos rfl]
    rcases isOpening_eq_true_iff.1 hopening with rfl | rfl <;>
      simp at hsquare₂ hparen₂ ⊢ <;> omega
  | false =>
    rw [nest?, hopening, if_neg Bool.false_ne_true]
    simp only [isOpening, Bool.or_eq_false_iff, decide_eq_false_iff_not] at hopening
    cases hclosing : isClosing c with
    | true =>
      rcases isClosing_eq_true_iff.1 hclosing with rfl | rfl <;>
        simp at hsquare₂ hparen₂ ⊢ <;> omega
    | false =>
      simp only [isClosing, Bool.or_eq_false_iff, decide_eq_false_iff_not] at hclosing
      simp [hopening, hclosing]

theorem forall_prefix_cons_iff {P : List Char → Prop} :
    (∀ front, front ++ [d] <+: c :: s → P front) ↔
      (c = d → P []) ∧ ∀ front, front ++ [d] <+: s → P (c :: front) := by
  constructor
  · refine fun h => ⟨?_, fun front hfront => h _ (List.cons_prefix_cons.2 ⟨rfl, hfront⟩)⟩
    rintro rfl
    exact h [] ⟨s, rfl⟩
  · rintro ⟨hfirst, h⟩ (_ | ⟨e, front⟩) hfront
    · exact hfirst (List.cons_prefix_cons.1 hfront).1.symm
    · obtain ⟨rfl, hrest⟩ := List.cons_prefix_cons.1 hfront
      exact h front hrest

/-- The reader counts the commas outside of square and round brackets. -/
theorem exists_commas?_of_balanced (hsquare : square.IsBalanced bare)
    (hparen : paren.IsBalanced bare) : ∀ s front, front ++ s = bare →
      ∃ n, commas? (depthAfter front) s = some n ∧
        (n = 0 ↔ ∀ more, more ++ [','] <+: s → 0 < depthAfter (front ++ more))
  | [], front, h => by
    rw [List.append_nil] at h
    subst h
    have hdepth : depthAfter front = 0 := by
      rw [depthAfter, openAfter, openAfter, hsquare.2, hparen.2, Nat.sub_self, Nat.sub_self]
    exact ⟨0, by rw [commas?, hdepth]; rfl, by simp⟩
  | c :: s, front, h => by
    have hprefix : front ++ [c] <+: bare := ⟨s, by rw [← h, List.append_assoc]; rfl⟩
    obtain ⟨n, hn, hzero⟩ := exists_commas?_of_balanced hsquare hparen s (front ++ [c])
      (by rw [← h, List.append_assoc]; rfl)
    rw [commas?, nest?_depthAfter hsquare hparen hprefix, Option.bind_some, hn, Option.map_some]
    refine ⟨_, rfl, ?_⟩
    rw [forall_prefix_cons_iff, List.append_nil]
    simp only [List.append_assoc, List.singleton_append] at hzero
    rw [← hzero]
    split
    · next hcomma =>
      simp only [Bool.and_eq_true, decide_eq_true_eq] at hcomma
      exact iff_of_false (Nat.succ_ne_zero n) fun h => absurd (h.1 hcomma.1) (by omega)
    · next hcomma =>
      have hinside : c = ',' → 0 < depthAfter front := by
        rintro rfl
        simpa [Nat.pos_iff_ne_zero] using hcomma
      exact (and_iff_right hinside).symm

theorem holdsCommas_iff (hbare : bareChars? .outside t = some bare) :
    HoldsCommas [square, paren] t ↔ ∀ front, front ++ [','] <+: bare → 0 < depthAfter front := by
  have hdepth : ∀ front, (∃ b ∈ [square, paren], 0 < b.openAfter front) ↔ 0 < depthAfter front := by
    intro front
    simp only [depthAfter, List.mem_cons, List.not_mem_nil, or_false, exists_eq_or_imp,
      exists_eq_left]
    omega
  simp only [HoldsCommas, hbare, Option.mem_some_iff, exists_eq_left', hdepth, List.mem_inits]
  refine forall_congr' fun front => ⟨fun h hfront => ?_, fun h _ => h⟩
  exact h ((List.prefix_append front [',']).trans hfront) hfront

/-! ### One text -/

/-- The reader finds the quotes and brackets of an opaque text balanced, and no comma outside of
them if none stands in braces only. -/
theorem IsOpaque.exists_topCommas? (h : IsOpaque t) :
    ∃ n, topCommas? t = some n ∧ (n = 0 ↔ HoldsCommas [square, paren] t) := by
  obtain ⟨bare, hbare, hbalanced⟩ := h.balanced
  obtain ⟨n, hn, hzero⟩ := exists_commas?_of_balanced (hbalanced square (by simp))
    (hbalanced paren (by simp)) bare [] rfl
  refine ⟨n, ?_, hzero.trans (holdsCommas_iff hbare).symm⟩
  rw [topCommas?, topFrom?, Option.mem_def.1 hbare]
  exact hn

theorem IsOpaque.topCommas?_eq (h : IsOpaque t) (hheld : HoldsCommas [square, paren] t) :
    topCommas? t = some 0 := by
  obtain ⟨n, hn, hzero⟩ := h.exists_topCommas?
  rwa [hzero.2 hheld] at hn

/-- An opaque text begins a bare element. -/
theorem IsOpaque.beginsBare (h : IsOpaque (c :: t)) : ArrayLiteral.BeginsBare c := by
  refine ⟨?_, ?_, ?_⟩
  · rintro rfl
    obtain ⟨bare, hbare, hheld⟩ := h.commas
    rw [Option.mem_def, bareChars?_outside_cons (by decide)] at hbare
    obtain ⟨rest, -, rfl⟩ := Option.map_eq_some_iff.1 hbare
    obtain ⟨b, -, hopen⟩ := hheld [] ((List.mem_inits ..).2 List.nil_prefix) ⟨rest, rfl⟩
    exact absurd hopen (Nat.lt_irrefl 0)
  · rintro rfl
    exact absurd (Text.isBlank_eq_false_of_trim_eq h.trimmed) (by decide)
  · rintro rfl
    exact h.unquoted rfl

/-- Behind the first comma that the reader counts, a bracket of some kind is closed. -/
theorem IsOpaque.exists_closing {u v : List Char} {n : Nat} (h : IsOpaque (u ++ ',' :: v))
    (hu : topCommas? u = some 0) (hv : topCommas? v = some n) : ∃ c ∈ v, c ≠ ',' ∧ c ≠ ' ' := by
  obtain ⟨front, hfront⟩ := exists_bareChars?_of_topCommas? hu
  obtain ⟨rest, hrest⟩ := exists_bareChars?_of_topCommas? hv
  have hbare : bareChars? .outside (u ++ ',' :: v) = some (front ++ ',' :: rest) := by
    rw [bareChars?_append hfront, bareChars?_outside_cons (by decide), hrest]
    rfl
  obtain ⟨bare, hmem, hheld⟩ := h.commas
  obtain rfl : front ++ ',' :: rest = bare := Option.some.inj (hbare.symm.trans hmem)
  obtain ⟨bare, hmem, hbalanced⟩ := h.balanced
  obtain rfl : front ++ ',' :: rest = bare := Option.some.inj (hbare.symm.trans hmem)
  obtain ⟨b, hb, hopen⟩ := hheld front ((List.mem_inits ..).2 (List.prefix_append ..))
    ⟨rest, by rw [List.append_assoc]; rfl⟩
  have hclosing : b.closing ≠ ',' ∧ b.closing ≠ ' ' := by
    simp only [List.mem_cons, List.not_mem_nil, or_false] at hb
    rcases hb with rfl | rfl | rfl <;> decide
  -- it is open behind the first part and closed at the end
  have hcount : 0 < (',' :: rest).count b.closing := by
    have htotal := (hbalanced b hb).2
    simp only [List.count_append, BracketKind.openAfter] at htotal hopen
    omega
  have hrestmem : b.closing ∈ rest :=
    (List.mem_cons.1 (List.count_pos_iff.1 hcount)).resolve_left hclosing.1
  exact ⟨b.closing, (sublist_of_bareChars? hrest).subset hrestmem, hclosing⟩

namespace ArrayLiteral

theorem isBareText_of_isOpaque (h : IsOpaque t) (hheld : HoldsCommas [square, paren] t) :
    IsBareText t := by
  have hcommas := h.topCommas?_eq hheld
  cases t with
  | nil => exact absurd rfl h.ne_nil
  | cons c rest =>
    refine ⟨h.beginsBare, ?_⟩
    cases hc : isClosing c with
    | true =>
      rw [topCommas?_closing hc] at hcommas
      exact absurd hcommas (Option.some_ne_none 0).symm
    | false => exact hcommas

/-! ### Elements that are begun -/

/-- The quotes and brackets that are open where the scan stands. -/
def Scan.place : Scan → Quoting × Nat
  | .between => (.outside, 0)
  | .quoted _ => (.inside, 0)
  | .quotedEscape _ => (.escaped, 0)
  | .bare depth _ => (.outside, depth)
  | .bareQuoted depth _ => (.inside, depth)
  | .bareEscape depth _ => (.escaped, depth)

/-- The number of elements, with the one in which the scan stands. -/
def Progress.begun (p : Progress) : Nat :=
  if p.scan = .between then p.elements.length else p.elements.length + 1

variable {p : Progress} {quoting : Quoting} {depth n : Nat}

theorem place_bareScan (quoting : Quoting) (depth : Nat) (text : List Char) :
    (bareScan quoting depth text).place = (quoting, depth) := by
  cases quoting <;> rfl

theorem begun_bareScan (done : List Element) (quoting : Quoting) (depth : Nat)
    (text : List Char) :
    Progress.begun ⟨done, bareScan quoting depth text⟩ = done.length + 1 := by
  cases quoting <;> rfl

/-- With no quote or bracket open the scan stands between elements or in a bare one. -/
theorem exists_scan_of_place (h : p.scan.place = (.outside, 0)) :
    p.scan = .between ∨ ∃ text, p.scan = .bare 0 text := by
  obtain ⟨done, scan⟩ := p
  cases scan <;> simp_all [Scan.place]

theorem exists_finish_of_place (h : p.scan.place = (.outside, 0)) :
    ∃ elements, finish p = some elements ∧ elements.length = p.begun := by
  obtain ⟨done, scan⟩ := p
  rcases exists_scan_of_place h with hscan | ⟨text, hscan⟩ <;> cases hscan
  · exact ⟨done, rfl, rfl⟩
  · exact ⟨done ++ [bareElement text], rfl, List.length_append⟩

theorem exists_step_comma (h : p.scan.place = (.outside, 0)) :
    ∃ q, step p ',' = some q ∧ q.scan = .between ∧ q.begun = p.begun := by
  obtain ⟨done, scan⟩ := p
  rcases exists_scan_of_place h with hscan | ⟨text, hscan⟩ <;> cases hscan
  · exact ⟨_, rfl, rfl, rfl⟩
  · exact ⟨⟨done ++ [bareElement text], .between⟩, rfl, rfl, List.length_append⟩

/-- Between elements every character but the spaces and commas begins one. -/
theorem exists_step_between {next : Quoting × Nat} (done : List Element)
    (hcomma : c ≠ ',') (hspace : c ≠ ' ') (hnext : advance? .outside 0 c = some next) :
    ∃ q, step ⟨done, .between⟩ c = some q ∧ q.scan.place = next ∧ q.begun = done.length + 1 := by
  by_cases hquote : c = '\''
  · subst hquote
    obtain rfl := Option.some.inj hnext
    exact ⟨⟨done, .quoted []⟩, rfl, rfl, rfl⟩
  · refine ⟨_, step_between_bare ⟨hcomma, hspace, hquote⟩ done, ?_, begun_bareScan ..⟩
    rw [place_bareScan]
    rw [advance?, if_neg hquote, nest?] at hnext
    split at hnext
    · next hopening => exact (if_pos hopening).symm ▸ Option.some.inj hnext
    · next hopening =>
      split at hnext
      · cases hnext
      · exact (if_neg hopening).symm ▸ Option.some.inj hnext

/-- No character that continues a balanced text takes back an element. -/
theorem exists_step {next : Quoting × Nat}
    (hcomma : isTopComma p.scan.place.1 p.scan.place.2 c = false)
    (hnext : advance? p.scan.place.1 p.scan.place.2 c = some next) :
    ∃ q, step p c = some q ∧ q.scan.place = next ∧ p.begun ≤ q.begun := by
  obtain ⟨done, scan⟩ := p
  -- the three places in a bare element are one case
  have hbare : ∀ quoting depth text, scan = bareScan quoting depth text →
      ∃ q, step ⟨done, scan⟩ c = some q ∧ q.scan.place = next ∧
        Progress.begun ⟨done, scan⟩ ≤ q.begun := by
    rintro quoting depth text rfl
    rw [place_bareScan] at hcomma hnext
    refine ⟨⟨done, bareScan next.1 next.2 (c :: text)⟩, ?_, place_bareScan .., ?_⟩
    · rw [step_bareScan hcomma, hnext, Option.map_some]
    · rw [begun_bareScan, begun_bareScan]
  cases scan with
  | between =>
    by_cases hspace : c = ' '
    · subst hspace
      exact ⟨⟨done, .between⟩, rfl, Option.some.inj hnext, Nat.le_refl _⟩
    · have hne : c ≠ ',' := by
        rintro rfl
        cases hcomma
      obtain ⟨q, hq, hplace, hbegun⟩ := exists_step_between done hne hspace hnext
      exact ⟨q, hq, hplace, hbegun ▸ Nat.le_succ _⟩
  | quoted text =>
    simp only [Scan.place, advance?] at hnext
    simp only [step]
    split at hnext
    · exact ⟨_, if_pos ‹_›, Option.some.inj hnext, Nat.le_refl _⟩
    · rw [if_neg ‹_›]
      split at hnext
      · refine ⟨_, if_pos ‹_›, Option.some.inj hnext, ?_⟩
        change done.length + 1 ≤ (done ++ [_]).length
        rw [List.length_append]
        rfl
      · exact ⟨_, if_neg ‹_›, Option.some.inj hnext, Nat.le_refl _⟩
  | quotedEscape text => exact ⟨_, rfl, Option.some.inj hnext, Nat.le_refl _⟩
  | bare depth text => exact hbare .outside depth text rfl
  | bareQuoted depth text => exact hbare .inside depth text rfl
  | bareEscape depth text => exact hbare .escaped depth text rfl

/-- The scan goes over any balanced text, and takes back no element. -/
theorem exists_scan {n : Nat} (h : topFrom? p.scan.place.1 p.scan.place.2 s = some n) :
    ∃ q, s.foldlM step p = some q ∧ q.scan.place = (.outside, 0) ∧ p.begun ≤ q.begun := by
  induction s generalizing p n with
  | nil =>
    obtain ⟨hquoting, hdepth, -⟩ := topFrom?_nil_eq_some_iff.1 h
    exact ⟨p, rfl, Prod.ext hquoting hdepth, Nat.le_refl _⟩
  | cons c s ih =>
    cases hcomma : isTopComma p.scan.place.1 p.scan.place.2 c with
    | true =>
      rw [topFrom?_comma hcomma] at h
      obtain ⟨m, hm, -⟩ := Option.map_eq_some_iff.1 h
      obtain ⟨⟨hquoting, hdepth⟩, rfl⟩ := isTopComma_eq_true_iff.1 hcomma
      obtain ⟨⟨done, scan⟩, hq, rfl, hbegun⟩ := exists_step_comma (Prod.ext hquoting hdepth)
      obtain ⟨r, hr, hplace, hle⟩ := ih (p := ⟨done, .between⟩) hm
      exact ⟨r, by rw [scan_cons hq, hr], hplace, hbegun ▸ hle⟩
    | false =>
      rw [topFrom?_cons hcomma] at h
      obtain ⟨next, hnext, h⟩ := Option.bind_eq_some_iff.1 h
      obtain ⟨q, hq, rfl, hbegun⟩ := exists_step hcomma hnext
      obtain ⟨r, hr, hplace, hle⟩ := ih h
      exact ⟨r, by rw [scan_cons hq, hr], hplace, hbegun.trans hle⟩

/-- Between elements a text with more than commas and spaces begins at least one. -/
theorem exists_scan_between (done : List Element) {n : Nat} (h : topCommas? s = some n)
    (hc : ∃ c ∈ s, c ≠ ',' ∧ c ≠ ' ') :
    ∃ q, s.foldlM step ⟨done, .between⟩ = some q ∧ q.scan.place = (.outside, 0) ∧
      done.length < q.begun := by
  induction s generalizing n with
  | nil =>
    obtain ⟨c, hmem, -⟩ := hc
    cases hmem
  | cons c s ih =>
    obtain ⟨d, hd, hne⟩ := hc
    by_cases hcomma : c = ','
    · subst hcomma
      rw [topCommas?_comma] at h
      obtain ⟨m, hm, -⟩ := Option.map_eq_some_iff.1 h
      exact ih hm ⟨d, (List.mem_cons.1 hd).resolve_left hne.1, hne⟩
    · by_cases hspace : c = ' '
      · subst hspace
        rw [topCommas?_blank rfl] at h
        exact ih h ⟨d, (List.mem_cons.1 hd).resolve_left hne.2, hne⟩
      · rw [topCommas?, topFrom?_cons (by simp [isTopComma, hcomma])] at h
        obtain ⟨next, hnext, h⟩ := Option.bind_eq_some_iff.1 h
        obtain ⟨q, hq, rfl, hbegun⟩ := exists_step_between done hcomma hspace hnext
        obtain ⟨r, hr, hplace, hle⟩ := exists_scan h
        exact ⟨r, by rw [scan_cons hq, hr], hplace, by omega⟩

/-! ### Lists of opaque texts -/

/-- An opaque text begins one element, or more if a comma in it stands in braces only. -/
theorem exists_scan_of_isOpaque (h : IsOpaque t) (done : List Element) :
    ∃ q, t.foldlM step ⟨done, .between⟩ = some q ∧ q.scan.place = (.outside, 0) ∧
      done.length < q.begun ∧
      (¬ HoldsCommas [square, paren] t → done.length + 1 < q.begun) := by
  obtain ⟨n, hn, hzero⟩ := h.exists_topCommas?
  cases n with
  | zero =>
    cases t with
    | nil => exact absurd rfl h.ne_nil
    | cons c t =>
      obtain ⟨hcomma, hspace, -⟩ := h.beginsBare
      obtain ⟨q, hq, hplace, hlt⟩ :=
        exists_scan_between done hn ⟨c, List.mem_cons_self, hcomma, hspace⟩
      exact ⟨q, hq, hplace, hlt, fun hnot => absurd (hzero.1 rfl) hnot⟩
  | succ n =>
    -- cut at the first comma that the reader counts, both sides begin an element
    obtain ⟨u, v, rfl, hu, hv⟩ := exists_cut_of_topFrom? hn
    have hfirst : ∃ c ∈ u, c ≠ ',' ∧ c ≠ ' ' := by
      cases u with
      | nil => exact absurd rfl h.beginsBare.1
      | cons c u => exact ⟨c, List.mem_cons_self, h.beginsBare.1, h.beginsBare.2.1⟩
    obtain ⟨q, hq, hplace, hlt⟩ := exists_scan_between done hu hfirst
    obtain ⟨⟨found, scan⟩, hcomma, rfl, hbegun⟩ := exists_step_comma hplace
    obtain ⟨r, hr, hplace, hlater⟩ := exists_scan_between found hv (h.exists_closing hu hv)
    have hfound : found.length = q.begun := hbegun
    exact ⟨r, by rw [scan_append hq, scan_cons hcomma, hr], hplace, by omega, fun _ => by omega⟩

variable {texts : List String}

theorem exists_scan_intercalate : ∀ {texts : List String}, (∀ t ∈ texts, IsOpaque t.toList) →
    ∀ done, ∃ q, (",".intercalate texts).toList.foldlM step ⟨done, .between⟩ = some q ∧
      q.scan.place = (.outside, 0) ∧ done.length + texts.length ≤ q.begun ∧
      ((¬ ∀ t ∈ texts, HoldsCommas [square, paren] t.toList) →
        done.length + texts.length < q.begun)
  | [], _, done => ⟨⟨done, .between⟩, by simp, rfl, Nat.le_refl _, by simp⟩
  | [t], h, done => by
    obtain ⟨q, hq, hplace, hlt, hmore⟩ := exists_scan_of_isOpaque (h t List.mem_cons_self) done
    rw [String.intercalate_singleton]
    exact ⟨q, hq, hplace, hlt, by simpa using hmore⟩
  | t :: u :: rest, h, done => by
    obtain ⟨p, hp, hplace, hlt, hmore⟩ := exists_scan_of_isOpaque (h t List.mem_cons_self) done
    obtain ⟨⟨found, scan⟩, hcomma, rfl, hbegun⟩ := exists_step_comma hplace
    obtain ⟨q, hq, hplace, hle, hlater⟩ :=
      exists_scan_intercalate (fun s hs => h s (List.mem_cons_of_mem t hs)) found
    have hfound : found.length = p.begun := hbegun
    refine ⟨q, ?_, hplace, ?_, fun hnot => ?_⟩
    · rw [toList_intercalate, scan_append hp, scan_cons hcomma, hq]
    · rw [List.length_cons]
      omega
    · rw [List.forall_mem_cons, not_and_or] at hnot
      rw [List.length_cons]
      rcases hnot with hnot | hnot
      · have hlt := hmore hnot
        omega
      · have hlt := hlater hnot
        omega

/-- Opaque texts are elements as they stand if their commas stand in square or round brackets. -/
theorem listed_intercalate : ∀ {texts : List String},
    (∀ t ∈ texts, IsOpaque t.toList) → (∀ t ∈ texts, HoldsCommas [square, paren] t.toList) →
      ∃ n, Listed n (texts.map .bare) (",".intercalate texts).toList
  | [], _, _ => by
    rw [String.intercalate_nil]
    exact ⟨0, .nil⟩
  | [t], h, hheld => by
    have ht := h t List.mem_cons_self
    have hlisted := Listed.last (isBareText_of_isOpaque ht (hheld t List.mem_cons_self))
    rw [ht.trimmed, String.ofList_toList] at hlisted
    rw [String.intercalate_singleton]
    exact ⟨0, hlisted⟩
  | t :: u :: rest, h, hheld => by
    have ht := h t List.mem_cons_self
    obtain ⟨n, hn⟩ := listed_intercalate (fun s hs => h s (List.mem_cons_of_mem t hs))
      (fun s hs => hheld s (List.mem_cons_of_mem t hs))
    have hlisted := hn.bare (isBareText_of_isOpaque ht (hheld t List.mem_cons_self))
    rw [ht.trimmed, String.ofList_toList] at hlisted
    rw [toList_intercalate]
    exact ⟨n + 1, hlisted⟩

theorem readArray?_literal_eq (texts : List String) :
    readArray? ("[" ++ ",".intercalate texts ++ "]")
      = ofInside? (",".intercalate texts).toList := by
  rw [readArray?, toList_literal, inside?_bracketed, Option.bind_some]

/-- Opaque texts with commas between them are always read as a list, with at least one element for
each of them. -/
theorem exists_readArray?_of_isOpaque (h : ∀ t ∈ texts, IsOpaque t.toList) :
    ∃ elements, readArray? ("[" ++ ",".intercalate texts ++ "]") = some elements ∧
      texts.length ≤ elements.length ∧
      ((¬ ∀ t ∈ texts, HoldsCommas [square, paren] t.toList) →
        texts.length < elements.length) := by
  obtain ⟨q, hq, hplace, hle, hmore⟩ := exists_scan_intercalate h []
  obtain ⟨elements, hfinish, hlength⟩ := exists_finish_of_place hplace
  rw [List.length_nil, Nat.zero_add, ← hlength] at hle hmore
  refine ⟨elements, ?_, hle, hmore⟩
  rw [readArray?_literal_eq, ofInside?, start, hq]
  exact hfinish

theorem readArray?_of_holdsCommas (h : ∀ t ∈ texts, IsOpaque t.toList)
    (hheld : ∀ t ∈ texts, HoldsCommas [square, paren] t.toList) :
    readArray? ("[" ++ ",".intercalate texts ++ "]") = some (texts.map .bare) := by
  rw [readArray?_literal_eq, ofInside?_eq_some_iff]
  exact listed_intercalate h hheld

end ArrayLiteral

/-- The text of an element. -/
def Element.text : Element → String
  | .quoted text | .bare text => text

end Columnar.Tsv

namespace Columnar.ColumnType

open Tsv (Element IsOpaque HoldsCommas readArray?)
open Tsv.BracketKind

/-- A list of an opaque type has the texts of its elements. -/
theorem decode_array_other [Clocks] (name : String) (zone : Calendar.Zone) (text : String) :
    (array (other name)).decode zone text
      = (readElements text).map fun elements => .array (elements.map fun e => .text e.text) := by
  have helement : (fun e => (other name).decodeElement zone e)
      = fun e => (pure (Value.text e.text) : Result Value) := by
    funext e
    cases e <;> rfl
  rw [decode, helement]
  cases readElements text with
  | error e => rfl
  | ok elements =>
    simp only [ok_bind, List.mapM_pure]
    rfl

/-- Opaque texts with commas between them are always read as a list, and a list of an opaque type
has the texts of its elements. There is at least one element for each text. There is exactly one,
and then it is the text as it stands, if and only if each comma in the texts stands in square or
round brackets; otherwise there are more. As for all literals, the open brackets are counted without
a limit, where `2 ^ 32` of them take a text of at least 4 GiB (`opened_le_of_length_le`). -/
theorem decode_opaque [Clocks] (texts : List String) (h : ∀ t ∈ texts, IsOpaque t.toList) :
    ∃ elements, readArray? ("[" ++ ",".intercalate texts ++ "]") = some elements ∧
      (∀ name zone, (array (other name)).decode zone ("[" ++ ",".intercalate texts ++ "]")
        = .ok (.array (elements.map fun e => .text e.text))) ∧
      texts.length ≤ elements.length ∧
      (elements.length = texts.length ↔
        ∀ t ∈ texts, HoldsCommas [square, paren] t.toList) ∧
      (elements = texts.map .bare ↔ ∀ t ∈ texts, HoldsCommas [square, paren] t.toList) := by
  obtain ⟨elements, hread, hle, hmore⟩ := Tsv.ArrayLiteral.exists_readArray?_of_isOpaque h
  have hwhole : (∀ t ∈ texts, HoldsCommas [square, paren] t.toList) →
      elements = texts.map .bare := fun hheld =>
    Option.some.inj (hread.symm.trans (Tsv.ArrayLiteral.readArray?_of_holdsCommas h hheld))
  have hheld : elements.length = texts.length →
      ∀ t ∈ texts, HoldsCommas [square, paren] t.toList := by
    intro hlength
    by_contra hnot
    exact absurd hlength (hmore hnot).ne'
  have hlength : elements = texts.map .bare → elements.length = texts.length := by
    rintro rfl
    exact List.length_map _
  refine ⟨elements, hread, fun name zone => ?_, hle, ⟨hheld, fun h => hlength (hwhole h)⟩,
    fun h => hheld (hlength h), hwhole⟩
  rw [decode_array_other, readElements, hread]
  rfl

theorem decode_opaque_tuples :
    (∀ t ∈ ["(1,'a)b')", "(\x7b'a':1,'b':2\x7d,[(3,4)])"], IsOpaque t.toList) ∧
    readArray? "[(1,'a)b'),(\x7b'a':1,'b':2\x7d,[(3,4)])]"
      = some [.bare "(1,'a)b')", .bare "(\x7b'a':1,'b':2\x7d,[(3,4)])"] ∧
    (array (other "Tuple")).decode .utc "[(1,'a)b'),(\x7b'a':1,'b':2\x7d,[(3,4)])]"
      = .ok (.array [.text "(1,'a)b')", .text "(\x7b'a':1,'b':2\x7d,[(3,4)])"]) := by
  have h : ∀ t ∈ ["(1,'a)b')", "(\x7b'a':1,'b':2\x7d,[(3,4)])"], IsOpaque t.toList := by decide
  have hheld : ∀ t ∈ ["(1,'a)b')", "(\x7b'a':1,'b':2\x7d,[(3,4)])"],
      HoldsCommas [square, paren] t.toList := by decide
  obtain ⟨elements, hread, hdecode, -, -, hwhole⟩ := decode_opaque _ h
  obtain rfl := hwhole.2 hheld
  exact ⟨h, hread, hdecode "Tuple" .utc⟩

/-- The map `{'a':1,'b':2}` is cut at its comma, and its second key becomes an element. -/
theorem map_cut_at_comma :
    IsOpaque "\x7b'a':1,'b':2\x7d".toList ∧
    readArray? "[\x7b'a':1,'b':2\x7d]" = some [.bare "\x7b'a':1", .quoted "b", .bare ":2\x7d"] ∧
    ¬ ∀ texts : List String, (∀ t ∈ texts, IsOpaque t.toList) →
      readArray? ("[" ++ ",".intercalate texts ++ "]") = some (texts.map .bare) := by
  have hmap : IsOpaque "\x7b'a':1,'b':2\x7d".toList := by decide
  have hread : readArray? "[\x7b'a':1,'b':2\x7d]"
      = some [.bare "\x7b'a':1", .quoted "b", .bare ":2\x7d"] := rfl
  refine ⟨hmap, hread, fun h => ?_⟩
  have hwhole := h ["\x7b'a':1,'b':2\x7d"] (by simpa using hmap)
  exact absurd (hread.symm.trans hwhole) (by decide)

end Columnar.ColumnType
