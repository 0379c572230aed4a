import Columnar.Proofs.Tsv.Line
import Mathlib.Algebra.Ring.Parity
import Mathlib.Data.List.DropRight

/-!
Escaping and unescaping as a codec of texts.

Unescaping takes one character or one pair at a time from the front, so a text that can be read is
read alike in front of any other (`unescapeChars?_append`). It fails only at the end of a text,
where a run of backslashes is taken pair by pair: exactly if their number is odd
(`unescapeChars?_eq_none_iff`). A quote in an escaped text is the second character of a pair, with
the escaped text of what stood before it in front of that pair (`escapeChars_eq_append_quote`).
-/

namespace Columnar.Tsv

/-! ### Texts one behind the other -/

/-- A text that can be read is read alike in front of any other. -/
theorem unescapeChars?_append {s x : List Char} (h : unescapeChars? s = some x) (t : List Char) :
    unescapeChars? (s ++ t) = (unescapeChars? t).map (x ++ ·) := by
  fun_induction unescapeChars? s generalizing x with
  | case1 =>
    obtain rfl := Option.some.inj h
    simp
  | case2 => exact absurd h (by simp)
  | case3 mark rest ih =>
    obtain ⟨y, hy, rfl⟩ := Option.map_eq_some_iff.1 h
    rw [List.cons_append, List.cons_append, unescapeChars?, ih hy, Option.map_map]
    rfl
  | case4 c rest hlone hpair ih =>
    have hc : c ≠ '\\' := by
      rintro rfl
      cases rest with
      | nil => exact hlone rfl rfl
      | cons mark rest => exact hpair mark rest rfl rfl
    obtain ⟨y, hy, rfl⟩ := Option.map_eq_some_iff.1 h
    rw [List.cons_append, unescapeChars?_cons hc, ih hy, Option.map_map]
    rfl

/-! ### Backslashes at the end -/

/-- A text that does not end in a backslash can be read. -/
theorem exists_unescapeChars? {s : List Char} (h : s.getLast? ≠ some '\\') :
    ∃ x, unescapeChars? s = some x := by
  fun_induction unescapeChars? s with
  | case1 => exact ⟨[], rfl⟩
  | case2 => exact absurd rfl h
  | case3 mark rest ih =>
    cases rest with
    | nil => exact ⟨[markedChar mark], rfl⟩
    | cons c rest =>
      rw [List.getLast?_cons_cons, List.getLast?_cons_cons] at h
      obtain ⟨x, hx⟩ := ih h
      exact ⟨markedChar mark :: x, by rw [hx]; rfl⟩
  | case4 c rest _ _ ih =>
    cases rest with
    | nil => exact ⟨[c], rfl⟩
    | cons d rest =>
      rw [List.getLast?_cons_cons] at h
      obtain ⟨x, hx⟩ := ih h
      exact ⟨c :: x, by rw [hx]; rfl⟩

/-- Backslashes alone are read pair by pair. -/
theorem unescapeChars?_replicate : ∀ n : Nat,
    unescapeChars? (List.replicate n '\\') = none ↔ Odd n
  | 0 => by simp [unescapeChars?]
  | 1 => by simp [unescapeChars?]
  | n + 2 => by
    rw [List.replicate_succ, List.replicate_succ, unescapeChars?, Option.map_eq_none_iff,
      unescapeChars?_replicate n, Nat.odd_add]
    simp

/-- Exactly a text with an odd number of backslashes at its end cannot be read. -/
theorem unescapeChars?_eq_none_iff (s : List Char) :
    unescapeChars? s = none ↔ Odd (s.rtakeWhile (· = '\\')).length := by
  have hrun : s.rtakeWhile (· = '\\')
      = List.replicate (s.rtakeWhile (· = '\\')).length '\\' := by
    refine List.eq_replicate_of_mem fun c hc => ?_
    simpa using List.mem_rtakeWhile_imp hc
  -- In front of the run the text is read, since no backslash stands there.
  have hlast : (s.rdropWhile (· = '\\')).getLast? ≠ some '\\' := by
    intro h
    have hne : s.rdropWhile (· = '\\') ≠ [] := by
      intro hnil
      simp [hnil] at h
    refine List.rdropWhile_last_not _ _ hne ?_
    rw [List.getLast?_eq_some_getLast hne] at h
    simpa using h
  obtain ⟨x, hx⟩ := exists_unescapeChars? hlast
  have hread := unescapeChars?_append hx (s.rtakeWhile (· = '\\'))
  rw [List.rdropWhile_append_rtakeWhile] at hread
  rw [hread, Option.map_eq_none_iff, ← unescapeChars?_replicate, ← hrun]

/-! ### Quotes -/

/-- A quote in an escaped text is the second character of the pair for a quote. -/
theorem escapeChars_eq_append_quote : ∀ {s front rest : List Char},
    escapeChars s = front ++ '\'' :: rest →
      ∃ s₁ s₂, s = s₁ ++ '\'' :: s₂ ∧ front = escapeChars s₁ ++ ['\\'] ∧ rest = escapeChars s₂
  | [], front, rest, h => absurd h (by simp)
  | c :: s, front, rest, h => by
    rw [escapeChars_cons] at h
    -- Further on, the quote stands in the escaped form of the characters behind the first.
    have hbehind : ∀ {front' : List Char}, front = escapeChar c ++ front' →
        escapeChars s = front' ++ '\'' :: rest →
          ∃ s₁ s₂, c :: s = s₁ ++ '\'' :: s₂ ∧ front = escapeChars s₁ ++ ['\\'] ∧
            rest = escapeChars s₂ := by
      rintro front' rfl hs
      obtain ⟨s₁, s₂, rfl, rfl, rfl⟩ := escapeChars_eq_append_quote hs
      exact ⟨c :: s₁, s₂, rfl, by rw [escapeChars_cons, List.append_assoc], rfl⟩
    rcases escapeChar_cases c with ⟨hc, hw⟩ | ⟨mark, hm, hw⟩ <;> rw [hw] at h hbehind
    · cases front with
      | nil => exact absurd (List.cons.inj h).1 (ne_quote_of_escapeMark? hc)
      | cons d front =>
        obtain ⟨rfl, hs⟩ := List.cons.inj h
        exact hbehind rfl hs
    · rcases front with _ | ⟨d, _ | ⟨e, front⟩⟩
      · exact absurd (List.cons.inj h).1 (by decide)
      · obtain rfl := (List.cons.inj h).1
        obtain ⟨rfl, rfl⟩ := List.cons.inj (List.cons.inj h).2
        obtain rfl : c = '\'' := (markedChar_of_escapeMark? hm).symm
        exact ⟨[], s, rfl, rfl, rfl⟩
      · obtain rfl := (List.cons.inj h).1
        obtain ⟨rfl, hs⟩ := List.cons.inj (List.cons.inj h).2
        exact hbehind rfl hs

/-! ### The codec -/

/-- A line of escaped texts is read as the texts, with a newline at its end too. -/
theorem readLine_intercalate_escape_newline {texts : List String} (hne : texts ≠ []) :
    readLine ("\t".intercalate (texts.map escape) ++ "\n") = .ok texts := by
  rw [readLine, splitLine_intercalate_newline, unescapeAll_map_escape]
  · simpa using hne
  · simp only [List.forall_mem_map, toList_escape]
    exact fun s _ => tab_not_mem_escapeChars s.toList

/-- What escaping writes is read back, in fields and in lines, and cannot be mistaken for the end of
a field, of a line or of a literal, or for a missing value. What is read at all is every text whose
backslashes at the end are even in number, and it is read part by part. -/
theorem escape_codec :
    (∀ s : String, unescape? (escape s) = some s ∧
      (∀ c ∈ (escape s).toList, c ∉ ['\x08', '\x0c', '\r', '\n', '\t', '\x00']) ∧
      escape s ≠ nullField ∧
      ∀ front rest, (escape s).toList = front ++ '\'' :: rest →
        ∃ s₁ s₂, s.toList = s₁ ++ '\'' :: s₂ ∧
          front = escapeChars s₁ ++ ['\\'] ∧ rest = escapeChars s₂) ∧
    (∀ texts : List String, texts ≠ [] →
      readLine ("\t".intercalate (texts.map escape)) = .ok texts ∧
      readLine ("\t".intercalate (texts.map escape) ++ "\n") = .ok texts) ∧
    (∀ t : String, unescape? t = none ↔ Odd (t.toList.rtakeWhile (· = '\\')).length) ∧
    ∀ a b x : String, unescape? a = some x →
      unescape? (a ++ b) = (unescape? b).map (x ++ ·) := by
  refine ⟨fun s => ⟨unescape?_escape s, fun c hc => ?_, escape_ne_nullField s, ?_⟩,
    fun texts hne => ⟨readLine_intercalate_escape hne, readLine_intercalate_escape_newline hne⟩,
    fun t => ?_, fun a b x hx => ?_⟩
  · rw [toList_escape] at hc
    simpa [isControl, and_assoc] using isControl_of_mem_escapeChars hc
  · intro front rest h
    rw [toList_escape] at h
    exact escapeChars_eq_append_quote h
  · rw [unescape?, Option.map_eq_none_iff, unescapeChars?_eq_none_iff]
  · obtain ⟨y, hy, rfl⟩ := Option.map_eq_some_iff.1 hx
    rw [unescape?, String.toList_append, unescapeChars?_append hy, unescape?, Option.map_map,
      Option.map_map]
    exact congrArg (Option.map · _) (funext fun z => String.ofList_append)

theorem escape_codec_pairs :
    (["it's", "a\tb\\"] ≠ [] ∧
      readLine ("\t".intercalate (["it's", "a\tb\\"].map escape) ++ "\n")
        = .ok ["it's", "a\tb\\"]) ∧
    ((escape "it's").toList = ['i', 't', '\\'] ++ '\'' :: ['s'] ∧
      ∃ s₁ s₂, "it's".toList = s₁ ++ '\'' :: s₂ ∧
        ['i', 't', '\\'] = escapeChars s₁ ++ ['\\'] ∧ ['s'] = escapeChars s₂) ∧
    unescape? "\\n" = some "\n" ∧ unescape? ("\\n" ++ "\\\\\\") = none := by
  obtain ⟨hescape, hline, hfails, happend⟩ := escape_codec
  have hne : ["it's", "a\tb\\"] ≠ [] := by simp
  have hquote : (escape "it's").toList = ['i', 't', '\\'] ++ '\'' :: ['s'] := by
    rw [toList_escape]
    rfl
  have hread : unescape? "\\n" = some "\n" := rfl
  have hodd : unescape? "\\\\\\" = none := (hfails _).2 (by decide)
  refine ⟨⟨hne, (hline _ hne).2⟩, ⟨hquote, (hescape _).2.2.2 _ _ hquote⟩, hread, ?_⟩
  rw [happend _ _ _ hread, hodd, Option.map_none]

end Columnar.Tsv
