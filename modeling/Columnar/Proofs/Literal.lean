import Columnar.ColumnType.Parser
import Columnar.Proofs.Placeholder
import Columnar.Proofs.Tsv.Escape
import Columnar.Proofs.Value.Elements

/-!
Quoted literals in statements whose placeholders are filled.

A quoted literal is filled like the rest of its statement. It is read back as its text exactly if no
placeholder occurs in the text (`readFilled?_eq_some_iff`), whatever the names of the database and
the table are: a placeholder gives way to a backquote, and of two dollar signs only one is left.
-/

namespace Columnar.Placeholder

open ColumnType (readQuoted?)
open Tsv (escapeChar escapeChars escapeMark?)

variable {database : String} {schema : Schema} {suffix : List Char}

/-! ### Reading literals -/

theorem readQuoted?_cons {c : Char} (hb : c ≠ '\\') (hq : c ≠ '\'') (rest : List Char) :
    readQuoted? (c :: rest) = (readQuoted? rest).map fun p => (c :: p.1, p.2) := by
  rw [readQuoted?]
  · exact hq
  · rintro rfl; exact absurd rfl hb
  · rintro mark rest rfl; exact absurd rfl hb

theorem readQuoted?_escapeChar (c : Char) (rest : List Char) :
    readQuoted? (escapeChar c ++ rest) = (readQuoted? rest).map fun p => (c :: p.1, p.2) := by
  rcases Tsv.escapeChar_cases c with ⟨hc, hw⟩ | ⟨mark, hm, hw⟩ <;> rw [hw]
  · exact readQuoted?_cons (Tsv.ne_backslash_of_escapeMark? hc) (Tsv.ne_quote_of_escapeMark? hc)
      rest
  · rw [List.cons_append, List.cons_append, List.nil_append, readQuoted?,
      Tsv.markedChar_of_escapeMark? hm]

/-- A literal is read as its text, whatever follows the closing quote. -/
theorem readQuoted?_escapeChars : ∀ s rest : List Char,
    readQuoted? (escapeChars s ++ '\'' :: rest) = some (s, rest)
  | [], rest => rfl
  | c :: s, rest => by
    rw [Tsv.escapeChars_cons, List.append_assoc, readQuoted?_escapeChar, readQuoted?_escapeChars s]
    rfl

/-! ### Placeholders in escaped texts -/

/-- Characters of placeholders are written as themselves. -/
def isPlain (c : Char) : Bool :=
  (escapeMark? c).isNone

theorem isPlain_of_isNameChar {c : Char} (h : isNameChar c = true) : isPlain c = true := by
  cases hc : escapeMark? c with
  | none => rw [isPlain, hc]; rfl
  | some mark =>
    unfold escapeMark? at hc
    split at hc <;> first | exact absurd h (by decide) | exact absurd hc (by simp)

/-- An escaped text begins with plain characters where the text does. -/
theorem prefix_escapeChars_iff : ∀ {w s : List Char}, (∀ c ∈ w, isPlain c = true) →
    (w <+: escapeChars s ++ '\'' :: suffix ↔ w <+: s)
  | [], s, _ => by simp
  | c :: w, [], h => by
    have hc := h c List.mem_cons_self
    rw [List.prefix_nil, Tsv.escapeChars_nil, List.nil_append, List.cons_prefix_cons]
    constructor
    · rintro ⟨rfl, -⟩
      exact absurd hc (by decide)
    · exact fun h => absurd h (by simp)
  | c :: w, d :: s, h => by
    have hc := h c List.mem_cons_self
    have ih := prefix_escapeChars_iff (s := s) fun x hx => h x (List.mem_cons_of_mem c hx)
    rw [Tsv.escapeChars_cons, List.append_assoc, List.cons_prefix_cons]
    rcases Tsv.escapeChar_cases d with ⟨hd, hw⟩ | ⟨mark, hm, hw⟩ <;> rw [hw]
    · rw [List.singleton_append, List.cons_prefix_cons, ih]
    · rw [List.cons_append, List.cons_prefix_cons]
      constructor
      · rintro ⟨rfl, -⟩
        exact absurd hc (by decide)
      · rintro ⟨rfl, -⟩
        rw [isPlain, hm] at hc
        exact absurd hc (by simp)

theorem takeWhile_escapeChars : ∀ s : List Char,
    (escapeChars s ++ '\'' :: suffix).takeWhile isNameChar = s.takeWhile isNameChar
  | [] => rfl
  | c :: s => by
    rw [Tsv.escapeChars_cons, List.append_assoc, List.takeWhile_cons]
    cases hc : isNameChar c with
    | true =>
      have hw : escapeChar c = [c] := by
        have hplain := isPlain_of_isNameChar hc
        rw [isPlain, Option.isNone_iff_eq_none] at hplain
        rw [escapeChar, hplain]
      rw [hw, List.singleton_append, List.takeWhile_cons, hc, if_pos rfl, if_pos rfl,
        takeWhile_escapeChars s]
    | false =>
      rw [if_neg Bool.false_ne_true]
      rcases Tsv.escapeChar_cases c with ⟨hd, hw⟩ | ⟨mark, hm, hw⟩ <;> rw [hw]
      · rw [List.singleton_append, List.takeWhile_cons, hc, if_neg Bool.false_ne_true]
      · rfl

/-- Behind a dollar sign of an escaped text a placeholder begins where it does in the text. -/
theorem begins_escapeChars (s : List Char) :
    begins (escapeChars s ++ '\'' :: suffix) = begins s := by
  have hdollar : (['$'] <+: escapeChars s ++ '\'' :: suffix) ↔ ['$'] <+: s :=
    prefix_escapeChars_iff (List.all_eq_true.1 rfl)
  have hname : ∀ n ∈ names, beginsWith (escapeChars s ++ '\'' :: suffix) n = beginsWith s n := by
    intro n hn
    have hplain : ∀ c ∈ '{' :: (n ++ ['}']), isPlain c = true := by
      simp only [names, List.mem_cons, List.not_mem_nil, or_false] at hn
      rcases hn with rfl | rfl <;> exact List.all_eq_true.1 rfl
    have hbraces : '{' :: (n ++ ['}']) <+: escapeChars s ++ '\'' :: suffix ↔ _ :=
      prefix_escapeChars_iff hplain
    rw [beginsWith, beginsWith, takeWhile_escapeChars, Bool.eq_iff_iff]
    simp only [Bool.or_eq_true, List.isPrefixOf_iff_prefix, hbraces]
  rw [begins, begins, Bool.eq_iff_iff]
  simp only [Bool.or_eq_true, List.isPrefixOf_iff_prefix, hdollar, List.any_eq_true]
  exact or_congr_right (exists_congr fun n => and_congr_right fun hn => by rw [hname n hn])

theorem ne_dollar_of_escapeMark? {c mark : Char} (h : escapeMark? c = some mark) : mark ≠ '$' := by
  unfold escapeMark? at h
  split at h <;> cases h <;> decide

theorem occurs_append_escapeChar {c : Char} (hc : c ≠ '$') (rest : List Char) :
    occurs (escapeChar c ++ rest) = occurs rest := by
  rcases Tsv.escapeChar_cases c with ⟨hd, hw⟩ | ⟨mark, hm, hw⟩ <;> rw [hw]
  · simp [occurs, hc]
  · simp [occurs, ne_dollar_of_escapeMark? hm]

/-- In front of a quote, a placeholder occurs in an escaped text exactly if it does in the text. -/
theorem occurs_escapeChars (suffix : List Char) : ∀ s : List Char,
    occurs (escapeChars s ++ '\'' :: suffix) = (occurs s || occurs suffix)
  | [] => by simp [occurs]
  | c :: s => by
    rw [Tsv.escapeChars_cons, List.append_assoc, occurs]
    by_cases hc : c = '$'
    · subst hc
      have hw : escapeChar '$' = ['$'] := rfl
      rw [hw, List.singleton_append, occurs, begins_escapeChars, occurs_escapeChars suffix s,
        Bool.or_assoc]
    · rw [occurs_append_escapeChar hc, occurs_escapeChars suffix s]
      simp [hc]

theorem closed_quote (s : String) : Closed (Tsv.quote s).toList (occurs s.toList) := by
  intro rest
  rw [Tsv.toList_quote, List.cons_append, List.append_assoc, List.singleton_append, occurs,
    occurs_escapeChars]
  simp

/-! ### Placeholders in literals of values -/

theorem closed_of_isBareChar {s : String} (h : ∀ c ∈ s.toList, Value.isBareChar c = true) :
    Closed s.toList false :=
  closed_of_not_mem fun hmem => absurd (h '$' hmem) (by decide)

/-- A placeholder in the literal of a value occurs in a text that stands there in quotes. -/
theorem closed_literal (v : Value) :
    Closed v.literal.toList (v.quotedTexts.any fun s => occurs s.toList) := by
  induction v using Value.induction with
  | scalar v hv =>
    rcases Value.quoted_or_bare hv with ⟨s, hliteral, htexts, -⟩ | ⟨hbare, htexts, -⟩
    · rw [hliteral, htexts, List.any_cons, List.any_nil, Bool.or_false]
      exact closed_quote s
    · rw [htexts, List.any_nil]
      exact closed_of_isBareChar hbare.chars
  | array items ih =>
    rw [Value.literal, Value.literals_eq_map, Value.quotedTexts, Value.allQuotedTexts_eq_flatMap,
      List.any_flatMap]
    exact (closed_intercalate (by decide) ih).between (by decide) (by decide)

/-! ### Literals in filled statements -/

/-- The text that a server reads from the literal of a text in a filled statement. -/
def readFilled? (database : String) (schema : Schema) (s suffix : List Char) : Option (List Char) :=
  (readQuoted? (fillChars database (some schema) (escapeChars s ++ '\'' :: suffix))).map Prod.fst

theorem readFilled?_nil : readFilled? database schema [] suffix = some [] := by
  rw [readFilled?, Tsv.escapeChars_nil, List.nil_append, fillChars_cons (by decide), readQuoted?]
  rfl

theorem readFilled?_cons {c : Char} (hc : c ≠ '$') (s : List Char) :
    readFilled? database schema (c :: s) suffix
      = (readFilled? database schema s suffix).map (c :: ·) := by
  have hw : '$' ∉ escapeChar c := by
    rcases Tsv.escapeChar_cases c with ⟨hd, hw⟩ | ⟨mark, hm, hw⟩ <;> rw [hw]
    · simpa using hc.symm
    · simp [(ne_dollar_of_escapeMark? hm).symm]
  rw [readFilled?, Tsv.escapeChars_cons, List.append_assoc, fillChars_append hw,
    readQuoted?_escapeChar, Option.map_map, readFilled?, Option.map_map]
  rfl

theorem readQuoted?_dollar (rest : List Char) :
    (readQuoted? ('$' :: rest)).map Prod.fst
      = ((readQuoted? rest).map Prod.fst).map ('$' :: ·) := by
  rw [readQuoted?_cons (by decide) (by decide), Option.map_map, Option.map_map]
  rfl

theorem escapeChars_dollar (s : List Char) :
    escapeChars ('$' :: s) ++ '\'' :: suffix = '$' :: (escapeChars s ++ '\'' :: suffix) := rfl

/-- Of two dollar signs one is left. -/
theorem readFilled?_dollar_dollar (s : List Char) :
    readFilled? database schema ('$' :: '$' :: s) suffix
      = (readFilled? database schema s suffix).map ('$' :: ·) := by
  rw [readFilled?, escapeChars_dollar, escapeChars_dollar, fillChars_dollar_dollar,
    readQuoted?_dollar, readFilled?]

theorem head?_escapeChars_ne {s : List Char} (h : s.head? ≠ some '$') :
    (escapeChars s ++ '\'' :: suffix).head? ≠ some '$' := by
  intro hhead
  have hpre : ['$'] <+: escapeChars s ++ '\'' :: suffix := by
    cases hall : escapeChars s ++ '\'' :: suffix with
    | nil => rw [hall] at hhead; exact absurd hhead (by simp)
    | cons c rest =>
      rw [hall] at hhead
      obtain rfl : c = '$' := by simpa using hhead
      exact ⟨rest, rfl⟩
  rw [prefix_escapeChars_iff (List.all_eq_true.1 rfl)] at hpre
  obtain ⟨tail, rfl⟩ := hpre
  exact h rfl

/-- A single dollar sign that begins no placeholder is left alone. -/
theorem readFilled?_dollar {s : List Char} (hdollar : s.head? ≠ some '$')
    (h : begins s = false) :
    readFilled? database schema ('$' :: s) suffix
      = (readFilled? database schema s suffix).map ('$' :: ·) := by
  rw [readFilled?, escapeChars_dollar, fillChars_dollar (head?_escapeChars_ne hdollar),
    expand?_eq_none (by rwa [begins_escapeChars])]
  simp only
  rw [readQuoted?_dollar, readFilled?]

/-- Where a name is put in, the text goes on with a backquote. -/
theorem head?_readFilled?_of_begins {s read : List Char} (hdollar : s.head? ≠ some '$')
    (h : begins s = true) (hread : readFilled? database schema ('$' :: s) suffix = some read) :
    read.head? = some '\x60' := by
  have hbegins : begins (escapeChars s ++ '\'' :: suffix) = true := by rwa [begins_escapeChars]
  obtain ⟨text, length, hexpand⟩ : ∃ text length, expand? database (some schema) _
      = some ('\x60' :: text, length) := exists_expand? hbegins (head?_escapeChars_ne hdollar)
  rw [readFilled?, escapeChars_dollar, fillChars_dollar (head?_escapeChars_ne hdollar),
    hexpand] at hread
  simp only [List.cons_append] at hread
  rw [readQuoted?_cons (by decide) (by decide), Option.map_map] at hread
  obtain ⟨p, -, rfl⟩ := Option.map_eq_some_iff.1 hread
  rfl

/-- No literal is read with more dollar signs in front than its text has. -/
theorem readFilled?_ne_replicate (s : List Char) : ∀ k : Nat,
    readFilled? database schema s suffix ≠ some (List.replicate (k + 1) '$' ++ s) := by
  -- For all `k` at once: every doubled sign that is read as one leaves one more to be made up for.
  induction s using fill_induction with
  | nil => simp [readFilled?_nil, List.replicate_succ]
  | plain c s hc ih =>
    intro k h
    rw [readFilled?_cons hc] at h
    obtain ⟨read, hread, heq⟩ := Option.map_eq_some_iff.1 h
    exact hc (List.cons.inj heq).1
  | doubled s ih =>
    intro k h
    rw [readFilled?_dollar_dollar] at h
    obtain ⟨read, hread, heq⟩ := Option.map_eq_some_iff.1 h
    refine ih (k + 1) (hread.trans ?_)
    rw [(List.cons.inj heq).2]
    simp [List.replicate_succ']
  | name s hdollar hb =>
    intro k h
    exact absurd (head?_readFilled?_of_begins hdollar hb h) (by simp [List.replicate_succ])
  | single s hdollar hb ih =>
    intro k h
    rw [readFilled?_dollar hdollar hb] at h
    obtain ⟨read, hread, heq⟩ := Option.map_eq_some_iff.1 h
    refine ih k (hread.trans ?_)
    rw [(List.cons.inj heq).2]
    simp [List.replicate_succ']

/-- A literal in a filled statement is read as its text exactly if no placeholder occurs in it. -/
theorem readFilled?_eq_some_iff (s : List Char) :
    readFilled? database schema s suffix = some s ↔ occurs s = false := by
  have hcons : ∀ (c : Char) (s : List Char) (read : Option (List Char)),
      read.map (c :: ·) = some (c :: s) ↔ read = some s := by
    rintro c s (_ | read) <;> simp
  induction s using fill_induction with
  | nil => simp [readFilled?_nil, occurs]
  | plain c s hc ih =>
    rw [readFilled?_cons hc, hcons]
    exact ih.trans (by simp [occurs, hc])
  | doubled s ih =>
    rw [readFilled?_dollar_dollar, hcons]
    have hne : readFilled? database schema s suffix ≠ some ('$' :: s) :=
      readFilled?_ne_replicate s 0
    exact iff_of_false hne (by simp [occurs, begins])
  | name s hdollar hb =>
    refine iff_of_false (fun h => ?_) (by simp [occurs, hb])
    exact absurd (head?_readFilled?_of_begins hdollar hb h) (by simp)
  | single s hdollar hb ih =>
    rw [readFilled?_dollar hdollar hb, hcons]
    exact ih.trans (by simp [occurs, hb])

end Columnar.Placeholder
