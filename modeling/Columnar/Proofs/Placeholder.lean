import Columnar.ColumnType.Parser
import Columnar.Placeholder
import Columnar.Proofs.Tsv.Escape
import Mathlib.Data.List.TakeWhile

/-!
Placeholders in statements with a text of the caller.

A text without dollar signs is left alone, and what is behind it is filled on its own. Where there
is a table, a text is left alone exactly if no placeholder occurs in it (`fillChars_eq_self_iff`). A
blank, a quote, or any other character that no placeholder has in it is a stop: what is in front of
it and what is behind it are filled on their own (`fillChars_append_stop`). What is put in for a
placeholder begins with a backquote (`head?_of_expand?`).
-/

namespace Columnar.Placeholder

variable {database : String} {schema : Option Schema}

/-! ### Filling -/

theorem fillChars_nil : fillChars database schema [] = [] := by
  rw [fillChars]

theorem fillChars_cons {c : Char} (h : c ≠ '$') (rest : List Char) :
    fillChars database schema (c :: rest) = c :: fillChars database schema rest := by
  rw [fillChars]
  · rintro tail rfl
    exact absurd rfl h
  · exact h

theorem fillChars_dollar_dollar (rest : List Char) :
    fillChars database schema ('$' :: '$' :: rest) = '$' :: fillChars database schema rest := by
  rw [fillChars]

theorem fillChars_dollar {rest : List Char} (h : rest.head? ≠ some '$') :
    fillChars database schema ('$' :: rest) =
      match expand? database schema rest with
      | some (text, length) => text ++ fillChars database schema (rest.drop length)
      | none => '$' :: fillChars database schema rest := by
  have hne : ∀ tail, rest = '$' :: tail → False := by
    rintro tail rfl
    exact h rfl
  exact fillChars.eq_3 database schema rest hne

/-- A text without dollar signs is left alone. -/
theorem fillChars_append : ∀ {s : List Char}, '$' ∉ s → ∀ rest,
    fillChars database schema (s ++ rest) = s ++ fillChars database schema rest
  | [], _, _ => rfl
  | c :: s, h, rest => by
    rw [List.mem_cons, not_or] at h
    rw [List.cons_append, fillChars_cons (Ne.symm h.1), fillChars_append h.2, List.cons_append]

theorem fillChars_eq_self {s : List Char} (h : '$' ∉ s) : fillChars database schema s = s := by
  rw [← List.append_nil s, fillChars_append h, fillChars_nil]

/-! ### Texts that begin a placeholder -/

/-- The names of the placeholders. -/
def names : List (List Char) := [['d', 'b'], ['t', 'a', 'b', 'l', 'e']]

/-- Whether a text begins with the name in braces, or has it as its first word. -/
def beginsWith (rest name : List Char) : Bool :=
  ('{' :: (name ++ ['}'])).isPrefixOf rest || rest.takeWhile isNameChar = name

/-- Whether what follows a dollar sign makes it stand for something else than itself. -/
def begins (rest : List Char) : Bool :=
  ['$'].isPrefixOf rest || names.any (beginsWith rest)

/-- Whether a text has a dollar sign that stands for something else than itself. -/
def occurs : List Char → Bool
  | [] => false
  | c :: rest => (c = '$' && begins rest) || occurs rest

/-- A name in braces is one that a closing brace stands behind. -/
theorem takeWhile_brace_eq_iff : ∀ {n rest : List Char}, '}' ∉ n →
    (rest.takeWhile (· != '}') = n ∧ n.length ≠ rest.length ↔ n ++ ['}'] <+: rest)
  | n, [], _ => by
    rw [List.takeWhile_nil, List.prefix_nil]
    simp
  | [], c :: rest, _ => by
    rw [List.nil_append, List.cons_prefix_cons, List.takeWhile_cons]
    by_cases hc : c = '}'
    · simp [hc]
    · simp [hc, Ne.symm hc]
  | d :: n, c :: rest, hn => by
    rw [List.mem_cons, not_or] at hn
    rw [List.cons_append, List.cons_prefix_cons, ← takeWhile_brace_eq_iff hn.2, List.takeWhile_cons]
    by_cases hc : c = '}'
    · subst hc
      simp [Ne.symm hn.1]
    · have hgo : (c != '}') = true := bne_iff_ne.2 hc
      rw [if_pos hgo, List.cons.injEq, List.length_cons, List.length_cons, Nat.succ_ne_succ_iff,
        eq_comm (a := c), and_assoc]

/-- A name in braces is found up to the first closing brace, if there is one. -/
theorem name?_brace_eq_some_iff {n rest : List Char} {length : Nat} :
    name? ('{' :: rest) = some (n, length) ↔
      rest.takeWhile (· != '}') = n ∧ n ≠ [] ∧ n.length ≠ rest.length ∧ length = n.length + 2 := by
  simp only [name?, Bool.or_eq_true, List.isEmpty_iff, decide_eq_true_eq]
  constructor
  · intro h
    split at h
    · exact absurd h (by simp)
    · next hname =>
      rw [not_or] at hname
      obtain ⟨rfl, rfl⟩ := Prod.mk.inj (Option.some.inj h)
      exact ⟨rfl, hname.1, hname.2, rfl⟩
  · rintro ⟨rfl, hne, hlength, rfl⟩
    exact if_neg (not_or.2 ⟨hne, hlength⟩)

/-- A bare name is found up to the first character that does not go on with it. -/
theorem name?_word_eq_some_iff {c : Char} (hc : c ≠ '{') {n rest : List Char} {length : Nat} :
    name? (c :: rest) = some (n, length) ↔
      isNameStart c = true ∧ c :: rest.takeWhile isNameChar = n ∧ length = n.length := by
  have hname : name? (c :: rest) = if isNameStart c then
      some (c :: rest.takeWhile isNameChar, (c :: rest.takeWhile isNameChar).length)
    else none := by
    rw [name?]
    exact hc
  rw [hname]
  constructor
  · intro h
    split at h
    · next hstart =>
      obtain ⟨rfl, rfl⟩ := Prod.mk.inj (Option.some.inj h)
      exact ⟨hstart, rfl, rfl⟩
    · exact absurd h (by simp)
  · rintro ⟨hstart, rfl, rfl⟩
    exact if_pos hstart

/-- The name of a placeholder that follows a dollar sign. -/
theorem name?_eq_iff {n rest : List Char} (hbrace : '}' ∉ n) (hne : n ≠ [])
    (hn : ∀ c ∈ n, isNameChar c = true) (hstart : ∀ c, n.head? = some c → isNameStart c = true) :
    (∃ length, name? rest = some (n, length)) ↔ beginsWith rest n = true := by
  rw [beginsWith, Bool.or_eq_true, List.isPrefixOf_iff_prefix, decide_eq_true_eq]
  cases rest with
  | nil =>
    rw [List.prefix_nil, List.takeWhile_nil]
    simpa [name?] using hne.symm
  | cons c rest =>
    by_cases hc : c = '{'
    · subst hc
      have hword : ('{' :: rest).takeWhile isNameChar = [] := rfl
      rw [List.cons_prefix_cons, hword, and_iff_right rfl, or_iff_left hne.symm,
        ← takeWhile_brace_eq_iff hbrace]
      simp only [name?_brace_eq_some_iff]
      constructor
      · rintro ⟨length, htake, -, hlength, -⟩
        exact ⟨htake, hlength⟩
      · rintro ⟨htake, hlength⟩
        exact ⟨_, htake, hne, hlength, rfl⟩
    · have hpre : ¬ '{' :: (n ++ ['}']) <+: c :: rest := fun h =>
        hc (List.cons_prefix_cons.1 h).1.symm
      rw [or_iff_right hpre, List.takeWhile_cons]
      simp only [name?_word_eq_some_iff hc]
      constructor
      · rintro ⟨length, -, hcons, -⟩
        rw [if_pos (hn c (hcons ▸ List.mem_cons_self)), hcons]
      · intro h
        split at h
        · exact ⟨_, hstart c (by rw [← h]; rfl), h, rfl⟩
        · exact absurd h.symm hne

/-- Behind a dollar sign a placeholder begins if another dollar sign or a known name follows. -/
theorem begins_eq_true_iff {rest : List Char} : begins rest = true ↔
    ['$'] <+: rest ∨ ∃ n ∈ names, ∃ length, name? rest = some (n, length) := by
  have hname : ∀ n ∈ names, beginsWith rest n = true ↔ ∃ length, name? rest = some (n, length) := by
    intro n hn
    simp only [names, List.mem_cons, List.not_mem_nil, or_false] at hn
    rcases hn with rfl | rfl <;>
      exact (name?_eq_iff (by decide) (by decide) (List.all_eq_true.1 rfl) (by simp; decide)).symm
  rw [begins, Bool.or_eq_true, List.isPrefixOf_iff_prefix, List.any_eq_true]
  exact or_congr_right (exists_congr fun n => and_congr_right (hname n))

theorem expand?_eq_none {rest : List Char} (h : begins rest = false) :
    expand? database schema rest = none := by
  rw [Bool.eq_false_iff, Ne, begins_eq_true_iff, not_or] at h
  rw [expand?]
  cases hname : name? rest with
  | none => rfl
  | some found =>
    obtain ⟨n, length⟩ := found
    have hn : n ∉ names := fun hmem => h.2 ⟨n, hmem, length, hname⟩
    simp only [names, List.mem_cons, List.not_mem_nil, or_false, not_or] at hn
    simp [replacement?, hn.1, hn.2]

theorem toList_backquoted (name : String) :
    (backquoted name).toList = '\x60' :: (name.toList ++ ['\x60']) := by
  rw [backquoted, String.toList_append, String.toList_append]
  rfl

/-- What is put in for a placeholder begins with a backquote. -/
theorem head?_of_expand? {rest text : List Char} {length : Nat}
    (h : expand? database schema rest = some (text, length)) : text.head? = some '\x60' := by
  have hname : ∀ name, (backquoted name).toList.head? = some '\x60' := fun name => by
    rw [toList_backquoted]
    rfl
  have hreference : ∀ s : Schema, (s.reference database).toList.head? = some '\x60' := by
    intro s
    rw [Schema.reference]
    split_ifs
    · rw [String.toList_append]
      rfl
    · exact hname s.table
    · rw [String.toList_append, String.toList_append, List.append_assoc, List.head?_append, hname]
      rfl
  rw [expand?] at h
  obtain ⟨⟨name, taken⟩, -, h⟩ := Option.bind_eq_some_iff.1 h
  obtain ⟨replaced, hreplaced, h⟩ := Option.bind_eq_some_iff.1 h
  obtain ⟨rfl, -⟩ := Prod.mk.inj (Option.some.inj h)
  rw [replacement?] at hreplaced
  split_ifs at hreplaced
  · obtain rfl := Option.some.inj hreplaced
    exact hname database
  · obtain ⟨s, -, rfl⟩ := Option.map_eq_some_iff.1 hreplaced
    exact hreference s

/-- Where there is a table, something is put in for each placeholder. -/
theorem exists_expand? {s : Schema} {rest : List Char} (h : begins rest = true)
    (hdollar : rest.head? ≠ some '$') :
    ∃ text length, expand? database (some s) rest = some ('\x60' :: text, length) := by
  have hsome : ∃ text length, expand? database (some s) rest = some (text, length) := by
    rcases begins_eq_true_iff.1 h with hpre | ⟨n, hn, length, hname⟩
    · obtain ⟨tail, rfl⟩ := hpre
      exact absurd rfl hdollar
    · simp only [names, List.mem_cons, List.not_mem_nil, or_false] at hn
      rcases hn with rfl | rfl
      · exact ⟨(backquoted database).toList, length, by simp [expand?, hname, replacement?]⟩
      · exact ⟨(s.reference database).toList, length, by simp [expand?, hname, replacement?]⟩
  obtain ⟨text, length, hexpand⟩ := hsome
  obtain ⟨tail, rfl⟩ := List.head?_eq_some_iff.1 (head?_of_expand? hexpand)
  exact ⟨tail, length, hexpand⟩

/-- Where a placeholder begins, the filled text goes on with a backquote. -/
theorem head?_fillChars_of_begins (database : String) (s : Schema) {rest : List Char}
    (h : begins rest = true) (hdollar : rest.head? ≠ some '$') :
    (fillChars database (some s) ('$' :: rest)).head? = some '\x60' := by
  obtain ⟨text, length, hexpand⟩ :
      ∃ text length, expand? database (some s) rest = some ('\x60' :: text, length) :=
    exists_expand? h hdollar
  rw [fillChars_dollar hdollar, hexpand]
  rfl

/-- A text without placeholders is left alone. -/
theorem fillChars_of_occurs : ∀ {s : List Char}, occurs s = false →
    fillChars database schema s = s
  | [], _ => fillChars_nil
  | c :: rest, h => by
    simp only [occurs, Bool.or_eq_false_iff] at h
    by_cases hc : c = '$'
    · subst hc
      have hbegins : begins rest = false := by simpa using h.1
      have hdollar : rest.head? ≠ some '$' := by
        intro hhead
        cases rest with
        | nil => exact absurd hhead (by simp)
        | cons d rest =>
          obtain rfl : d = '$' := by simpa using hhead
          exact absurd hbegins (by simp [begins])
      rw [fillChars_dollar hdollar, expand?_eq_none hbegins, fillChars_of_occurs h.2]
    · rw [fillChars_cons hc, fillChars_of_occurs h.2]

/-! ### Texts that are left alone -/

/-- The cases of a text that is filled: at a dollar sign the next character counts too, and behind a
name the text goes on anywhere. -/
theorem fill_induction {P : List Char → Prop} (nil : P [])
    (plain : ∀ c s, c ≠ '$' → P s → P (c :: s)) (doubled : ∀ s, P s → P ('$' :: '$' :: s))
    (name : ∀ s, s.head? ≠ some '$' → begins s = true → (∀ k, P (s.drop k)) → P ('$' :: s))
    (single : ∀ s, s.head? ≠ some '$' → begins s = false → P s → P ('$' :: s)) :
    ∀ s, P s
  | [] => nil
  | [c] => by
    by_cases hc : c = '$'
    · exact hc ▸ single [] (by simp) rfl nil
    · exact plain c [] hc nil
  | c :: d :: s => by
    have ih := fill_induction nil plain doubled name single (d :: s)
    by_cases hc : c = '$'
    · subst hc
      by_cases hd : d = '$'
      · exact hd ▸ doubled s (fill_induction nil plain doubled name single s)
      · have hdollar : (d :: s).head? ≠ some '$' := by simpa using hd
        cases hb : begins (d :: s) with
        | true =>
          exact name (d :: s) hdollar hb fun k =>
            fill_induction nil plain doubled name single ((d :: s).drop k)
        | false => exact single (d :: s) hdollar hb ih
    · exact plain c (d :: s) hc ih
termination_by s => s.length
decreasing_by all_goals simp only [List.length_cons, List.length_drop]; omega

/-- No text is filled to itself with more dollar signs in front. -/
theorem fillChars_ne_replicate {s : Schema} (l : List Char) : ∀ k : Nat,
    fillChars database (some s) l ≠ List.replicate (k + 1) '$' ++ l := by
  -- For all `k` at once: of two dollar signs one is left, and the rest makes up for one more.
  induction l using fill_induction with
  | nil => simp [fillChars_nil, List.replicate_succ]
  | plain c l hc ih =>
    intro k h
    rw [fillChars_cons hc] at h
    exact hc (List.cons.inj h).1
  | doubled l ih =>
    intro k h
    rw [fillChars_dollar_dollar] at h
    refine ih (k + 1) ((List.cons.inj h).2.trans ?_)
    simp [List.replicate_succ']
  | name l hdollar hbegins =>
    intro k h
    have hhead := head?_fillChars_of_begins database s hbegins hdollar
    rw [h] at hhead
    exact absurd hhead (by simp [List.replicate_succ])
  | single l hdollar hbegins ih =>
    intro k h
    rw [fillChars_dollar hdollar, expand?_eq_none hbegins] at h
    refine ih k ((List.cons.inj h).2.trans ?_)
    simp [List.replicate_succ']

/-- Where there is a table, a text is left alone exactly if no placeholder occurs in it. -/
theorem fillChars_eq_self_iff {s : Schema} (l : List Char) :
    fillChars database (some s) l = l ↔ occurs l = false := by
  refine ⟨fun h => ?_, fillChars_of_occurs⟩
  induction l using fill_induction with
  | nil => rfl
  | plain c l hc ih =>
    rw [fillChars_cons hc] at h
    simpa [occurs, hc] using ih (List.cons.inj h).2
  | doubled l ih =>
    rw [fillChars_dollar_dollar] at h
    exact absurd (List.cons.inj h).2 (fillChars_ne_replicate l 0)
  | name l hdollar hbegins =>
    have hhead := head?_fillChars_of_begins database s hbegins hdollar
    rw [h] at hhead
    exact absurd hhead (by simp)
  | single l hdollar hbegins ih =>
    rw [fillChars_dollar hdollar, expand?_eq_none hbegins] at h
    simpa [occurs, hbegins] using ih (List.cons.inj h).2

/-- A text without a character begins what stands in front of it, or nothing. -/
theorem prefix_append_cons_iff {c : Char} : ∀ {w s : List Char}, c ∉ w → ∀ rest,
    (w <+: s ++ c :: rest ↔ w <+: s)
  | [], _, _, _ => by simp
  | d :: w, [], h, rest => by
    rw [List.mem_cons, not_or] at h
    simp [List.cons_prefix_cons, Ne.symm h.1]
  | d :: w, e :: s, h, rest => by
    rw [List.mem_cons, not_or] at h
    rw [List.cons_append, List.cons_prefix_cons, List.cons_prefix_cons,
      prefix_append_cons_iff h.2]

/-! ### Texts behind a character that ends a name -/

/-- A character that neither begins a placeholder nor stands in one. -/
def isStop (c : Char) : Bool :=
  !isNameChar c && c != '$' && c != '{' && c != '}'

theorem isStop_eq_true {c : Char} (h : isStop c = true) :
    isNameChar c = false ∧ c ≠ '$' ∧ c ≠ '{' ∧ c ≠ '}' := by
  simpa [isStop, and_assoc] using h

theorem takeWhile_append_stop {p : Char → Bool} {c : Char} (hc : p c = false) (rest : List Char) :
    ∀ s : List Char, (s ++ c :: rest).takeWhile p = s.takeWhile p
  | [] => by rw [List.nil_append, List.takeWhile_cons, hc, if_neg Bool.false_ne_true]; rfl
  | d :: s => by
    rw [List.cons_append, List.takeWhile_cons, List.takeWhile_cons, takeWhile_append_stop hc rest s]

/-- A placeholder does not reach beyond a stop. -/
theorem begins_append_stop {c : Char} (hc : isStop c = true) (s rest : List Char) :
    begins (s ++ c :: rest) = begins s := by
  obtain ⟨hname, hdollar, hopen, hclose⟩ := isStop_eq_true hc
  have hbegins : ∀ n ∈ names, beginsWith (s ++ c :: rest) n = beginsWith s n := by
    intro n hn
    have hall : ∀ d ∈ n, isNameChar d = true := by
      simp only [names, List.mem_cons, List.not_mem_nil, or_false] at hn
      rcases hn with rfl | rfl <;> exact List.all_eq_true.1 rfl
    have hplain : c ∉ '{' :: (n ++ ['}']) := by
      simp only [List.mem_cons, List.mem_append, List.not_mem_nil, or_false, not_or]
      exact ⟨hopen, fun hmem => absurd (hall c hmem) (by simp [hname]), hclose⟩
    rw [beginsWith, beginsWith, takeWhile_append_stop hname, Bool.eq_iff_iff]
    simp only [Bool.or_eq_true, List.isPrefixOf_iff_prefix, prefix_append_cons_iff hplain]
  have hsign : c ∉ ['$'] := by simpa using hdollar
  rw [begins, begins, Bool.eq_iff_iff]
  simp only [Bool.or_eq_true, List.isPrefixOf_iff_prefix, prefix_append_cons_iff hsign,
    List.any_eq_true]
  exact or_congr_right (exists_congr fun n => and_congr_right fun hn => by rw [hbegins n hn])

/-- A placeholder occurs in front of a stop or behind it. -/
theorem occurs_append_stop {c : Char} (hc : isStop c = true) (s rest : List Char) :
    occurs (s ++ c :: rest) = (occurs s || occurs rest) := by
  induction s with
  | nil => simp [occurs, (isStop_eq_true hc).2.1]
  | cons d s ih =>
    rw [List.cons_append, occurs, occurs, begins_append_stop hc, ih, Bool.or_assoc]

/-- The name that follows a dollar sign is the same with a stop behind it. -/
theorem name?_append_stop {c : Char} (hc : isStop c = true) {s name : List Char} {length : Nat}
    (h : name? s = some (name, length)) (rest : List Char) :
    name? (s ++ c :: rest) = some (name, length) ∧ length ≤ s.length := by
  obtain ⟨hname, -, -, hclose⟩ := isStop_eq_true hc
  cases s with
  | nil => exact absurd h (by simp [name?])
  | cons d s =>
    by_cases hd : d = '{'
    · subst hd
      obtain ⟨rfl, hne, hlength, rfl⟩ := name?_brace_eq_some_iff.1 h
      have hle := (List.takeWhile_prefix (l := s) (· != '}')).length_le
      -- The brace that closes the name stands in front of the stop.
      have htake : (s ++ c :: rest).takeWhile (· != '}') = s.takeWhile (· != '}') := by
        rw [List.takeWhile_append, if_neg hlength]
      rw [List.cons_append]
      refine ⟨name?_brace_eq_some_iff.2 ⟨htake, hne, ?_, rfl⟩, by rw [List.length_cons]; omega⟩
      rw [List.length_append, List.length_cons]
      omega
    · obtain ⟨hstart, rfl, rfl⟩ := (name?_word_eq_some_iff hd).1 h
      rw [List.cons_append]
      refine ⟨(name?_word_eq_some_iff hd).2 ⟨hstart, ?_, rfl⟩, ?_⟩
      · rw [takeWhile_append_stop hname]
      · exact Nat.succ_le_succ (List.takeWhile_prefix _).length_le

/-- A text is filled on its own in front of a stop. -/
theorem fillChars_append_stop {c : Char} (hc : isStop c = true) (rest s : List Char) :
    fillChars database schema (s ++ c :: rest)
      = fillChars database schema s ++ c :: fillChars database schema rest := by
  have hdollar := (isStop_eq_true hc).2.1
  have hhead : ∀ s : List Char, s.head? ≠ some '$' → (s ++ c :: rest).head? ≠ some '$' := by
    intro s hs
    cases s with
    | nil => simpa using hdollar
    | cons d s => exact hs
  induction s using fill_induction with
  | nil => rw [List.nil_append, fillChars_cons hdollar, fillChars_nil, List.nil_append]
  | plain d s hd ih => rw [List.cons_append, fillChars_cons hd, fillChars_cons hd, ih]; rfl
  | doubled s ih =>
    rw [List.cons_append, List.cons_append, fillChars_dollar_dollar, fillChars_dollar_dollar, ih]
    rfl
  | single s hs hbegins ih =>
    have hbegins' : begins (s ++ c :: rest) = false := by rw [begins_append_stop hc, hbegins]
    rw [List.cons_append, fillChars_dollar (hhead s hs), fillChars_dollar hs,
      expand?_eq_none hbegins, expand?_eq_none hbegins']
    simp only [ih, List.cons_append]
  | name s hs hbegins ih =>
    obtain ⟨n, length, hn⟩ : ∃ n length, name? s = some (n, length) := by
      rcases begins_eq_true_iff.1 hbegins with ⟨tail, rfl⟩ | ⟨n, -, length, hn⟩
      · exact absurd rfl hs
      · exact ⟨n, length, hn⟩
    obtain ⟨hn', hlength⟩ := name?_append_stop hc hn rest
    have hsame : expand? database schema (s ++ c :: rest) = expand? database schema s := by
      rw [expand?, expand?, hn', hn]
    rw [List.cons_append, fillChars_dollar (hhead s hs), fillChars_dollar hs, hsame]
    cases hexpand : expand? database schema s with
    | none =>
      have hself := ih 0
      rw [List.drop_zero] at hself
      simp only [hself, List.cons_append]
    | some found =>
      obtain ⟨text, taken⟩ := found
      have htaken : taken = length := by
        simp only [expand?, hn, Option.bind_eq_bind, Option.bind_some] at hexpand
        obtain ⟨replaced, -, hpair⟩ := Option.bind_eq_some_iff.1 hexpand
        exact (Prod.mk.inj (Option.some.inj hpair)).2.symm
      subst htaken
      simp only [List.drop_append_of_le_length hlength, ih taken, List.append_assoc]

/-- What stands behind a blank is left alone if it has no dollar sign. -/
theorem exists_fillChars_append (database : String) (schema : Option Schema) {t : List Char}
    (hdollar : '$' ∉ t) (s : List Char) :
    ∃ u, fillChars database schema (s ++ ' ' :: t) = u ++ ' ' :: t :=
  ⟨fillChars database schema s, by
    rw [fillChars_append_stop (by decide), fillChars_eq_self hdollar]⟩

/-! ### Closed texts -/

/-- No placeholder that begins in the text goes on behind it; whether one occurs in it is given. -/
def Closed (s : List Char) (found : Bool) : Prop :=
  ∀ rest, occurs (s ++ rest) = (found || occurs rest)

theorem Closed.occurs_eq {s : List Char} {found : Bool} (h : Closed s found) :
    occurs s = found := by
  simpa [occurs] using h []

theorem Closed.append {s t : List Char} {found found' : Bool} (hs : Closed s found)
    (ht : Closed t found') : Closed (s ++ t) (found || found') := by
  intro rest
  rw [List.append_assoc, hs, ht, Bool.or_assoc]

theorem closed_of_not_mem : ∀ {s : List Char}, '$' ∉ s → Closed s false
  | [], _ => fun rest => by rw [List.nil_append, Bool.false_or]
  | c :: s, h => by
    intro rest
    rw [List.mem_cons, not_or] at h
    rw [List.cons_append, occurs, closed_of_not_mem h.2 rest]
    simp [Ne.symm h.1]

theorem Closed.append_string {s t : String} {found found' : Bool} (hs : Closed s.toList found)
    (ht : Closed t.toList found') : Closed (s ++ t).toList (found || found') := by
  rw [String.toList_append]
  exact hs.append ht

/-- A closed text is closed between texts without dollar signs. -/
theorem Closed.between {s front back : String} {found : Bool} (hs : Closed s.toList found)
    (hfront : '$' ∉ front.toList) (hback : '$' ∉ back.toList) :
    Closed (front ++ s ++ back).toList found := by
  have hall := ((closed_of_not_mem hfront).append_string hs).append_string (closed_of_not_mem hback)
  rwa [Bool.false_or, Bool.or_false] at hall

/-- A text is closed by a stop. -/
theorem closed_concat_stop {c : Char} (hc : isStop c = true) (s : List Char) :
    Closed (s ++ [c]) (occurs s) := by
  intro rest
  rw [List.append_assoc, List.singleton_append, occurs_append_stop hc]

theorem closed_backquoted (name : String) :
    Closed (backquoted name).toList (occurs name.toList) := by
  intro rest
  rw [toList_backquoted, List.cons_append, occurs, closed_concat_stop (by decide)]
  simp

/-- Closed texts are closed together, with a closed text between them. -/
theorem closed_intercalate {α : Type} {write : α → String} {found : α → Bool} {sep : String}
    (hsep : '$' ∉ sep.toList) : ∀ {l : List α}, (∀ a ∈ l, Closed (write a).toList (found a)) →
      Closed (sep.intercalate (l.map write)).toList (l.any found)
  | [], _ => closed_of_not_mem (by simp)
  | [a], h => by simpa using h a List.mem_cons_self
  | a :: b :: l, h => by
    have hrest := closed_intercalate hsep fun x hx => h x (List.mem_cons_of_mem a hx)
    have hall := (h a List.mem_cons_self).append ((closed_of_not_mem hsep).append hrest)
    rw [Bool.false_or] at hall
    rwa [List.map_cons, List.map_cons, String.intercalate_cons_cons, String.toList_append,
      String.toList_append, List.append_assoc, List.any_cons]

/-- A dollar sign is left, or a backquote is put in for it. -/
theorem head?_fillChars_dollar (database : String) (schema : Option Schema) (rest : List Char) :
    ∃ c ∈ ['$', '\x60'], (fillChars database schema ('$' :: rest)).head? = some c := by
  by_cases hdollar : rest.head? = some '$'
  · obtain ⟨tail, rfl⟩ := List.head?_eq_some_iff.1 hdollar
    exact ⟨'$', by simp, by rw [fillChars_dollar_dollar]; rfl⟩
  · rw [fillChars_dollar hdollar]
    cases hexpand : expand? database schema rest with
    | none => exact ⟨'$', by simp, rfl⟩
    | some found =>
      have htext := head?_of_expand? hexpand
      exact ⟨'\x60', by simp, by simp [List.head?_append, htext]⟩

/-- The first character of a statement is left alone unless it is a dollar sign. -/
theorem head?_fill {s : String} {c : Char} (h : s.toList.head? = some c) (hc : c ≠ '$') :
    (fill database schema s).toList.head? = some c := by
  obtain ⟨tail, htail⟩ := List.head?_eq_some_iff.1 h
  rw [fill, String.toList_ofList, htail, fillChars_cons hc]
  rfl

/-! ### Statements part by part -/

theorem fill_append {s : String} (h : '$' ∉ s.toList) (t : String) :
    fill database schema (s ++ t) = s ++ fill database schema t := by
  rw [fill, fill, String.toList_append, fillChars_append h, String.ofList_append,
    String.ofList_toList]

theorem fill_eq_self {s : String} (h : '$' ∉ s.toList) : fill database schema s = s := by
  rw [fill, fillChars_eq_self h, String.ofList_toList]

/-- What is in front of a blank is filled on its own. -/
theorem fill_append_blank (s : String) {t : String} (h : t.toList.head? = some ' ') :
    fill database schema (s ++ t) = fill database schema s ++ fill database schema t := by
  obtain ⟨rest, ht⟩ := List.head?_eq_some_iff.1 h
  rw [fill, fill, fill, String.toList_append, ht, fillChars_append_stop (by decide),
    ← fillChars_cons (by decide), String.ofList_append]

theorem fill_eq_self_iff {table : Schema} (s : String) :
    fill database (some table) s = s ↔ occurs s.toList = false := by
  rw [← String.toList_inj, fill, String.toList_ofList, fillChars_eq_self_iff]

end Columnar.Placeholder
