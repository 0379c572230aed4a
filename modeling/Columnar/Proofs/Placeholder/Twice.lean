import Columnar.Proofs.Placeholder

/-!
Texts that are filled once more.

What is put in for a placeholder is not scanned, unless the whole text is filled again. Filling
takes dollar signs away where there are two or more, and brings no new names about. So a text that
is filled for a table and once more comes out as it was exactly if no placeholder occurs in it
(`fillChars_fillChars_eq_self_iff`). Where there is no table, the placeholder of the table stays,
and only the others count (`fillChars_none_eq_self_iff`).
-/

namespace Columnar.Placeholder

variable {database : String} {schema : Option Schema}

/-! ### What filling begins with -/

/-- The number of dollar signs that a text begins with. -/
def dollars : List Char → Nat
  | '$' :: rest => dollars rest + 1
  | _ => 0

theorem dollars_eq_zero {l : List Char} (h : l.head? ≠ some '$') : dollars l = 0 := by
  rw [dollars]
  rintro rest rfl
  exact h rfl

/-- In front of anything but a dollar sign, a text is filled to a text that begins alike. -/
theorem head?_fillChars (database : String) (schema : Option Schema) {l : List Char}
    (h : l.head? ≠ some '$') :
    (fillChars database schema l).head? = l.head? := by
  cases l with
  | nil => rw [fillChars_nil]
  | cons c l =>
    rw [fillChars_cons (by simpa using h)]
    rfl

/-- Of the dollar signs that a text begins with, filling leaves about one half. -/
theorem dollars_fillChars_le (database : String) (schema : Option Schema) (l : List Char) :
    2 * dollars (fillChars database schema l) ≤ dollars l + 1 := by
  have hsingle : ∀ s : List Char, s.head? ≠ some '$' →
      2 * dollars (fillChars database schema ('$' :: s)) ≤ dollars ('$' :: s) + 1 := by
    intro s hs
    have hrest : dollars (fillChars database schema s) = 0 := by
      refine dollars_eq_zero ?_
      rwa [head?_fillChars _ _ hs]
    have hone : dollars ('$' :: s) = 1 := by rw [dollars, dollars_eq_zero hs]
    rw [fillChars_dollar hs, hone]
    cases hexpand : expand? database schema s with
    | none => simp only [dollars, hrest]; omega
    | some found =>
      have hhead : (found.1 ++ fillChars database schema (s.drop found.2)).head? ≠ some '$' := by
        rw [List.head?_append, head?_of_expand? hexpand]
        simp
      have hzero := dollars_eq_zero hhead
      simp only [hzero]
      omega
  induction l using fill_induction with
  | nil => simp [fillChars_nil, dollars]
  | plain c s hc ih =>
    rw [fillChars_cons hc, dollars_eq_zero (by simpa using hc)]
    omega
  | doubled s ih =>
    rw [fillChars_dollar_dollar, dollars, dollars, dollars]
    omega
  | name s hs => exact hsingle s hs
  | single s hs => exact hsingle s hs

/-! ### Names behind a dollar sign -/

/-- Filling brings no text about that has neither dollar signs nor backquotes. -/
theorem prefix_of_prefix_fillChars : ∀ {w l : List Char}, '$' ∉ w → '\x60' ∉ w →
    w <+: fillChars database schema l → w <+: l
  | [], l, _, _, _ => List.nil_prefix
  | c :: w, [], _, _, h => by rwa [fillChars_nil] at h
  | c :: w, d :: l, hdollar, hquote, h => by
    rw [List.mem_cons, not_or] at hdollar hquote
    by_cases hd : d = '$'
    · subst hd
      obtain ⟨e, he, hhead⟩ := head?_fillChars_dollar database schema l
      obtain ⟨tail, htail⟩ := List.head?_eq_some_iff.1 hhead
      rw [htail, List.cons_prefix_cons] at h
      rcases (by simpa using he : e = '$' ∨ e = '\x60') with rfl | rfl
      · exact absurd h.1.symm hdollar.1
      · exact absurd h.1.symm hquote.1
    · rw [fillChars_cons hd, List.cons_prefix_cons] at h
      exact List.cons_prefix_cons.2 ⟨h.1, prefix_of_prefix_fillChars hdollar.2 hquote.2 h.2⟩

/-- The first word of a text stays. -/
theorem takeWhile_fillChars : ∀ l : List Char,
    (fillChars database schema l).takeWhile isNameChar = l.takeWhile isNameChar
  | [] => by rw [fillChars_nil]
  | d :: l => by
    by_cases hd : d = '$'
    · subst hd
      obtain ⟨e, he, hhead⟩ := head?_fillChars_dollar database schema l
      obtain ⟨tail, htail⟩ := List.head?_eq_some_iff.1 hhead
      rw [htail, List.takeWhile_cons, List.takeWhile_cons]
      rcases (by simpa using he : e = '$' ∨ e = '\x60') with rfl | rfl <;> rfl
    · rw [fillChars_cons hd, List.takeWhile_cons, List.takeWhile_cons, takeWhile_fillChars l]

/-- Filling does not make a name out of what is none. -/
theorem begins_fillChars (database : String) (schema : Option Schema) {l : List Char}
    (hdollar : l.head? ≠ some '$') (h : begins l = false) :
    begins (fillChars database schema l) = false := by
  rw [begins, Bool.or_eq_false_iff, List.any_eq_false] at h ⊢
  refine ⟨?_, fun n hn hbegins => h.2 n hn ?_⟩
  · rw [Bool.eq_false_iff, Ne, List.isPrefixOf_iff_prefix]
    rintro ⟨tail, htail⟩
    have hhead := head?_fillChars database schema hdollar
    rw [← htail] at hhead
    exact hdollar hhead.symm
  · have hplain : '$' ∉ '{' :: (n ++ ['}']) ∧ '\x60' ∉ '{' :: (n ++ ['}']) := by
      simp only [names, List.mem_cons, List.not_mem_nil, or_false] at hn
      rcases hn with rfl | rfl <;> decide
    rw [beginsWith, Bool.or_eq_true, List.isPrefixOf_iff_prefix, decide_eq_true_eq] at hbegins ⊢
    rw [takeWhile_fillChars] at hbegins
    exact hbegins.imp_left (prefix_of_prefix_fillChars hplain.1 hplain.2)

/-! ### Filling twice -/

/-- A text that is filled for a table, and then once more, comes out as it was exactly if no
placeholder occurs in it. -/
theorem fillChars_fillChars_eq_self_iff {table : Schema} (l : List Char) :
    fillChars database schema (fillChars database (some table) l) = l ↔ occurs l = false := by
  refine ⟨fun h => ?_, fun h => by rw [fillChars_of_occurs h, fillChars_of_occurs h]⟩
  induction l using fill_induction with
  | nil => rfl
  | plain c s hc ih =>
    rw [fillChars_cons hc, fillChars_cons hc] at h
    simpa [occurs, hc] using ih (List.cons.inj h).2
  | doubled s ih =>
    -- At least two dollar signs at the beginning do not come back.
    have honce := dollars_fillChars_le database (some table) ('$' :: '$' :: s)
    have htwice := dollars_fillChars_le database schema
      (fillChars database (some table) ('$' :: '$' :: s))
    have hcount : dollars ('$' :: '$' :: s) = dollars s + 2 := rfl
    rw [h] at htwice
    omega
  | name s hs hbegins =>
    have hhead := head?_fillChars_of_begins database table hbegins hs
    obtain ⟨tail, htail⟩ := List.head?_eq_some_iff.1 hhead
    rw [htail, fillChars_cons (by decide)] at h
    exact absurd (List.cons.inj h).1 (by decide)
  | single s hs hbegins ih =>
    have hagain := begins_fillChars database (some table) hs hbegins
    have hhead : (fillChars database (some table) s).head? ≠ some '$' := by
      rwa [head?_fillChars _ _ hs]
    rw [fillChars_dollar hs, expand?_eq_none hbegins] at h
    simp only at h
    rw [fillChars_dollar hhead, expand?_eq_none hagain] at h
    simpa [occurs, hbegins] using ih (List.cons.inj h).2

theorem fill_fill_eq_self_iff {table : Schema} (s : String) :
    fill database schema (fill database (some table) s) = s ↔ occurs s.toList = false := by
  rw [← String.toList_inj, fill, fill, String.toList_ofList, String.toList_ofList,
    fillChars_fillChars_eq_self_iff]

/-! ### Filling without a table -/

/-- Whether a dollar sign in front of the text stands for something else where there is no table. -/
def beginsOwn (rest : List Char) : Bool :=
  ['$'].isPrefixOf rest || beginsWith rest ['d', 'b']

/-- Whether a text has a dollar sign that stands for something else where there is no table. -/
def occursOwn : List Char → Bool
  | [] => false
  | c :: rest => (c = '$' && beginsOwn rest) || occursOwn rest

/-- Where there is no table, only the database is put in. -/
theorem expand?_none_eq_none_iff (database : String) {rest : List Char}
    (h : rest.head? ≠ some '$') : expand? database none rest = none ↔ beginsOwn rest = false := by
  have hsign : ['$'].isPrefixOf rest = false := by
    rw [Bool.eq_false_iff, Ne, List.isPrefixOf_iff_prefix]
    rintro ⟨tail, rfl⟩
    exact h rfl
  have hown : beginsWith rest ['d', 'b'] = true ↔
      ∃ length, name? rest = some (['d', 'b'], length) :=
    (name?_eq_iff (by decide) (by decide) (List.all_eq_true.1 rfl) (by simp; decide)).symm
  rw [beginsOwn, hsign, Bool.false_or, Bool.eq_false_iff, Ne, hown, expand?]
  cases hname : name? rest with
  | none => simp
  | some found =>
    obtain ⟨name, length⟩ := found
    by_cases hdb : name = ['d', 'b']
    · simp [replacement?, hdb]
    · simp [replacement?, hdb]

/-- Where there is no table, a text is left alone exactly if neither a doubled dollar sign nor the
placeholder of the database occurs in it. -/
theorem fillChars_none_eq_self_iff (l : List Char) :
    fillChars database none l = l ↔ occursOwn l = false := by
  have hsign : ∀ s : List Char, s.head? ≠ some '$' →
      (fillChars database none s = s ↔ occursOwn s = false) →
      (fillChars database none ('$' :: s) = '$' :: s ↔ occursOwn ('$' :: s) = false) := by
    intro s hs ih
    rw [fillChars_dollar hs, occursOwn]
    cases hexpand : expand? database none s with
    | none =>
      have hbegins := (expand?_none_eq_none_iff database hs).1 hexpand
      simp [hbegins, ih]
    | some found =>
      have hbegins : beginsOwn s = true := by
        rw [← Bool.not_eq_false, ← expand?_none_eq_none_iff database hs, hexpand]
        simp
      obtain ⟨tail, htail⟩ := List.head?_eq_some_iff.1 (head?_of_expand? hexpand)
      simp [hbegins, htail]
  induction l using fill_induction with
  | nil => simp [fillChars_nil, occursOwn]
  | plain c s hc ih => simp [fillChars_cons hc, occursOwn, hc, ih]
  | doubled s ih =>
    have honce := dollars_fillChars_le database none ('$' :: '$' :: s)
    have hcount : dollars ('$' :: '$' :: s) = dollars s + 2 := rfl
    have hoccurs : occursOwn ('$' :: '$' :: s) = true := by simp [occursOwn, beginsOwn]
    rw [hoccurs]
    refine iff_of_false (fun h => ?_) Bool.noConfusion
    rw [h] at honce
    omega
  | name s hs hbegins ih =>
    have hself := ih 0
    rw [List.drop_zero] at hself
    exact hsign s hs hself
  | single s hs hbegins ih => exact hsign s hs ih

theorem fill_none_eq_self_iff (s : String) :
    fill database none s = s ↔ occursOwn s.toList = false := by
  rw [← String.toList_inj, fill, String.toList_ofList, fillChars_none_eq_self_iff]

end Columnar.Placeholder
