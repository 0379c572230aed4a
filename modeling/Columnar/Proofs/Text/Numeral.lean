import Columnar.Proofs.Text.Blank
import Columnar.Text.Numeral

/-!
Writing integers and reading them back.

The digits of a number are read as the number (`readDigits?_toDigits`), with zeros in front of them
too (`digitsValue_leftpad`), and an integer within the bounds of a reader is read as itself
(`readInt?_toString`). No digit and no sign is blank, so trimming leaves a numeral as it is.
-/

namespace Columnar.Text

/-! ### Digits -/

theorem toNat_of_isDigit {c : Char} (h : c.isDigit = true) : 48 ≤ c.toNat ∧ c.toNat ≤ 57 := by
  simp only [Char.isDigit, Bool.and_eq_true, decide_eq_true_eq] at h
  exact ⟨UInt32.le_iff_toNat_le.1 h.1, UInt32.le_iff_toNat_le.1 h.2⟩

theorem ne_of_isDigit {c d : Char} (h : c.isDigit = true) (hd : d.isDigit = false) : c ≠ d := by
  rintro rfl
  rw [h] at hd
  exact absurd hd (by decide)

theorem isBlank_of_isDigit {c : Char} (h : c.isDigit = true) : isBlank c = false :=
  isBlank_of_isAlphanum (by simp [Char.isAlphanum, h])

theorem isDigit_of_mem_toDigits {c : Char} {n : Nat} (h : c ∈ Nat.toDigits 10 n) :
    c.isDigit = true :=
  Nat.isDigit_of_mem_toDigits (by decide) (by decide) h

/-- A number is read from a non-empty run of digits that denote it, and from nothing else. -/
theorem readDigits?_eq_some_iff {s : List Char} {n : Nat} : readDigits? s = some n ↔
    s ≠ [] ∧ (∀ c ∈ s, c.isDigit = true) ∧ digitsValue s = n := by
  rw [readDigits?]
  split
  · next h =>
    simp only [Bool.or_eq_true, List.isEmpty_iff, Bool.not_eq_true'] at h
    simp only [reduceCtorEq, false_iff]
    rintro ⟨hne, hdigit, -⟩
    rcases h with hnil | hall
    · exact hne hnil
    · rw [List.all_eq_true.2 hdigit] at hall
      exact absurd hall (by decide)
  · next h =>
    simp only [Bool.or_eq_true, Bool.not_eq_true', List.isEmpty_iff, not_or, Bool.not_eq_false,
      List.all_eq_true] at h
    simp only [Option.some.injEq]
    exact ⟨fun hn => ⟨h.1, h.2, hn⟩, fun hs => hs.2.2⟩

/-- A non-empty run of digits is read as the number they denote. -/
theorem readDigits?_eq {s : List Char} (hne : s ≠ []) (hd : ∀ c ∈ s, c.isDigit = true) :
    readDigits? s = some (digitsValue s) :=
  readDigits?_eq_some_iff.2 ⟨hne, hd, rfl⟩

@[simp] theorem digitsValue_toDigits (n : Nat) : digitsValue (Nat.toDigits 10 n) = n :=
  Nat.ofDigitChars_ten_toDigits

/-- Zeros on the left do not change the number. -/
theorem digitsValue_leftpad (width : Nat) (s : List Char) :
    digitsValue (s.leftpad width '0') = digitsValue s := by
  rw [digitsValue, List.leftpad, Nat.ofDigitChars_append, Nat.ofDigitChars_replicate_zero,
    Nat.mul_zero, digitsValue]

theorem readDigits?_toDigits (n : Nat) : readDigits? (Nat.toDigits 10 n) = some n := by
  rw [readDigits?_eq Nat.toDigits_ne_nil fun c hc => isDigit_of_mem_toDigits hc,
    digitsValue_toDigits]

/-! ### Integers -/

/-- The written form of an integer: its digits, behind a minus sign if it is negative. -/
theorem toList_toString (n : Int) :
    (toString n).toList
      = if 0 ≤ n then Nat.toDigits 10 n.toNat else '-' :: Nat.toDigits 10 (-n).toNat := by
  rw [Int.toString_eq_repr, Int.repr_eq_if]
  split
  · exact Nat.toList_repr
  · rw [String.toList_append, Nat.toList_repr]; rfl

theorem readInt?_cons_digit {min max : Int} {c : Char} {rest : List Char}
    (hc : c.isDigit = true) :
    readInt? min max (c :: rest)
      = ((readDigits? (c :: rest)).map Int.ofNat).filter fun n => min ≤ n && n ≤ max := by
  rw [readInt?]
  · exact fun rest' heq => absurd (List.cons.inj heq).1 (ne_of_isDigit hc (by decide))
  · exact fun rest' heq => absurd (List.cons.inj heq).1 (ne_of_isDigit hc (by decide))

/-- An integer within the bounds is read as itself. -/
theorem readInt?_toString {min max n : Int} (hmin : min ≤ n) (hmax : n ≤ max) :
    readInt? min max (toString n).toList = some n := by
  rw [toList_toString]
  split
  · next hn =>
    cases hd : Nat.toDigits 10 n.toNat with
    | nil => exact absurd hd Nat.toDigits_ne_nil
    | cons c rest =>
      have hc : c.isDigit = true := isDigit_of_mem_toDigits (hd ▸ List.mem_cons_self)
      have hof : Int.ofNat n.toNat = n := Int.toNat_of_nonneg hn
      rw [readInt?_cons_digit hc, ← hd, readDigits?_toDigits, Option.map_some, hof,
        Option.filter_some, if_pos (by simp [hmin, hmax])]
  · next hn =>
    have hof : -Int.ofNat (-n).toNat = n := by
      rw [Int.ofNat_eq_natCast, Int.toNat_of_nonneg (by omega), Int.neg_neg]
    rw [readInt?]
    simp only [readDigits?_toDigits, Option.map_some]
    rw [hof, Option.filter_some, if_pos (by simp [hmin, hmax])]

/-- Only an integer within the bounds is read. -/
theorem bounds_of_readInt? {min max n : Int} {s : List Char} (h : readInt? min max s = some n) :
    min ≤ n ∧ n ≤ max := by
  unfold readInt? at h
  obtain ⟨-, hbounds⟩ := Option.filter_eq_some_iff.1 h
  simpa using hbounds

/-- The characters of a written integer. -/
theorem mem_toList_toString {n : Int} {c : Char} (h : c ∈ (toString n).toList) :
    c.isDigit = true ∨ c = '-' := by
  rw [toList_toString] at h
  split at h
  · exact .inl (isDigit_of_mem_toDigits h)
  · rcases List.mem_cons.1 h with h | h
    · exact .inr h
    · exact .inl (isDigit_of_mem_toDigits h)

theorem toList_toString_ne_nil (n : Int) : (toString n).toList ≠ [] := by
  rw [toList_toString]
  split
  · exact Nat.toDigits_ne_nil
  · exact List.cons_ne_nil _ _

theorem trim_toString (n : Int) : trim (toString n).toList = (toString n).toList := by
  refine trim_eq_self fun c hc => ?_
  rcases mem_toList_toString hc with hd | rfl
  · exact isBlank_of_isDigit hd
  · decide

/-! ### Natural numbers -/

/-- A natural number without a sign is read by its digits. -/
theorem readNat?_of_head? {max : Nat} {s : List Char} (h : s.head? ≠ some '+') :
    readNat? max s = (readDigits? s).filter (· ≤ max) := by
  rw [readNat?]
  rintro rest rfl
  exact h rfl

/-- A natural number within the bound is read as itself. -/
theorem readNat?_toString {max n : Nat} (h : n ≤ max) :
    readNat? max (toString n).toList = some n := by
  have hdigits : (toString n).toList = Nat.toDigits 10 n := Nat.toList_repr
  have hhead : (Nat.toDigits 10 n).head? ≠ some '+' := fun hplus =>
    absurd (isDigit_of_mem_toDigits (List.mem_of_head? hplus)) (by decide)
  rw [hdigits, readNat?_of_head? hhead, readDigits?_toDigits, Option.filter_some,
    if_pos (by simpa using h)]

/-- Only a natural number within the bound is read. -/
theorem le_of_readNat? {max n : Nat} {s : List Char} (h : readNat? max s = some n) : n ≤ max := by
  unfold readNat? at h
  obtain ⟨-, hmax⟩ := Option.filter_eq_some_iff.1 h
  simpa using hmax

theorem trim_toString_nat (n : Nat) : trim (toString n).toList = (toString n).toList := by
  have hdigits : (toString n).toList = Nat.toDigits 10 n := Nat.toList_repr
  rw [hdigits]
  exact trim_eq_self fun c hc => isBlank_of_isDigit (isDigit_of_mem_toDigits hc)

/-- A number on a line of its own. -/
theorem trimText_numeral (n : Nat) : trimText (toString n ++ "\n") = toString n := by
  rw [trimText, ← String.toList_inj, String.toList_ofList, String.toList_append,
    trim_append _ (List.all_eq_true.1 (by decide)), trim_toString_nat]

end Columnar.Text
