import Columnar.Proofs.Value

/-!
Floating-point numbers that are written and read back.

A finite number is written as digits with at most one point between them, behind a sign if it is
negative. All these forms are numerals that can be read, and so are the words for the other numbers
(`exists_read?_floatText`). Which number comes back is not said here.
-/

namespace Columnar.Decimal

/-! ### Numerals -/

/-- Digits alone are a numeral. -/
theorem readNumeral?_digits {whole : List Char} (hne : whole ≠ [])
    (hwhole : ∀ c ∈ whole, c.isDigit = true) :
    readNumeral? whole = some ⟨Text.digitsValue whole, 0⟩ := by
  have hnil : ∀ c, ([] : List Char).head? = some c → c.isDigit = false := by simp
  obtain ⟨htake, hdrop⟩ := Text.span_append hwhole hnil
  rw [List.append_nil] at htake hdrop
  simp [readNumeral?, htake, hdrop, hne, readExponent?]

/-- Digits around a point are a numeral. -/
theorem readNumeral?_point {whole fraction : List Char} (hne : whole ≠ [])
    (hwhole : ∀ c ∈ whole, c.isDigit = true) (hfraction : ∀ c ∈ fraction, c.isDigit = true) :
    readNumeral? (whole ++ '.' :: fraction)
      = some ⟨Text.digitsValue (whole ++ fraction), -(fraction.length : Int)⟩ := by
  have hnil : ∀ c, ([] : List Char).head? = some c → c.isDigit = false := by simp
  obtain ⟨htake, hdrop⟩ := Text.span_append_cons hwhole (by decide : '.'.isDigit = false) fraction
  obtain ⟨htake', hdrop'⟩ := Text.span_append hfraction hnil
  rw [List.append_nil] at htake' hdrop'
  simp [readNumeral?, htake, hdrop, htake', hdrop', hne, readExponent?]

/-- A text that begins with a digit, and is a numeral. -/
def IsNumeral (s : List Char) : Prop :=
  (∃ c, s.head? = some c ∧ c.isDigit = true) ∧ ∃ x, readNumeral? s = some x

theorem isNumeral_digits {whole : List Char} (hne : whole ≠ [])
    (hwhole : ∀ c ∈ whole, c.isDigit = true) : IsNumeral whole := by
  refine ⟨⟨whole.head hne, List.head?_eq_some_head hne, hwhole _ (List.head_mem hne)⟩, ?_⟩
  exact ⟨_, readNumeral?_digits hne hwhole⟩

theorem isNumeral_point {whole fraction : List Char} (hne : whole ≠ [])
    (hwhole : ∀ c ∈ whole, c.isDigit = true) (hfraction : ∀ c ∈ fraction, c.isDigit = true) :
    IsNumeral (whole ++ '.' :: fraction) := by
  refine ⟨⟨whole.head hne, ?_, hwhole _ (List.head_mem hne)⟩, ?_⟩
  · rw [List.head?_append_of_ne_nil _ hne, List.head?_eq_some_head hne]
  · exact ⟨_, readNumeral?_point hne hwhole hfraction⟩

theorem isDigit_of_mem_replicate_zero {n : Nat} {c : Char} (h : c ∈ List.replicate n '0') :
    c.isDigit = true := by
  rw [List.eq_of_mem_replicate h]
  rfl

/-- Digits with the point at its place are a numeral. -/
theorem isNumeral_positional {digits : List Char} (hdigits : ∀ c ∈ digits, c.isDigit = true)
    (point : Int) : IsNumeral (positional digits point []) := by
  have hzero : ∀ c ∈ ['0'], c.isDigit = true := List.all_eq_true.1 (by decide)
  unfold positional
  split
  · exact isNumeral_digits (by simp) hzero
  next hempty =>
  have hne : digits ≠ [] := fun h => hempty (by simp [h])
  split
  · -- the point stands in front of all digits
    have hfraction : ∀ c ∈ List.replicate (-point).toNat '0' ++ digits, c.isDigit = true :=
      List.forall_mem_append.2 ⟨fun c hc => isDigit_of_mem_replicate_zero hc, hdigits⟩
    exact isNumeral_point (by simp) hzero hfraction
  next hpoint =>
  split
  · rw [List.append_nil]
    exact isNumeral_digits (by simp [hne])
      (List.forall_mem_append.2 ⟨hdigits, fun c hc => isDigit_of_mem_replicate_zero hc⟩)
  · have htake : digits.take point.toNat ≠ [] := by
      rw [Ne, List.take_eq_nil_iff, not_or]
      exact ⟨by omega, hne⟩
    exact isNumeral_point htake (fun c hc => hdigits c (List.mem_of_mem_take hc))
      fun c hc => hdigits c (List.mem_of_mem_drop hc)

/-! ### Numbers -/

theorem toLower_of_isDigit {c : Char} (h : c.isDigit = true) : c.toLower = c := by
  obtain ⟨-, hle⟩ := Text.toNat_of_isDigit h
  refine dif_neg ?_
  rintro ⟨hge, -⟩
  have hlower : (65 : Nat) ≤ c.val.toNat := UInt32.le_iff_toNat_le.1 hge
  have hupper : c.val.toNat ≤ 57 := hle
  omega

/-- A numeral is none of the words for other numbers. -/
theorem readMagnitude?_of_isNumeral {s : List Char} (h : IsNumeral s) :
    readMagnitude? s = (readNumeral? s).map nearest := by
  obtain ⟨⟨c, hhead, hc⟩, -⟩ := h
  have hword : ∀ {word : String} {d : Char}, word.toList.head? = some d → d.isDigit = false →
      String.ofList (s.map Char.toLower) ≠ word := by
    rintro word d hd hdigit rfl
    rw [String.toList_ofList, List.head?_map, hhead, Option.map_some, toLower_of_isDigit hc] at hd
    exact Text.ne_of_isDigit hc hdigit (Option.some.inj hd)
  have hinf : String.ofList (s.map Char.toLower) ≠ "inf" := hword rfl rfl
  have hinfinity : String.ofList (s.map Char.toLower) ≠ "infinity" := hword rfl rfl
  have hnan : String.ofList (s.map Char.toLower) ≠ "nan" := hword rfl rfl
  simp only [readMagnitude?, hinf, hinfinity, hnan, decide_false, Bool.or_self,
    Bool.false_eq_true, if_false]

/-- A numeral is read, behind a minus sign too. -/
theorem exists_read?_signed {s : List Char} (h : IsNumeral s) (negative : Bool) :
    ∃ x, read? (signed negative s).toList = some x := by
  have hmagnitude := readMagnitude?_of_isNumeral h
  obtain ⟨⟨c, hhead, hc⟩, x, hx⟩ := h
  rw [hx, Option.map_some] at hmagnitude
  rw [signed, String.toList_ofList]
  cases negative with
  | true => exact ⟨(nearest x).neg, by rw [if_pos rfl, read?, hmagnitude, Option.map_some]⟩
  | false =>
    obtain ⟨rest, rfl⟩ := List.head?_eq_some_iff.1 hhead
    refine ⟨nearest x, ?_⟩
    rw [if_neg Bool.false_ne_true, read?, hmagnitude]
    · exact fun _ h => Text.ne_of_isDigit hc (by decide) (List.cons.inj h).1
    · exact fun _ h => Text.ne_of_isDigit hc (by decide) (List.cons.inj h).1

/-- What is written for a floating-point number can be read. -/
theorem exists_read?_floatText (x : Float) :
    ∃ y, read? (Value.floatText x).toList = some y := by
  rw [Value.floatText]
  split
  · exact ⟨_, rfl⟩
  rw [plain]
  split
  · exact ⟨_, rfl⟩
  · next negative _ => cases negative <;> exact ⟨_, rfl⟩
  · next hparts =>
    exact exists_read?_signed (isNumeral_positional (Value.isDigit_of_ofFloat hparts) _) _

/-- An integer is read as a floating-point number too. -/
theorem exists_read?_toString (n : Int) : ∃ y, read? (toString n).toList = some y := by
  have hnumeral : ∀ k : Nat, IsNumeral (Nat.toDigits 10 k) := fun k =>
    isNumeral_digits Nat.toDigits_ne_nil fun _ => Text.isDigit_of_mem_toDigits
  rw [Text.toList_toString]
  split
  · have h := exists_read?_signed (hnumeral n.toNat) false
    rwa [signed, String.toList_ofList] at h
  · have h := exists_read?_signed (hnumeral (-n).toNat) true
    rwa [signed, String.toList_ofList] at h

theorem floatText_ne_nil (x : Float) : (Value.floatText x).toList ≠ [] := by
  intro h
  obtain ⟨y, hy⟩ := exists_read?_floatText x
  rw [h] at hy
  cases hy

end Columnar.Decimal
