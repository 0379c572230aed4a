import Columnar.Calendar.Reader
import Columnar.Proofs.Text.Numeral

/-!
Writing dates and reading them back.

Every date of the supported years is read from its written form (`readDate?_text`): four digits for
the years 0 to 9999, a sign and at least four digits for the others, two digits for month and day.
-/

namespace Columnar.Calendar

/-! ### Padded digits -/

theorem isDigit_of_mem_padded {c : Char} {width n : Nat} (h : c ∈ (Text.padded width n).toList) :
    c.isDigit = true := by
  rw [Text.padded, String.toList_ofList, List.leftpad, List.mem_append] at h
  rcases h with h | h
  · rw [List.eq_of_mem_replicate h]; rfl
  · exact Text.isDigit_of_mem_toDigits h

@[simp] theorem digitsValue_padded (width n : Nat) :
    Text.digitsValue (Text.padded width n).toList = n := by
  rw [Text.padded, String.toList_ofList, Text.digitsValue_leftpad, Text.digitsValue_toDigits]

theorem length_padded {width n : Nat} (hw : 0 < width) (h : n < Nat.pow 10 width) :
    (Text.padded width n).toList.length = width := by
  have hle := (Nat.length_toDigits_le_iff (by decide : 1 < 10) hw).2 h
  rw [Text.padded, String.toList_ofList, List.leftpad, List.length_append, List.length_replicate]
  omega

theorem padded_ne_nil {width : Nat} (hw : 0 < width) (n : Nat) :
    (Text.padded width n).toList ≠ [] := by
  intro h
  have hlen := congrArg List.length h
  rw [Text.padded, String.toList_ofList, List.leftpad, List.length_append, List.length_replicate,
    List.length_nil] at hlen
  omega

/-! ### Single numbers -/

theorem trimStart_of_digit {ds : List Char} (hne : ds ≠ []) (hd : ∀ c ∈ ds, c.isDigit = true)
    (rest : List Char) : Text.trimStart (ds ++ rest) = ds ++ rest := by
  cases ds with
  | nil => exact absurd rfl hne
  | cons c ds =>
    have hc := Text.isBlank_of_isDigit (hd c List.mem_cons_self)
    rw [Text.trimStart, List.cons_append, List.dropWhile_cons, if_neg (by simp [hc])]

theorem takeWhile_digits (ds rest : List Char) (hd : ∀ c ∈ ds, c.isDigit = true)
    (hr : ∀ c, rest.head? = some c → c.isDigit = false) :
    (ds ++ rest).takeWhile Char.isDigit = ds := by
  rw [List.takeWhile_append_of_pos hd]
  cases rest with
  | nil => simp
  | cons c rest => rw [List.takeWhile_cons, if_neg (by simp [hr c rfl]), List.append_nil]

/-- So many digits are read as their number; what follows them is left. -/
theorem readNumber?_append {ds : List Char} {width : Nat} (hw : 0 < width)
    (hlen : ds.length = width) (hd : ∀ c ∈ ds, c.isDigit = true) (rest : List Char) :
    readNumber? width (ds ++ rest) = some (Text.digitsValue ds, rest) := by
  have hne : ds ≠ [] := by
    rintro rfl
    rw [List.length_nil] at hlen
    omega
  have htake : ((ds ++ rest).take width).takeWhile Char.isDigit = ds := by
    rw [← hlen, List.take_left]
    have h := takeWhile_digits ds [] hd (by simp)
    rwa [List.append_nil] at h
  have hdrop : (ds ++ rest).drop ds.length = rest := List.drop_left
  rw [readNumber?, trimStart_of_digit hne hd]
  simp only [htake, hdrop, List.isEmpty_iff]
  rw [if_neg hne]

theorem readNumber?_padded {width n : Nat} (hw : 0 < width) (h : n < Nat.pow 10 width)
    (rest : List Char) :
    readNumber? width ((Text.padded width n).toList ++ rest) = some (n, rest) := by
  rw [readNumber?_append hw (length_padded hw h) (fun _ => isDigit_of_mem_padded),
    digitsValue_padded]

/-! ### Years -/

/-- A sign is read with all the digits behind it. -/
theorem readYear?_signed (n : Nat) {rest : List Char}
    (hr : ∀ c, rest.head? = some c → c.isDigit = false) :
    readYear? ('+' :: ((Text.padded 4 n).toList ++ rest)) = some (Int.ofNat n, rest) ∧
      readYear? ('-' :: ((Text.padded 4 n).toList ++ rest)) = some (-Int.ofNat n, rest) := by
  have htake := takeWhile_digits (Text.padded 4 n).toList rest (fun _ => isDigit_of_mem_padded) hr
  have hdrop : ((Text.padded 4 n).toList ++ rest).drop (Text.padded 4 n).toList.length = rest :=
    List.drop_left
  have hne : (Text.padded 4 n).toList ≠ [] := padded_ne_nil (by decide) n
  have hplus : Text.trimStart ('+' :: ((Text.padded 4 n).toList ++ rest))
      = '+' :: ((Text.padded 4 n).toList ++ rest) := rfl
  have hminus : Text.trimStart ('-' :: ((Text.padded 4 n).toList ++ rest))
      = '-' :: ((Text.padded 4 n).toList ++ rest) := rfl
  constructor
  · simp only [readYear?, hplus, htake, hdrop, List.isEmpty_iff, if_neg hne, Option.map_some,
      digitsValue_padded]
  · simp only [readYear?, hminus, htake, hdrop, List.isEmpty_iff, if_neg hne, Option.map_some,
      digitsValue_padded]

theorem readYear?_unsigned {n : Nat} (h : n < Nat.pow 10 4) (rest : List Char) :
    readYear? ((Text.padded 4 n).toList ++ rest) = some (Int.ofNat n, rest) := by
  have hne : (Text.padded 4 n).toList ≠ [] := padded_ne_nil (by decide) n
  have htrim := trimStart_of_digit hne (fun _ => isDigit_of_mem_padded) rest
  have hnum := readNumber?_padded (by decide) h rest
  cases hp : (Text.padded 4 n).toList with
  | nil => exact absurd hp hne
  | cons c ds =>
    have hc : c.isDigit = true := isDigit_of_mem_padded (hp ▸ List.mem_cons_self)
    rw [hp, List.cons_append] at htrim hnum
    rw [List.cons_append, readYear?, htrim]
    split
    · next heq => exact absurd (List.cons.inj heq).1 (Text.ne_of_isDigit hc (by decide))
    · next heq => exact absurd (List.cons.inj heq).1 (Text.ne_of_isDigit hc (by decide))
    · rw [hnum, Option.map_some]

/-- A year is read from its written form, whatever follows that is not a digit. -/
theorem readYear?_yearText (year : Int) (rest : List Char)
    (hr : ∀ c, rest.head? = some c → c.isDigit = false) :
    readYear? ((yearText year).toList ++ rest) = some (year, rest) := by
  rw [yearText]
  split
  · next h =>
    simp only [Bool.and_eq_true, decide_eq_true_eq] at h
    have hpow : Nat.pow 10 4 = 10000 := rfl
    rw [readYear?_unsigned (by omega), Int.ofNat_eq_natCast, Int.toNat_of_nonneg h.1]
  · next h =>
    simp only [Bool.and_eq_true, decide_eq_true_eq] at h
    obtain ⟨hplus, hminus⟩ := readYear?_signed year.natAbs hr
    rw [String.toList_append]
    by_cases hneg : year < 0
    · have habs : -Int.ofNat year.natAbs = year := by rw [Int.ofNat_eq_natCast]; omega
      rw [if_pos hneg]
      rw [habs] at hminus
      exact hminus
    · have habs : Int.ofNat year.natAbs = year := by rw [Int.ofNat_eq_natCast]; omega
      rw [if_neg hneg]
      rw [habs] at hplus
      exact hplus

/-! ### Dates -/

/-- A date is read from its written form. -/
theorem readDate?_text (d : Date) : readDate? d.text = some d := by
  obtain ⟨year, month, day, hdate⟩ := d
  obtain ⟨_, hmonth, hday⟩ := month_bounds hdate.2.2.1 hdate.2.2.2
  have hpow : Nat.pow 10 2 = 100 := rfl
  have hm := readNumber?_padded (by decide) (by omega : month < Nat.pow 10 2)
    ('-' :: (Text.padded 2 day).toList)
  have hd := readNumber?_padded (by decide) (by omega : day < Nat.pow 10 2) []
  have hy := readYear?_yearText year
    ('-' :: ((Text.padded 2 month).toList ++ '-' :: (Text.padded 2 day).toList))
    (fun c hc => by cases hc; rfl)
  have hof : Date.of? year month day = some ⟨year, month, day, hdate⟩ := by
    rw [Date.of?, dif_pos hdate]
  have htext : (Date.text ⟨year, month, day, hdate⟩).toList = (yearText year).toList
      ++ '-' :: ((Text.padded 2 month).toList ++ '-' :: (Text.padded 2 day).toList) := by
    simp [Date.text]
  rw [List.append_nil] at hd
  have hpre : readDatePrefix? (Date.text ⟨year, month, day, hdate⟩).toList
      = some (⟨year, month, day, hdate⟩, []) := by
    rw [htext, readDatePrefix?, hy]
    simp only [Option.bind_eq_bind, Option.bind_some, skip?, if_true, hm, hd, hof, Option.pure_def]
  rw [readDate?, hpre]

/-- All digits behind a sign are one year, so that no date begins with them. -/
theorem readDatePrefix?_minus {ds : List Char} (hd : ∀ c ∈ ds, c.isDigit = true) :
    readDatePrefix? ('-' :: ds) = none := by
  have htrim : Text.trimStart ('-' :: ds) = '-' :: ds := rfl
  have htake := takeWhile_digits ds [] hd (by simp)
  rw [List.append_nil] at htake
  rw [readDatePrefix?, readYear?, htrim]
  cases hempty : ds.isEmpty with
  | true => simp [htake, hempty]
  | false => simp [htake, hempty, skip?]

end Columnar.Calendar
