import Columnar.ColumnType.Encoder
import Columnar.Proofs.Calendar.DateText
import Columnar.Proofs.Result
import Columnar.Proofs.Tsv.ArrayLiteral

/-!
Values that fit a type, and their single texts.

`Fits` says by recursion on the type which values its columns carry unchanged. A fitting value of a
type that is neither a wrapper nor an array has a bare text that the type reads back
(`exists_scalarText`); where the type does not quote its elements, that text is a word of array
literals.
-/

namespace Columnar.ColumnType

open Tsv.ArrayLiteral (isWordChar Written)

/-! ### The values of a type -/

/-- A numeral without its sign. -/
def withoutSign : List Char → List Char
  | '+' :: rest | '-' :: rest => rest
  | s => s

/-- Digits with at most one point among them, behind an optional sign. -/
def isNumeral (s : String) : Bool :=
  let digits := withoutSign s.toList
  digits.any Char.isDigit && digits.all (fun c => c.isDigit || c = '.') && digits.count '.' ≤ 1

/-- The values that a column of the type carries unchanged. Floating-point numbers are left out. -/
def Fits : ColumnType → Value → Prop
  | int w, .int n => -Int.pow 2 (w.bits - 1) ≤ n.toInt ∧ n.toInt < Int.pow 2 (w.bits - 1)
  | uint w, .uint n => n.toNat < Nat.pow 2 w.bits
  | bool, .bool _ => True
  | string, .text _ | uuid, .text _ | other _, .text _ => True
  | fixedString _, .text s => s.toList.getLast? ≠ some '\x00'
  | decimal .., .text s => isNumeral s = true
  | enum _ entries, .text s => ∃ e ∈ entries, e.name = s
  | date, .date _ => True
  | dateTime _, .moment m => 0 ≤ m.seconds ∧ m.nanoseconds = 0
  | nullable inner, v => v = .null ∨ Fits inner v
  | lowCardinality inner, v => Fits inner v
  | array item, .array items => ∀ v ∈ items, Fits item v
  | _, _ => False

/-- Types that wrap no other type. -/
def isPlain : ColumnType → Bool
  | nullable _ | lowCardinality _ | array _ => false
  | _ => true

/-! ### Words -/

/-- The texts that stand bare in array literals: words other than the one for a missing value. -/
structure IsWord (text : String) : Prop where
  ne_nil : text.toList ≠ []
  isWordChar : ∀ c ∈ text.toList, isWordChar c = true
  ne_null : text ≠ "NULL"

theorem IsWord.written {text : String} (h : IsWord text) : Written (.bare text) text.toList :=
  Tsv.ArrayLiteral.written_word h.ne_nil h.isWordChar

theorem isWordChar_of_isDigit {c : Char} (h : c.isDigit = true) : isWordChar c = true := by
  have hne : ∀ d : Char, d.isDigit = false → c ≠ d := fun d hd => Text.ne_of_isDigit h hd
  simp [Tsv.ArrayLiteral.isWordChar, Tsv.ArrayLiteral.isMark, Text.isBlank_of_isDigit h,
    hne '[' rfl, hne '(' rfl, hne ']' rfl, hne ')' rfl, hne '\'' rfl, hne ',' rfl]

/-- A text of digits, signs and points is a word. -/
theorem isWord_of_numeralChars {text : String} (hne : text.toList ≠ [])
    (h : ∀ c ∈ text.toList, c.isDigit = true ∨ c = '-' ∨ c = '+' ∨ c = '.') : IsWord text where
  ne_nil := hne
  isWordChar c hc := by
    rcases h c hc with hd | rfl | rfl | rfl
    · exact isWordChar_of_isDigit hd
    · decide
    · decide
    · decide
  ne_null := by
    rintro rfl
    rcases h 'N' (by decide) with hd | hd | hd | hd <;> exact absurd hd (by decide)

theorem isWord_toString (n : Int) : IsWord (toString n) :=
  isWord_of_numeralChars (Text.toList_toString_ne_nil n) fun _ hc =>
    (Text.mem_toList_toString hc).imp_right .inl

theorem isWord_boolText (b : Bool) : IsWord (Value.boolText b) := by
  cases b <;> exact ⟨by decide, List.all_eq_true.1 (by decide), by decide⟩

theorem mem_withoutSign {s : List Char} {c : Char} (h : c ∈ s) :
    c ∈ withoutSign s ∨ c = '-' ∨ c = '+' := by
  unfold withoutSign
  split
  · exact (List.mem_cons.1 h).symm.imp_right .inr
  · exact (List.mem_cons.1 h).symm.imp_right .inl
  · exact .inl h

theorem isWord_of_isNumeral {s : String} (h : isNumeral s = true) : IsWord s := by
  simp only [isNumeral, Bool.and_eq_true, List.any_eq_true, List.all_eq_true, Bool.or_eq_true,
    decide_eq_true_eq] at h
  obtain ⟨⟨⟨d, hd, _⟩, hall⟩, _⟩ := h
  have hne : s.toList ≠ [] := by
    intro hs
    rw [hs] at hd
    exact absurd hd (by simp [withoutSign])
  refine isWord_of_numeralChars hne fun c hc => ?_
  rcases mem_withoutSign hc with hc | hc | hc
  · exact (hall c hc).imp_right fun h => .inr (.inr h)
  · exact .inr (.inl hc)
  · exact .inr (.inr (.inl hc))

/-! ### Reading the text of a value -/

theorem ofInt?_int {w : IntWidth} {n : Int} (h1 : -Int.pow 2 (w.bits - 1) ≤ n)
    (h2 : n < Int.pow 2 (w.bits - 1)) : (int w).ofInt? n = some (.ok (.int (Int64.ofInt n))) := by
  rw [ofInt?, intBounds?, Option.map_some]
  simp only [Bool.or_eq_true, decide_eq_true_eq]
  rw [if_neg (by omega)]
  rintro width ⟨⟩

theorem ofInt?_uint {w : IntWidth} {n : Nat} (h : n < Nat.pow 2 w.bits) :
    (uint w).ofInt? n = some (.ok (.uint (UInt64.ofNat n))) := by
  have hpow : ((Nat.pow 2 w.bits : Nat) : Int) = Int.pow 2 w.bits := by cases w <;> rfl
  rw [ofInt?, intBounds?, Option.map_some]
  simp only [Bool.or_eq_true, decide_eq_true_eq]
  rw [if_neg (by omega), Int.toNat_natCast]

/-- An integer that its type holds is read from its digits. -/
theorem readInt_toString {t : ColumnType} {n : Int} {v : Value} (ht : t.ofInt? n = some (.ok v))
    (h1 : -18446744073709551616 ≤ n) (h2 : n ≤ 18446744073709551616) :
    t.readInt (toString n) = .ok v := by
  have hpow : Int.pow 2 127 = 170141183460469231731687303715884105728 := rfl
  rw [readInt, Text.trim_toString, Text.readInt?_toString (by omega) (by omega)]
  simp only [ht, Option.getD_some]

theorem scalarText_int {w : IntWidth} {n : Int64} (h : Fits (int w) (.int n)) :
    (int w).scalarText (.int n) = .ok (toString n.toInt) := by
  have ht := ofInt?_int h.1 h.2
  rw [Int64.ofInt_toInt] at ht
  rw [scalarText, intText, ht]
  rfl

theorem scalarText_uint {w : IntWidth} {n : UInt64} (h : Fits (uint w) (.uint n)) :
    (uint w).scalarText (.uint n) = .ok (toString (n.toNat : Int)) := by
  have ht := ofInt?_uint h
  rw [UInt64.ofNat_toNat] at ht
  rw [scalarText, intText, ht]
  rfl

theorem readText_int [Clocks] {w : IntWidth} {n : Int64} (h : Fits (int w) (.int n))
    (zone : Calendar.Zone) : (int w).readText zone (toString n.toInt) = .ok (.int n) := by
  have ht := ofInt?_int h.1 h.2
  have hlow := Int64.le_toInt n
  have hhigh := Int64.toInt_lt n
  rw [Int64.ofInt_toInt] at ht
  exact readInt_toString ht (by omega) (by omega)

theorem readText_uint [Clocks] {w : IntWidth} {n : UInt64} (h : Fits (uint w) (.uint n))
    (zone : Calendar.Zone) :
    (uint w).readText zone (toString (n.toNat : Int)) = .ok (.uint n) := by
  have ht := ofInt?_uint h
  have hhigh := UInt64.toNat_lt n
  rw [UInt64.ofNat_toNat] at ht
  exact readInt_toString ht (by omega) (by omega)

theorem readText_boolText [Clocks] (b : Bool) (zone : Calendar.Zone) :
    bool.readText zone (Value.boolText b) = .ok (.bool b) := by
  cases b <;> rfl

theorem withoutPadding_eq_self {s : String} (h : s.toList.getLast? ≠ some '\x00') :
    withoutPadding s = s := by
  have hdrop : s.toList.reverse.dropWhile (· = '\x00') = s.toList.reverse := by
    cases hr : s.toList.reverse with
    | nil => rfl
    | cons c rest =>
      have hlast : s.toList.getLast? = some c := by
        rw [← List.reverse_reverse s.toList, hr, List.reverse_cons, List.getLast?_concat]
      rw [List.dropWhile_cons, if_neg]
      rintro hc
      rw [hlast, of_decide_eq_true hc] at h
      exact h rfl
  rw [withoutPadding, hdrop, List.reverse_reverse, String.ofList_toList]

theorem lists_eq_true {entries : List EnumEntry} {s : String} (h : ∃ e ∈ entries, e.name = s) :
    lists entries s = true := by
  obtain ⟨e, he, hs⟩ := h
  exact List.any_eq_true.2 ⟨e, he, decide_eq_true hs⟩

/-- No date is written as the zero date. -/
theorem text_ne_zeroDate (d : Calendar.Date) : d.text ≠ zeroDate := by
  intro h
  have hread := Calendar.readDate?_text d
  have hzero : Calendar.readDate? zeroDate = none := by decide +kernel
  rw [h, hzero] at hread
  exact absurd hread (by simp)

theorem readText_dateText [Clocks] (d : Calendar.Date) (zone : Calendar.Zone) :
    date.readText zone d.text = .ok (.date d) := by
  have hread : readDate? d.text = some d := by
    rw [readDate?, if_neg (text_ne_zeroDate d), Calendar.readDate?_text]
  rw [readText, hread]
  rfl

/-- A point in time of whole seconds, not before the epoch, is read from its seconds. -/
theorem readText_seconds [Clocks] {m : Calendar.Moment}
    (h : 0 ≤ m.seconds ∧ m.nanoseconds = 0) (own : Option Calendar.Zone) (zone : Calendar.Zone) :
    (dateTime own).readText zone (toString m.seconds) = .ok (.moment m) := by
  obtain ⟨seconds, nanoseconds, hm⟩ := m
  obtain ⟨hs, rfl⟩ := h
  have hlast : seconds ≤ 8210266876799 := hm.2.1
  have hcast : ((seconds.toNat : Nat) : Int) = seconds := Int.toNat_of_nonneg hs
  have hpow : Nat.pow 2 63 = 9223372036854775808 := rfl
  have hread : readMoment? (own.getD zone) (toString seconds) = some ⟨seconds, 0, hm⟩ := by
    rw [readMoment?, Text.toList_toString, if_pos hs, Text.readDigits?_toDigits]
    simp only
    rw [if_pos (by omega), Calendar.Moment.of?, dif_pos (hcast.symm ▸ hm)]
    simp only [hcast]
  rw [readText]
  simp only [hread]
  rfl

/-! ### Bare texts -/

/-- A fitting value has a text that its type reads back; bare in arrays, the text is a word. -/
theorem exists_scalarText [Clocks] {t : ColumnType} {v : Value} (zone : Calendar.Zone)
    (ht : t.isPlain = true) (h : Fits t v) :
    ∃ text, t.scalarText v = .ok text ∧ t.readText zone text = .ok v ∧ v.isNull = false ∧
      (t.isQuotedInArrays = false → IsWord text) := by
  cases t <;> cases v <;> simp only [Fits] at h <;>
    simp only [isPlain, Bool.false_eq_true] at ht
  case int.int w n =>
    exact ⟨_, scalarText_int h, readText_int h zone, rfl, fun _ => isWord_toString _⟩
  case uint.uint w n =>
    exact ⟨_, scalarText_uint h, readText_uint h zone, rfl, fun _ => isWord_toString _⟩
  case bool.bool b => exact ⟨_, rfl, readText_boolText b zone, rfl, fun _ => isWord_boolText b⟩
  case string.text s => exact ⟨s, rfl, rfl, rfl, nofun⟩
  case uuid.text s => exact ⟨s, rfl, rfl, rfl, nofun⟩
  case other.text name s => exact ⟨s, rfl, rfl, rfl, nofun⟩
  case fixedString.text length s =>
    refine ⟨s, rfl, ?_, rfl, nofun⟩
    rw [readText, withoutPadding_eq_self h]
  case decimal.text precision scale s => exact ⟨s, rfl, rfl, rfl, fun _ => isWord_of_isNumeral h⟩
  case enum.text width entries s =>
    have hl := lists_eq_true h
    refine ⟨s, ?_, ?_, rfl, nofun⟩
    · simp only [scalarText, hl, if_true]
    · simp only [readText, hl, if_true]
  case date.date d =>
    exact ⟨d.text, rfl, readText_dateText d zone, rfl, nofun⟩
  case dateTime.moment own m =>
    exact ⟨_, rfl, readText_seconds h own zone, rfl, fun _ => isWord_toString _⟩

end Columnar.ColumnType
