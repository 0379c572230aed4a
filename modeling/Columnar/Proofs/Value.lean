import Columnar.Proofs.Calendar.DateText
import Columnar.Value

/-!
The literals of values.

Texts and dates stand in quotes, also inside arrays (`quotedTexts`). All other literals are words
and numerals, made of a few characters (`isBareChar`) that mean nothing else in a statement.
-/

namespace Columnar.Value

/-! ### Values inside values -/

/-- What holds of all values but arrays, and of an array if it holds of its items, holds of all. -/
theorem induction {P : Value → Prop} (scalar : ∀ v : Value, v.asArray = none → P v)
    (array : ∀ items : List Value, (∀ v ∈ items, P v) → P (.array items)) (v : Value) : P v := by
  refine @Value.rec P (fun items => ∀ v ∈ items, P v) (scalar .null rfl)
    (fun n => scalar (.int n) rfl) (fun n => scalar (.uint n) rfl) (fun x => scalar (.float x) rfl)
    (fun b => scalar (.bool b) rfl) (fun s => scalar (.text s) rfl) (fun d => scalar (.date d) rfl)
    (fun m => scalar (.moment m) rfl) array ?_ ?_ v
  · simp
  · intro first rest hfirst hrest v hv
    rcases List.mem_cons.1 hv with rfl | hv
    · exact hfirst
    · exact hrest v hv

theorem literals_eq_map : ∀ values : List Value, literals values = values.map literal
  | [] => rfl
  | value :: values => by rw [literals, literals_eq_map values, List.map_cons]

mutual

/-- The texts that stand in quotes in the literal of a value, in their order. -/
def quotedTexts : Value → List String
  | .text s => [s]
  | .date d => [d.text]
  | .array items => allQuotedTexts items
  | _ => []

/-- The texts that stand in quotes in the literals of some values. -/
def allQuotedTexts : List Value → List String
  | [] => []
  | value :: values => quotedTexts value ++ allQuotedTexts values

end

theorem allQuotedTexts_eq_flatMap : ∀ values : List Value,
    allQuotedTexts values = values.flatMap quotedTexts
  | [] => rfl
  | value :: values => by
    rw [allQuotedTexts, allQuotedTexts_eq_flatMap values, List.flatMap_cons]

/-! ### Characters without quotes -/

/-- The characters of words and numerals. -/
def isBareChar (c : Char) : Bool :=
  c.isAlphanum || c = '-' || c = '+' || c = '.'

theorem isBareChar_of_isDigit {c : Char} (h : c.isDigit = true) : isBareChar c = true := by
  simp [isBareChar, Char.isAlphanum, h]

theorem isBareChar_of_mem_toString {n : Int} {c : Char} (h : c ∈ (toString n).toList) :
    isBareChar c = true := by
  rcases Text.mem_toList_toString h with hd | rfl
  · exact isBareChar_of_isDigit hd
  · rfl

theorem isBareChar_of_mem_boolText {b : Bool} {c : Char} (h : c ∈ (boolText b).toList) :
    isBareChar c = true := by
  cases b <;> exact List.all_eq_true.1 (by decide) c h

/-- The digits of a number have zeros around them, and at most one point among them. -/
theorem isBareChar_of_mem_positional {digits : List Char} {point : Int} {c : Char}
    (hdigits : ∀ d ∈ digits, d.isDigit = true) (h : c ∈ Decimal.positional digits point []) :
    isBareChar c = true := by
  have hmark : c = '0' ∨ c = '.' ∨ c ∈ digits := by
    unfold Decimal.positional at h
    split at h
    · exact .inl (by simpa using h)
    split at h
    · simp only [List.cons_append, List.mem_cons, List.mem_append, List.mem_replicate] at h
      rcases h with h | h | ⟨-, h⟩ | h
      · exact .inl h
      · exact .inr (.inl h)
      · exact .inl h
      · exact .inr (.inr h)
    split at h
    · simp only [List.append_nil, List.mem_append, List.mem_replicate] at h
      rcases h with h | ⟨-, h⟩
      · exact .inr (.inr h)
      · exact .inl h
    · rw [List.mem_append, List.mem_cons] at h
      rcases h with h | h | h
      · exact .inr (.inr (List.mem_of_mem_take h))
      · exact .inr (.inl h)
      · exact .inr (.inr (List.mem_of_mem_drop h))
  rcases hmark with rfl | rfl | hd
  · rfl
  · rfl
  · exact isBareChar_of_isDigit (hdigits c hd)

theorem isBareChar_of_mem_signed {negative : Bool} {s : List Char} {c : Char}
    (hs : ∀ c ∈ s, isBareChar c = true) (h : c ∈ (Decimal.signed negative s).toList) :
    isBareChar c = true := by
  rw [Decimal.signed, String.toList_ofList] at h
  split at h
  · rcases List.mem_cons.1 h with rfl | h
    · rfl
    · exact hs c h
  · exact hs c h

/-- The digits of a number are digits. -/
theorem isDigit_of_ofFloat {x : Float} {negative : Bool} {digits : List Char} {point : Int}
    (h : Decimal.Parts.ofFloat x = .finite negative digits point) :
    ∀ c ∈ digits, c.isDigit = true := by
  unfold Decimal.Parts.ofFloat at h
  simp only at h
  split at h
  · exact absurd h (by simp)
  split at h
  · exact absurd h (by simp)
  split at h
  · obtain ⟨-, rfl, -⟩ := Decimal.Parts.finite.inj h
    simp
  · obtain ⟨-, rfl, -⟩ := Decimal.Parts.finite.inj h
    intro c hc
    rw [Decimal.significantDigits, List.mem_reverse] at hc
    exact Text.isDigit_of_mem_toDigits (List.mem_reverse.1 ((List.dropWhile_sublist _).subset hc))

theorem isBareChar_of_mem_floatText {x : Float} {c : Char} (h : c ∈ (floatText x).toList) :
    isBareChar c = true := by
  rw [floatText] at h
  split at h
  · exact List.all_eq_true.1 (by decide) c h
  rw [Decimal.plain] at h
  split at h
  · exact List.all_eq_true.1 (by decide) c h
  · exact isBareChar_of_mem_signed (List.all_eq_true.1 (by decide)) h
  · next hparts =>
    exact isBareChar_of_mem_signed
      (fun d hd => isBareChar_of_mem_positional (isDigit_of_ofFloat hparts) hd) h

end Columnar.Value
