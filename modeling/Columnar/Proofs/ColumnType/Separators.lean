import Columnar.Proofs.ColumnType.RoundTrip
import Columnar.Proofs.Value

/-!
Tabs and newlines in written fields.

Most types escape or quote the texts of their values, or write numerals, and then no tab and no
newline is left. The exception are decimals inside arrays: these stand there as they are, and any
text passes for a decimal. So the separators of a written field are exactly those of the decimals in
its arrays (`separators_encode`), which `bareInField` lists.
-/

namespace Columnar.ColumnType

variable {t : ColumnType} {v : Value} {text : String}

/-! ### Separators of texts -/

/-- The characters of a text that end a field or a line, in their order. -/
def separators (s : String) : List Char :=
  s.toList.filter isSeparator

theorem separators_eq_nil_iff {s : String} :
    separators s = [] ↔ ∀ c ∈ s.toList, isSeparator c = false := by
  simp [separators, List.filter_eq_nil_iff]

theorem separators_append (s s' : String) :
    separators (s ++ s') = separators s ++ separators s' := by
  simp [separators]

theorem separators_escape (s : String) : separators (Tsv.escape s) = [] := by
  rw [separators_eq_nil_iff, Tsv.toList_escape]
  exact inLine_escapeChars s.toList

theorem separators_quote (s : String) : separators (Tsv.quote s) = [] :=
  separators_eq_nil_iff.2 (inLine_quote s)

theorem separators_intercalate {sep : String} (h : separators sep = []) :
    ∀ texts : List String, separators (sep.intercalate texts) = texts.flatMap separators
  | [] => rfl
  | [text] => by simp
  | text :: next :: rest => by
    rw [String.intercalate_cons_cons, separators_append, separators_append, h, List.append_nil,
      separators_intercalate h (next :: rest)]
    rfl

theorem separators_arrayText (texts : List String) :
    separators (arrayText texts) = texts.flatMap separators := by
  have hopen : separators "[" = [] := rfl
  have hclose : separators "]" = [] := rfl
  rw [arrayText, separators_append, separators_append, hopen, hclose,
    separators_intercalate rfl, List.nil_append, List.append_nil]

/-! ### Separators of numerals -/

theorem isSeparator_of_isBareChar {c : Char} (h : Value.isBareChar c = true) :
    isSeparator c = false := by
  cases hc : isSeparator c with
  | false => rfl
  | true =>
    simp only [isSeparator, Bool.or_eq_true, decide_eq_true_eq] at hc
    rcases hc with rfl | rfl <;> exact absurd h (by decide)

theorem separators_of_isBareChar {s : String} (h : ∀ c ∈ s.toList, Value.isBareChar c = true) :
    separators s = [] :=
  separators_eq_nil_iff.2 fun c hc => isSeparator_of_isBareChar (h c hc)

theorem separators_toString (n : Int) : separators (toString n) = [] :=
  separators_of_isBareChar fun _ => Value.isBareChar_of_mem_toString

theorem separators_boolText (b : Bool) : separators (Value.boolText b) = [] :=
  separators_of_isBareChar fun _ => Value.isBareChar_of_mem_boolText

theorem separators_floatText (x : Float) : separators (Value.floatText x) = [] :=
  separators_of_isBareChar fun _ => Value.isBareChar_of_mem_floatText

/-! ### Texts that stand as they are -/

/-- The texts that stand as they are in an element of an array: those of decimals. -/
def bareInElement : ColumnType → Value → List String
  | nullable inner, v | lowCardinality inner, v => inner.bareInElement v
  | array item, .array items => items.flatMap fun v => item.bareInElement v
  | decimal .., .text s => [s]
  | _, _ => []

/-- The texts that stand as they are in a field of a line: those of decimals in arrays. -/
def bareInField : ColumnType → Value → List String
  | nullable inner, v | lowCardinality inner, v => inner.bareInField v
  | array item, .array items => (array item).bareInElement (.array items)
  | _, _ => []

@[simp] theorem bareInElement_null (t : ColumnType) : t.bareInElement .null = [] := by
  induction t with
  | nullable inner ih => rw [bareInElement, ih]
  | lowCardinality inner ih => rw [bareInElement, ih]
  | _ => rfl

@[simp] theorem bareInField_null (t : ColumnType) : t.bareInField .null = [] := by
  induction t with
  | nullable inner ih => rw [bareInField, ih]
  | lowCardinality inner ih => rw [bareInField, ih]
  | _ => rfl

theorem bareInField_plain (ht : t.isPlain = true) (v : Value) : t.bareInField v = [] := by
  cases t <;> first | rfl | exact absurd ht Bool.false_ne_true

theorem bareInElement_of_isQuotedInArrays (ht : t.isQuotedInArrays = true) (v : Value) :
    t.bareInElement v = [] := by
  cases t <;> first | rfl | exact absurd ht Bool.false_ne_true

/-! ### Written values -/

theorem separators_intText {n : Int} (h : t.intText v n = .ok text) : separators text = [] := by
  unfold intText at h
  split at h
  · obtain ⟨_, -, rfl⟩ := map_eq_ok h
    exact separators_toString n
  · exact absurd h (by simp)

/-- A text that stands bare in arrays has no separators, unless it is the text of a decimal. -/
theorem separators_scalarText (ht : t.isQuotedInArrays = false) (h : t.scalarText v = .ok text) :
    separators text = (t.bareInElement v).flatMap separators := by
  cases t <;> simp only [isQuotedInArrays, Bool.true_eq_false] at ht <;> cases v <;>
    simp only [scalarText, reduceCtorEq] at h
  case int.int | int.uint | uint.int | uint.uint => exact separators_intText h
  case decimal.text precision scale s =>
    obtain rfl := Except.ok.inj h
    simp [bareInElement]
  all_goals obtain rfl := Except.ok.inj h
  case float.float | decimal.float => exact separators_floatText _
  case float.int n => exact separators_toString n.toInt
  case float.uint n => exact separators_toString (n.toNat : Int)
  case bool.bool b => exact separators_boolText b
  case dateTime.moment zone m => exact separators_toString m.seconds
  case dateTime.date zone d => exact separators_toString d.midnight.seconds

theorem separators_scalarElement (h : t.scalarElement v = .ok text) :
    separators text = (t.bareInElement v).flatMap separators := by
  obtain ⟨bare, hbare, rfl⟩ := map_eq_ok h
  cases hq : t.isQuotedInArrays with
  | true =>
    rw [if_pos rfl, separators_quote, bareInElement_of_isQuotedInArrays hq, List.flatMap_nil]
  | false =>
    rw [if_neg Bool.false_ne_true, separators_scalarText hq hbare]

/-- The separators of an array are those of its items. -/
theorem separators_encodeElement_array {item : ColumnType} {items : List Value}
    (hitem : ∀ v text, item.encodeElement v = .ok text →
      separators text = (item.bareInElement v).flatMap separators)
    (h : (array item).encodeElement (.array items) = .ok text) :
    separators text = ((array item).bareInElement (.array items)).flatMap separators := by
  rw [encodeElement] at h
  obtain ⟨texts, htexts, h⟩ := bind_eq_ok h
  obtain rfl := Except.ok.inj h
  rw [separators_arrayText, bareInElement, List.flatMap_assoc]
  exact flatMap_eq_of_forall₂ hitem (mapM_eq_ok_iff.1 htexts)

/-- The separators of a written element are those of the texts that stand in it as they are. -/
theorem separators_encodeElement (h : t.encodeElement v = .ok text) :
    separators text = (t.bareInElement v).flatMap separators := by
  induction t generalizing v text with
  | nullable inner ih =>
    rw [encodeElement] at h
    split at h
    · next hnull =>
      obtain rfl := Except.ok.inj h
      rw [eq_null_of_isNull hnull, bareInElement_null]
      rfl
    · exact ih h
  | lowCardinality inner ih => exact ih h
  | array item ih =>
    cases v with
    | array items => exact separators_encodeElement_array (fun _ _ => ih) h
    | _ => exact separators_scalarElement h
  | _ => exact separators_scalarElement h

/-- The separators of a written field are those of the texts that stand in it as they are. -/
theorem separators_encode (h : t.encode v = .ok text) :
    separators text = (t.bareInField v).flatMap separators := by
  induction t generalizing v text with
  | nullable inner ih =>
    rw [encode] at h
    split at h
    · next hnull =>
      obtain rfl := Except.ok.inj h
      rw [eq_null_of_isNull hnull, bareInField_null]
      rfl
    · exact ih h
  | lowCardinality inner ih => exact ih h
  | array item ih =>
    cases v with
    | array items => exact separators_encodeElement h
    | _ =>
      obtain ⟨_, hscalar, -⟩ := map_eq_ok h
      exact absurd hscalar (by simp [scalarText])
  | _ =>
    obtain ⟨bare, -, rfl⟩ := map_eq_ok h
    rw [separators_escape, bareInField_plain rfl, List.flatMap_nil]

end Columnar.ColumnType
