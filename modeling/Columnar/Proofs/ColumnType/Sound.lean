import Columnar.Proofs.ColumnType.RoundTrip

/-!
Types as sets of values.

`Inhabits` says by recursion on the type which values its columns hold. What is read from any text
at all is such a value (`inhabits_of_decode`), and every such value can be written
(`exists_encode_of_inhabits`), so that whatever was read can be written again. Both go by induction
on the type, for elements of arrays first.
-/

namespace Columnar.ColumnType

variable {zone : Calendar.Zone} {t : ColumnType} {v : Value}

/-! ### The values of a type -/

/-- The values that a column of the type holds. -/
def Inhabits : ColumnType → Value → Prop
  | int w, .int n => -Int.pow 2 (w.bits - 1) ≤ n.toInt ∧ n.toInt < Int.pow 2 (w.bits - 1)
  | uint w, .uint n => n.toNat < Nat.pow 2 w.bits
  | float _, .float _ | bool, .bool _ | date, .date _ | dateTime _, .moment _ => True
  | string, .text _ | fixedString _, .text _ | uuid, .text _ | decimal .., .text _
  | other _, .text _ => True
  | enum _ entries, .text s => ∃ e ∈ entries, e.name = s
  | nullable inner, v => v = .null ∨ Inhabits inner v
  | lowCardinality inner, v => Inhabits inner v
  | array item, .array items => ∀ v ∈ items, Inhabits item v
  | _, _ => False

theorem inhabits_int_iff {w : IntWidth} {n : Int64} : Inhabits (int w) (.int n) ↔
    -Int.pow 2 (w.bits - 1) ≤ n.toInt ∧ n.toInt < Int.pow 2 (w.bits - 1) := .rfl

theorem inhabits_uint_iff {w : IntWidth} {n : UInt64} :
    Inhabits (uint w) (.uint n) ↔ n.toNat < Nat.pow 2 w.bits := .rfl

theorem inhabits_array_iff {item : ColumnType} {items : List Value} :
    Inhabits (array item) (.array items) ↔ ∀ v ∈ items, Inhabits item v := .rfl

/-- Only nullable types hold no value, behind hints too. -/
theorem inhabits_null_iff : Inhabits t .null ↔ t.isNullable = true := by
  induction t with
  | nullable inner ih => simp [Inhabits, isNullable]
  | lowCardinality inner ih => rw [Inhabits, isNullable, ih]
  | _ => simp [Inhabits, isNullable]

/-- A value of a nullable type that is there is one of the type inside. -/
theorem Inhabits.inner {inner : ColumnType} (h : Inhabits (nullable inner) v)
    (hv : v.isNull = false) : Inhabits inner v :=
  h.resolve_left fun hn => by simp [hn, Value.isNull] at hv

/-! ### Reading -/

theorem inhabits_int {w : IntWidth} {n : Int} (h1 : -Int.pow 2 (w.bits - 1) ≤ n)
    (h2 : n ≤ Int.pow 2 (w.bits - 1) - 1) : Inhabits (int w) (.int (Int64.ofInt n)) := by
  have hword : Int.pow 2 (w.bits - 1) ≤ 2 ^ 63 := by cases w <;> decide
  rw [inhabits_int_iff, Int64.toInt_ofInt_of_le (by omega) (by omega)]
  omega

theorem inhabits_uint {w : IntWidth} {n : Int} (h1 : 0 ≤ n) (h2 : n ≤ Int.pow 2 w.bits - 1) :
    Inhabits (uint w) (.uint (UInt64.ofNat n.toNat)) := by
  have hpow : Int.pow 2 w.bits = (Nat.pow 2 w.bits : Nat) := by cases w <;> rfl
  have hword : Nat.pow 2 w.bits ≤ UInt64.size := by cases w <;> decide
  rw [inhabits_uint_iff, UInt64.toNat_ofNat_of_lt' (by omega)]
  omega

/-- An integer that its type takes is within the bounds of the type. -/
theorem inhabits_of_ofInt? {n : Int} (h : t.ofInt? n = some (.ok v)) : Inhabits t v := by
  obtain ⟨⟨least, greatest⟩, hbounds, h⟩ := Option.map_eq_some_iff.1 h
  dsimp only at h
  split at h
  · exact absurd h (by simp)
  next hin =>
  rw [Bool.or_eq_true, decide_eq_true_eq, decide_eq_true_eq, not_or] at hin
  cases t with
  | int w =>
    obtain ⟨rfl, rfl⟩ := Prod.mk.inj (Option.some.inj hbounds)
    obtain rfl := Except.ok.inj h
    exact inhabits_int (by omega) (by omega)
  | uint w =>
    obtain ⟨rfl, rfl⟩ := Prod.mk.inj (Option.some.inj hbounds)
    obtain rfl := Except.ok.inj h
    exact inhabits_uint (by omega) (by omega)
  | _ => exact absurd hbounds (by simp [intBounds?])

theorem inhabits_of_readInt {text : String} (h : t.readInt text = .ok v) : Inhabits t v := by
  rw [readInt] at h
  split at h
  · exact absurd h (by simp)
  next n hn =>
  cases hv : t.ofInt? n with
  | none =>
    rw [hv] at h
    exact absurd h (by simp)
  | some read =>
    rw [hv, Option.getD_some] at h
    exact inhabits_of_ofInt? (hv.trans (congrArg some h))

theorem inhabits_of_readText [Clocks] {text : String} (h : t.readText zone text = .ok v) :
    Inhabits t v := by
  induction t generalizing v with
  | int w => exact inhabits_of_readInt h
  | uint w => exact inhabits_of_readInt h
  | float w =>
    obtain ⟨x, -, rfl⟩ := map_eq_ok h
    trivial
  | bool =>
    obtain ⟨b, -, rfl⟩ := map_eq_ok h
    trivial
  | date =>
    obtain ⟨d, -, rfl⟩ := map_eq_ok h
    trivial
  | dateTime own =>
    obtain ⟨m, -, rfl⟩ := map_eq_ok h
    trivial
  | string | fixedString length | uuid | decimal precision scale | other name =>
    obtain rfl := Except.ok.inj h
    trivial
  | enum width entries =>
    rw [readText] at h
    split at h
    · next hlists =>
      obtain rfl := Except.ok.inj h
      obtain ⟨e, he, hname⟩ := List.any_eq_true.1 hlists
      exact ⟨e, he, of_decide_eq_true hname⟩
    · exact absurd h (by simp)
  | nullable inner ih => exact .inr (ih h)
  | lowCardinality inner ih => exact ih h
  | array item ih => exact absurd h (by simp [readText])

/-- An item of an array is read as a value of its type. -/
theorem inhabits_of_decodeElement [Clocks] {e : Tsv.Element} (h : t.decodeElement zone e = .ok v) :
    Inhabits t v := by
  induction t generalizing v e with
  | nullable inner ih =>
    rw [decodeElement] at h
    split at h
    · exact .inl (Except.ok.inj h).symm
    · exact .inr (ih h)
  | lowCardinality inner ih => exact ih (by rwa [decodeElement] at h)
  | array item ih =>
    cases e with
    | quoted text => exact absurd h (by simp [decodeElement])
    | bare text =>
      rw [decodeElement] at h
      obtain ⟨elements, -, h⟩ := bind_eq_ok h
      obtain ⟨items, hitems, h⟩ := bind_eq_ok h
      obtain rfl := Except.ok.inj h
      refine forall_mem_of_forall₂ ?_ (mapM_eq_ok_iff.1 hitems)
      exact fun _ _ hv => ih hv
  | _ => cases e <;> exact inhabits_of_readText h

/-- A field is read as a value of its type, whatever its text is. -/
theorem inhabits_of_decode [Clocks] {field : String} (h : t.decode zone field = .ok v) :
    Inhabits t v := by
  induction t generalizing v with
  | nullable inner ih =>
    rw [decode] at h
    split at h
    · exact .inl (Except.ok.inj h).symm
    · exact .inr (ih h)
  | lowCardinality inner ih => exact ih (by rwa [decode] at h)
  | array item ih =>
    rw [decode] at h
    obtain ⟨elements, -, h⟩ := bind_eq_ok h
    obtain ⟨items, hitems, h⟩ := bind_eq_ok h
    obtain rfl := Except.ok.inj h
    refine forall_mem_of_forall₂ ?_ (mapM_eq_ok_iff.1 hitems)
    exact fun _ _ hv => inhabits_of_decodeElement hv
  | _ =>
    obtain ⟨text, -, h⟩ := bind_eq_ok h
    exact inhabits_of_readText h

/-! ### Writing -/

/-- A value of a plain type has a text. -/
theorem exists_scalarText_of_inhabits (ht : t.isPlain = true) (h : Inhabits t v) :
    ∃ text, t.scalarText v = .ok text := by
  cases t <;> cases v <;> simp only [Inhabits] at h <;>
    simp only [isPlain, Bool.false_eq_true] at ht
  case int.int w n => exact ⟨_, scalarText_int h⟩
  case uint.uint w n => exact ⟨_, scalarText_uint h⟩
  case enum.text width entries s => exact ⟨s, by simp only [scalarText, lists_eq_true h, if_true]⟩
  all_goals exact ⟨_, rfl⟩

/-- A value of a type can stand as an item of an array. -/
theorem exists_encodeElement_of_inhabits (h : Inhabits t v) :
    ∃ text, t.encodeElement v = .ok text := by
  induction t generalizing v with
  | nullable inner ih =>
    cases hv : v.isNull with
    | true => exact ⟨"NULL", by rw [encodeElement, if_pos hv]⟩
    | false =>
      obtain ⟨text, htext⟩ := ih (h.inner hv)
      exact ⟨text, by rw [encodeElement, if_neg (by simp [hv]), htext]⟩
  | lowCardinality inner ih =>
    obtain ⟨text, htext⟩ := ih h
    exact ⟨text, by rw [encodeElement, htext]⟩
  | array item ih =>
    cases v with
    | array items =>
      obtain ⟨texts, htexts⟩ := exists_forall₂ fun v hv => ih (inhabits_array_iff.1 h v hv)
      exact ⟨arrayText texts, by rw [encodeElement, mapM_eq_ok_iff.2 htexts]; rfl⟩
    | _ => exact False.elim h
  | _ =>
    obtain ⟨text, htext⟩ := exists_scalarText_of_inhabits rfl h
    exact ⟨_, by rw [encodeElement_plain rfl, scalarElement, htext, map_ok]⟩

/-- A value of a type can be written as a field. -/
theorem exists_encode_of_inhabits (h : Inhabits t v) : ∃ field, t.encode v = .ok field := by
  induction t with
  | nullable inner ih =>
    cases hv : v.isNull with
    | true => exact ⟨Tsv.nullField, by rw [encode, if_pos hv]⟩
    | false =>
      obtain ⟨field, hfield⟩ := ih (h.inner hv)
      exact ⟨field, by rw [encode, if_neg (by simp [hv]), hfield]⟩
  | lowCardinality inner ih =>
    obtain ⟨field, hfield⟩ := ih h
    exact ⟨field, by rw [encode, hfield]⟩
  | array item ih =>
    cases v with
    | array items =>
      obtain ⟨text, htext⟩ := exists_encodeElement_of_inhabits h
      exact ⟨text, by rw [encode, htext]⟩
    | _ => exact False.elim h
  | _ =>
    obtain ⟨text, htext⟩ := exists_scalarText_of_inhabits rfl h
    exact ⟨_, by rw [encode_plain rfl, htext, map_ok]⟩

end Columnar.ColumnType
