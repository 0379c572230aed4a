import Columnar.ColumnType.Encoder
import Columnar.Proofs.ColumnType.Name
import Columnar.Proofs.Result

/-!
Types without the hints on low cardinality.

An old server gets the name of a type with all hints left out. That is the full name of the type
without its hints (`render_false`), so what is read back is that type (`read_render`). The values
of both types are written alike and read alike, as elements of arrays and as fields of lines
(`encode_withoutHints`, `decode_withoutHints`), by induction on the type.
-/

namespace Columnar.ColumnType

/-- The type with every hint on low cardinality replaced by what stands in it. -/
def withoutHints : ColumnType → ColumnType
  | nullable inner => nullable inner.withoutHints
  | lowCardinality inner => inner.withoutHints
  | array item => array item.withoutHints
  | t => t

/-! ### Names -/

/-- A type without hints has one name for all servers. -/
theorem render_withoutHints (lowCardinality : Bool) (t : ColumnType) :
    t.withoutHints.render lowCardinality = t.render false := by
  induction t with
  | nullable inner ih => exact congrArg (applied "Nullable") ih
  | lowCardinality inner ih => exact ih
  | array item ih => exact congrArg (applied "Array") ih
  | float width => cases width <;> rfl
  | dateTime zone => cases zone <;> rfl
  | _ => rfl

/-- An old server's name of a type is the full name of the type without hints. -/
theorem render_false (t : ColumnType) : t.render false = t.withoutHints.name :=
  (render_withoutHints true t).symm

theorem isReadable_withoutHints {t : ColumnType} (h : IsReadable t) :
    IsReadable t.withoutHints := by
  induction t with
  | nullable inner ih => exact ih h
  | lowCardinality inner ih => exact ih h
  | array item ih => exact ih h
  | _ => exact h

/-- The names of a type that was read: the full one is read as the type, the one for an old server
as the type without its hints. -/
theorem read_render {text : String} {t : ColumnType} (h : read text = .ok t) :
    read (t.render true) = .ok t ∧ read (t.render false) = .ok t.withoutHints := by
  have hreadable := isReadable_of_read h
  refine ⟨read_name hreadable, ?_⟩
  rw [render_false]
  exact read_name (isReadable_withoutHints hreadable)

/-- Blanks and hints at several depths, and an enumeration whose names look like its own syntax. -/
theorem read_render_hinted :
    let text := " LowCardinality( Array(Nullable( LowCardinality(Enum8('a,\\'(='=1 , ')' = -2)))) )"
    let t := lowCardinality (array (nullable (lowCardinality
      (enum .w8 [⟨"a,'(=", 1⟩, ⟨")", -2⟩]))))
    read text = .ok t ∧
      read (t.render true) = .ok t ∧ read (t.render false) = .ok t.withoutHints := by
  intro text t
  have h : read text = .ok t := ok_of_toOption (by decide +kernel)
  exact ⟨h, read_render h⟩

/-! ### Values in lines -/

theorem isNullable_withoutHints (t : ColumnType) : t.withoutHints.isNullable = t.isNullable := by
  induction t with
  | lowCardinality inner ih => exact ih
  | _ => rfl

theorem initial_withoutHints (t : ColumnType) : t.withoutHints.initial = t.initial := by
  induction t with
  | lowCardinality inner ih => exact ih
  | _ => rfl

/-- Elements of arrays are written alike with and without hints. -/
theorem encodeElement_withoutHints (t : ColumnType) (v : Value) :
    SameSuccess (t.withoutHints.encodeElement v) (t.encodeElement v) := by
  induction t generalizing v with
  | nullable inner ih =>
    rw [withoutHints, encodeElement, encodeElement]
    split
    · exact .refl _
    · exact ih v
  | lowCardinality inner ih => exact ih v
  | array item ih =>
    cases v with
    | array items => exact (SameSuccess.mapM fun v _ => ih v).bind fun texts => .refl _
    | _ => exact .error _ _
  | _ => exact .refl _

/-- Fields of lines are written alike with and without hints. -/
theorem encode_withoutHints (t : ColumnType) (v : Value) :
    SameSuccess (t.withoutHints.encode v) (t.encode v) := by
  induction t with
  | nullable inner ih =>
    rw [withoutHints, encode, encode]
    split
    · exact .refl _
    · exact ih
  | lowCardinality inner ih => exact ih
  | array item ih =>
    cases v with
    | array items => exact encodeElement_withoutHints (array item) (.array items)
    | _ => exact .error _ _
  | _ => exact .refl _

/-- Elements of arrays are read alike with and without hints. -/
theorem decodeElement_withoutHints [Clocks] (zone : Calendar.Zone) (t : ColumnType)
    (e : Tsv.Element) :
    SameSuccess (t.withoutHints.decodeElement zone e) (t.decodeElement zone e) := by
  induction t generalizing e with
  | nullable inner ih =>
    rw [withoutHints, decodeElement, decodeElement]
    split
    · exact .refl _
    · exact ih e
  | lowCardinality inner ih => exact ih e
  | array item ih =>
    cases e with
    | quoted text => exact .error _ _
    | bare text =>
      refine (SameSuccess.refl _).bind fun elements => ?_
      exact (SameSuccess.mapM fun e _ => ih e).bind fun items => .refl _
  | _ => exact .refl _

/-- Fields of lines are read alike with and without hints. -/
theorem decode_withoutHints [Clocks] (zone : Calendar.Zone) (t : ColumnType) (field : String) :
    SameSuccess (t.withoutHints.decode zone field) (t.decode zone field) := by
  induction t with
  | nullable inner ih =>
    rw [withoutHints, decode, decode]
    split
    · exact .refl _
    · exact ih
  | lowCardinality inner ih => exact ih
  | array item ih => exact decodeElement_withoutHints zone (array item) (.bare field)
  | _ => exact .refl _

end Columnar.ColumnType
