import Columnar.Proofs.ColumnType.Fits
import Columnar.Proofs.Tsv.Line

/-!
Reading back what was written for a value that fits its type.

Elements of arrays come first, by induction on the type: a fitting value is written as a text of one
element, and that element is decoded as the value (`exists_writesElement`). Fields of lines differ
at the top only, where texts are escaped and not quoted (`exists_writesField`).
-/

namespace Columnar.ColumnType

open Tsv (Element)
open Tsv.ArrayLiteral (Written)

variable {zone : Calendar.Zone} {t item : ColumnType} {v : Value}

/-- The characters that end a field or a line. -/
def isSeparator (c : Char) : Bool :=
  c = '\t' || c = '\n'

/-- The value is written in arrays as `text`, one element `e` that is decoded as the value. -/
structure WritesElement [Clocks] (zone : Calendar.Zone) (t : ColumnType) (v : Value) (text : String)
    (e : Element) : Prop where
  encode : t.encodeElement v = .ok text
  written : Written e text.toList
  decode : t.decodeElement zone e = .ok v
  ne_null : v.isNull = false → e ≠ .bare "NULL"
  inLine : ∀ c ∈ text.toList, isSeparator c = false

/-- The value is written in lines as `field`, which is decoded as the value. -/
structure WritesField [Clocks] (zone : Calendar.Zone) (t : ColumnType) (v : Value)
    (field : String) :
    Prop where
  encode : t.encode v = .ok field
  decode : t.decode zone field = .ok v
  ne_null : v.isNull = false → field ≠ Tsv.nullField
  inLine : ∀ c ∈ field.toList, isSeparator c = false

/-! ### Separators -/

theorem isSeparator_of_isControl {c : Char} (h : Tsv.isControl c = false) :
    isSeparator c = false := by
  simp only [Tsv.isControl, Bool.or_eq_false_iff] at h
  simp only [isSeparator, Bool.or_eq_false_iff]
  exact ⟨h.1.2, h.1.1.2⟩

theorem isSeparator_of_isBlank {c : Char} (h : Text.isBlank c = false) : isSeparator c = false := by
  cases hc : isSeparator c with
  | false => rfl
  | true =>
    simp only [isSeparator, Bool.or_eq_true, decide_eq_true_eq] at hc
    rcases hc with rfl | rfl <;> exact absurd h (by decide)

theorem inLine_of_all {s : List Char} (h : s.all (!isSeparator ·) = true) :
    ∀ c ∈ s, isSeparator c = false := by
  intro c hc
  simpa using List.all_eq_true.1 h c hc

theorem inLine_escapeChars (s : List Char) : ∀ c ∈ Tsv.escapeChars s, isSeparator c = false :=
  fun _ hc => isSeparator_of_isControl (Tsv.isControl_of_mem_escapeChars hc)

theorem IsWord.inLine {text : String} (h : IsWord text) :
    ∀ c ∈ text.toList, isSeparator c = false := by
  intro c hc
  have hw := h.isWordChar c hc
  simp only [Tsv.ArrayLiteral.isWordChar, Bool.and_eq_true, Bool.not_eq_true'] at hw
  exact isSeparator_of_isBlank hw.1.1

theorem inLine_quote (s : String) : ∀ c ∈ (Tsv.quote s).toList, isSeparator c = false := by
  intro c hc
  rw [Tsv.toList_quote, List.mem_cons, List.mem_append, List.mem_singleton] at hc
  rcases hc with rfl | hc | rfl
  · rfl
  · exact inLine_escapeChars _ c hc
  · rfl

theorem inLine_arrayText {texts : List String}
    (h : ∀ text ∈ texts, ∀ c ∈ text.toList, isSeparator c = false) :
    ∀ c ∈ (arrayText texts).toList, isSeparator c = false := by
  intro c hc
  rw [arrayText, Tsv.ArrayLiteral.toList_literal, List.mem_cons, List.mem_append,
    List.mem_singleton] at hc
  rcases hc with rfl | hc | rfl
  · rfl
  · rcases Tsv.mem_toList_intercalate hc with hc | ⟨text, htext, hc⟩
    · exact List.mem_singleton.1 hc ▸ rfl
    · exact h text htext c hc
  · rfl

/-! ### Plain types -/

theorem eq_null_of_isNull (h : v.isNull = true) : v = .null := by
  cases v <;> first | rfl | exact absurd h Bool.false_ne_true

theorem encodeElement_plain (ht : t.isPlain = true) (v : Value) :
    t.encodeElement v = t.scalarElement v := by
  cases t <;> first | rfl | exact absurd ht Bool.false_ne_true

theorem encode_plain (ht : t.isPlain = true) (v : Value) :
    t.encode v = (t.scalarText v).map Tsv.escape := by
  cases t <;> first | rfl | exact absurd ht Bool.false_ne_true

theorem decodeElement_quoted [Clocks] (ht : t.isPlain = true) (text : String) :
    t.decodeElement zone (.quoted text) = t.readText zone text := by
  cases t <;> first | rfl | exact absurd ht Bool.false_ne_true

theorem decodeElement_bare [Clocks] (ht : t.isPlain = true) (text : String) :
    t.decodeElement zone (.bare text) = t.readText zone text := by
  cases t <;> first | rfl | exact absurd ht Bool.false_ne_true

theorem decode_plain [Clocks] (ht : t.isPlain = true) (field : String) :
    t.decode zone field
      = (orFail (Tsv.unescape? field) (.parse (.danglingEscape field)) >>= t.readText zone) := by
  cases t <;> first | rfl | exact absurd ht Bool.false_ne_true

theorem exists_writesElement_plain [Clocks] (ht : t.isPlain = true) (h : Fits t v) :
    ∃ text e, WritesElement zone t v text e := by
  obtain ⟨text, htext, hread, _, hword⟩ := exists_scalarText zone ht h
  have hencode := encodeElement_plain ht v
  rw [scalarElement, htext] at hencode
  cases hq : t.isQuotedInArrays with
  | true =>
    refine ⟨Tsv.quote text, .quoted text, ?_, ?_, ?_, fun _ => by simp, inLine_quote text⟩
    · rw [hencode, hq]; rfl
    · exact Tsv.ArrayLiteral.written_quote text
    · rw [decodeElement_quoted ht, hread]
  | false =>
    obtain hw := hword hq
    refine ⟨text, .bare text, ?_, ?_, ?_, fun _ => by simpa using hw.ne_null, hw.inLine⟩
    · rw [hencode, hq]; rfl
    · exact hw.written
    · rw [decodeElement_bare ht, hread]

theorem exists_writesField_plain [Clocks] (ht : t.isPlain = true) (h : Fits t v) :
    ∃ field, WritesField zone t v field := by
  obtain ⟨text, htext, hread, _, _⟩ := exists_scalarText zone ht h
  refine ⟨Tsv.escape text, ?_, ?_, fun _ => Tsv.escape_ne_nullField text, ?_⟩
  · rw [encode_plain ht, htext]; rfl
  · rw [decode_plain ht, Tsv.unescape?_escape]
    exact hread
  · rw [Tsv.toList_escape]
    exact inLine_escapeChars text.toList

/-! ### Arrays -/

theorem head?_arrayText (texts : List String) : (arrayText texts).toList.head? = some '[' := by
  rw [arrayText, Tsv.ArrayLiteral.toList_literal]
  rfl

/-- The text of an array of written items, and what is read from it. -/
theorem exists_arrayText [Clocks] (zone : Calendar.Zone) {items : List Value}
    (h : ∀ v ∈ items, ∃ text e, WritesElement zone item v text e) :
    ∃ text, (array item).encodeElement (.array items) = .ok text ∧
      Written (.bare text) text.toList ∧
      (∃ elements, readElements text = .ok elements ∧
        elements.mapM (item.decodeElement zone ·) = .ok items) ∧
      text.toList.head? = some '[' ∧ ∀ c ∈ text.toList, isSeparator c = false := by
  obtain ⟨pairs, hpairs⟩ := exists_forall₂ (R := fun v (p : String × Element) =>
    WritesElement zone item v p.1 p.2) fun v hv => by
      obtain ⟨text, e, hw⟩ := h v hv
      exact ⟨(text, e), hw⟩
  have hwritten : List.Forall₂ (fun e (text : String) => Written e text.toList)
      (pairs.map Prod.snd) (pairs.map Prod.fst) := by
    rw [List.forall₂_map_left_iff, List.forall₂_map_right_iff, List.forall₂_same]
    exact forall_mem_of_forall₂ (fun _ _ hw => hw.written) hpairs
  have hencode : items.mapM (item.encodeElement ·) = .ok (pairs.map Prod.fst) := by
    rw [mapM_eq_ok_iff, List.forall₂_map_right_iff]
    exact hpairs.imp fun _ _ hw => hw.encode
  have hdecode : (pairs.map Prod.snd).mapM (item.decodeElement zone ·) = .ok items := by
    rw [mapM_eq_ok_iff, List.forall₂_map_left_iff]
    exact hpairs.flip.imp fun _ _ hw => hw.decode
  refine ⟨arrayText (pairs.map Prod.fst), ?_, Tsv.ArrayLiteral.written_literal hwritten,
    ⟨pairs.map Prod.snd, ?_, hdecode⟩, ?_, inLine_arrayText ?_⟩
  · rw [encodeElement, hencode]
    rfl
  · rw [readElements, arrayText, Tsv.ArrayLiteral.readArray?_of_written hwritten]
    rfl
  · exact head?_arrayText _
  · rw [List.forall_mem_map]
    exact forall_mem_of_forall₂ (fun _ _ hw => hw.inLine) hpairs

theorem ne_of_head? {text word : String} (h : text.toList.head? = some '[')
    (hw : word.toList.head? ≠ some '[') : text ≠ word := by
  rintro rfl
  exact hw h

/-! ### All types -/

/-- A fitting value is written as one element, and the element is decoded as the value. -/
theorem exists_writesElement [Clocks] (h : Fits t v) : ∃ text e, WritesElement zone t v text e := by
  induction t generalizing v with
  | nullable inner ih =>
    cases hv : v.isNull with
    | true =>
      rw [eq_null_of_isNull hv]
      exact ⟨"NULL", .bare "NULL", rfl, .word _ (by decide) (List.all_eq_true.1 (by decide)), rfl,
        nofun, inLine_of_all (by decide)⟩
    | false =>
      have hfits : Fits inner v := by
        rw [Fits] at h
        exact h.resolve_left fun hn => by rw [hn] at hv; exact absurd hv (by decide)
      obtain ⟨text, e, hw⟩ := ih hfits
      refine ⟨text, e, ?_, hw.written, ?_, fun _ => hw.ne_null hv, hw.inLine⟩
      · rw [encodeElement, if_neg (by simp [hv]), hw.encode]
      · rw [decodeElement, if_neg (hw.ne_null hv), hw.decode]
  | lowCardinality inner ih =>
    obtain ⟨text, e, hw⟩ := ih (by simpa only [Fits] using h)
    refine ⟨text, e, ?_, hw.written, ?_, hw.ne_null, hw.inLine⟩
    · rw [encodeElement, hw.encode]
    · rw [decodeElement, hw.decode]
  | array item ih =>
    cases v <;> simp only [Fits] at h
    case array items =>
      obtain ⟨text, hencode, hwritten, ⟨elements, hread, hdecode⟩, hhead, hline⟩ :=
        exists_arrayText zone fun v hv => ih (h v hv)
      refine ⟨text, .bare text, hencode, hwritten, ?_, fun _ => ?_, hline⟩
      · rw [decodeElement, hread, ok_bind, hdecode]
        rfl
      · exact fun he => ne_of_head? hhead (by decide) (Element.bare.inj he)
  | _ => exact exists_writesElement_plain rfl h

/-- A fitting value is written as a field of a line, and the field is decoded as the value. -/
theorem exists_writesField [Clocks] (h : Fits t v) : ∃ field, WritesField zone t v field := by
  induction t generalizing v with
  | nullable inner ih =>
    cases hv : v.isNull with
    | true =>
      rw [eq_null_of_isNull hv]
      exact ⟨Tsv.nullField, rfl, rfl, nofun, inLine_of_all (by decide)⟩
    | false =>
      have hfits : Fits inner v := by
        rw [Fits] at h
        exact h.resolve_left fun hn => by rw [hn] at hv; exact absurd hv (by decide)
      obtain ⟨field, hw⟩ := ih hfits
      refine ⟨field, ?_, ?_, fun _ => hw.ne_null hv, hw.inLine⟩
      · rw [encode, if_neg (by simp [hv]), hw.encode]
      · rw [decode, if_neg (hw.ne_null hv), hw.decode]
  | lowCardinality inner ih =>
    obtain ⟨field, hw⟩ := ih (by simpa only [Fits] using h)
    refine ⟨field, ?_, ?_, hw.ne_null, hw.inLine⟩
    · rw [encode, hw.encode]
    · rw [decode, hw.decode]
  | array item ih =>
    cases v <;> simp only [Fits] at h
    case array items =>
      obtain ⟨text, hencode, _, ⟨elements, hread, hdecode⟩, hhead, hline⟩ :=
        exists_arrayText zone fun v hv => exists_writesElement (h v hv)
      refine ⟨text, ?_, ?_, fun _ => ne_of_head? hhead (by decide), hline⟩
      · rw [encode, hencode]
      · rw [decode, hread, ok_bind, hdecode]
        rfl
  | _ => exact exists_writesField_plain rfl h

theorem writesField_of_encode [Clocks] {field : String} (h : Fits t v)
    (hencode : t.encode v = .ok field) :
    WritesField zone t v field := by
  obtain ⟨_, hw⟩ : ∃ field, WritesField zone t v field := exists_writesField h
  exact Except.ok.inj (hw.encode.symm.trans hencode) ▸ hw

end Columnar.ColumnType
