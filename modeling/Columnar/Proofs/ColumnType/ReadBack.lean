import Columnar.Proofs.ColumnType.Separators
import Columnar.Proofs.Value.Elements

/-!
Reading what was written for any value that a type takes.

A type takes more values than those that fit it: integers of the other kind, dates as points in
time, points in time as dates. What is written for them can be read, with two exceptions. A point in
time before the epoch is written with a minus sign, which is not read; and the text of a decimal in
an array may end its element or the array. So a written field is read exactly if its times are not
before the epoch and it falls into lists as the type asks (`exists_decode_encode_iff`); only the
texts of decimals can keep it from that.
-/

namespace Columnar.ColumnType

open Tsv (Element)
open Tsv.ArrayLiteral (Written)

variable {zone : Calendar.Zone} {t item : ColumnType} {v : Value} {text : String} {e : Element}

/-! ### Times -/

/-- The seconds since the epoch that stand in the text of a value. -/
def secondsIn : ColumnType → Value → List Int
  | nullable inner, v | lowCardinality inner, v => inner.secondsIn v
  | array item, .array items => items.flatMap fun v => item.secondsIn v
  | dateTime _, .moment m => [m.seconds]
  | dateTime _, .date d => [d.midnight.seconds]
  | _, _ => []

@[simp] theorem secondsIn_null (t : ColumnType) : t.secondsIn .null = [] := by
  induction t with
  | nullable inner ih => rw [secondsIn, ih]
  | lowCardinality inner ih => rw [secondsIn, ih]
  | _ => rfl

/-- A minus sign begins neither digits nor a date with a time behind it. -/
theorem readMoment?_negative [Clocks] (zone : Calendar.Zone) {n : Int} (h : n < 0) :
    readMoment? zone (toString n) = none := by
  have htext : (toString n).toList = '-' :: Nat.toDigits 10 (-n).toNat := by
    rw [Text.toList_toString, if_neg (by omega)]
  have hdigits : Text.readDigits? (toString n).toList = none := by
    rw [htext]
    rfl
  have hzero : ¬ zeroDate.toList.isPrefixOf (toString n).toList = true := by
    rw [htext]
    exact Bool.false_ne_true
  have hclock : Calendar.readClockTime? (toString n) = none := by
    rw [Calendar.readClockTime?, htext,
      Calendar.readDatePrefix?_minus fun _ => Text.isDigit_of_mem_toDigits]
    rfl
  rw [readMoment?, hdigits]
  simp only [if_neg hzero, hclock]
  rfl

/-- The seconds of a point in time are read unless they are negative. -/
theorem exists_readText_seconds_iff [Clocks] (m : Calendar.Moment) (own : Option Calendar.Zone) :
    (∃ w, (dateTime own).readText zone (toString m.seconds) = .ok w) ↔ 0 ≤ m.seconds := by
  constructor
  · rintro ⟨w, hw⟩
    by_contra hneg
    rw [readText, readMoment?_negative _ (by omega)] at hw
    exact absurd hw (by simp [Except.map])
  · intro h
    obtain ⟨hfirst, hlast, -, -⟩ := m.isMoment
    have hwhole : Calendar.IsMoment m.seconds 0 := ⟨hfirst, hlast, by decide, .inl (by decide)⟩
    exact ⟨_, readText_seconds (m := ⟨m.seconds, 0, hwhole⟩) ⟨h, rfl⟩ own zone⟩

/-! ### Texts of single values -/

theorem exists_readInt_of_intText {n : Int} (hlow : -18446744073709551616 ≤ n)
    (hhigh : n ≤ 18446744073709551616) (h : t.intText v n = .ok text) :
    ∃ w, t.readInt text = .ok w := by
  unfold intText at h
  split at h
  · next checked hchecked =>
    obtain ⟨w, rfl, rfl⟩ := map_eq_ok h
    exact ⟨w, readInt_toString hchecked hlow hhigh⟩
  · exact absurd h (by simp)

theorem exists_readText_float [Clocks] {w : FloatWidth}
    (hchars : ∀ c ∈ text.toList, Value.isBareChar c = true)
    (h : ∃ x, Decimal.read? text.toList = some x) : ∃ v, (float w).readText zone text = .ok v := by
  obtain ⟨x, hx⟩ := h
  have htrim : Text.trim text.toList = text.toList :=
    Text.trim_eq_self fun c hc => Value.isBlank_of_isBareChar (hchars c hc)
  exact ⟨.float x, by rw [readText, htrim, hx]; rfl⟩

/-- The text of a value is read, unless it is a time before the epoch. -/
theorem exists_readText_iff [Clocks] (zone : Calendar.Zone) (ht : t.isPlain = true)
    (h : t.scalarText v = .ok text) :
    (∃ w, t.readText zone text = .ok w) ↔ ∀ n ∈ t.secondsIn v, 0 ≤ n := by
  cases t <;> simp only [isPlain, Bool.false_eq_true] at ht <;> cases v <;>
    simp only [scalarText, reduceCtorEq] at h
  case dateTime.moment own m =>
    obtain rfl := Except.ok.inj h
    simpa [secondsIn] using exists_readText_seconds_iff m own
  case dateTime.date own d =>
    obtain rfl := Except.ok.inj h
    simpa [secondsIn] using exists_readText_seconds_iff d.midnight own
  -- No other text is one of a time.
  all_goals refine iff_of_true ?_ (List.forall_mem_nil _)
  case int.int w n | uint.int w n =>
    have hlow := Int64.le_toInt n
    have hhigh := Int64.toInt_lt n
    exact exists_readInt_of_intText (by omega) (by omega) h
  case int.uint w n | uint.uint w n =>
    have hhigh := UInt64.toNat_lt n
    exact exists_readInt_of_intText (by omega) (by omega) h
  case enum.text width entries s =>
    split at h
    · next hlists =>
      obtain rfl := Except.ok.inj h
      exact ⟨.text s, by rw [readText, if_pos hlists]⟩
    · exact absurd h (by simp)
  all_goals obtain rfl := Except.ok.inj h
  case float.float w x =>
    exact exists_readText_float (fun _ => Value.isBareChar_of_mem_floatText)
      (Decimal.exists_read?_floatText x)
  case float.int w n =>
    exact exists_readText_float (fun _ => Value.isBareChar_of_mem_toString)
      (Decimal.exists_read?_toString n.toInt)
  case float.uint w n =>
    exact exists_readText_float (fun _ => Value.isBareChar_of_mem_toString (n := n.toNat))
      (Decimal.exists_read?_toString n.toNat)
  case bool.bool b => exact ⟨_, readText_boolText b zone⟩
  case date.date d => exact ⟨_, readText_dateText d zone⟩
  case date.moment m => exact ⟨_, readText_dateText m.date zone⟩
  all_goals exact ⟨_, rfl⟩

/-! ### Decimals -/

/-- Types whose single values are decimals. -/
def isOfDecimals : ColumnType → Bool
  | decimal .. => true
  | nullable inner | lowCardinality inner | array inner => inner.isOfDecimals
  | _ => false

theorem secondsIn_of_isOfDecimals (ht : t.isOfDecimals = true) (v : Value) :
    t.secondsIn v = [] := by
  induction t generalizing v with
  | nullable inner ih => exact ih ht v
  | lowCardinality inner ih => exact ih ht v
  | array inner ih =>
    cases v with
    | array items => exact List.flatMap_eq_nil_iff.2 fun w _ => ih ht w
    | _ => rfl
  | decimal precision scale => rfl
  | _ => exact absurd ht Bool.false_ne_true

theorem bareInElement_of_not_isOfDecimals (ht : t.isOfDecimals = false) (v : Value) :
    t.bareInElement v = [] := by
  induction t generalizing v with
  | nullable inner ih => exact ih ht v
  | lowCardinality inner ih => exact ih ht v
  | array inner ih =>
    cases v with
    | array items => exact List.flatMap_eq_nil_iff.2 fun w _ => ih ht w
    | _ => rfl
  | decimal precision scale => exact absurd ht Bool.true_eq_false.mp
  | _ => rfl

/-! ### Words -/

theorem isWord_floatText (x : Float) : IsWord (Value.floatText x) where
  ne_nil := Decimal.floatText_ne_nil x
  isWordChar _ hc := Value.isWordChar_of_isBareChar (Value.isBareChar_of_mem_floatText hc)
  ne_null h := by
    obtain ⟨y, hy⟩ := Decimal.exists_read?_floatText x
    have hnull : Decimal.read? "NULL".toList = none := by decide
    rw [h, hnull] at hy
    cases hy

theorem isWord_intText {n : Int} (h : t.intText v n = .ok text) : IsWord text := by
  unfold intText at h
  split at h
  · obtain ⟨_, -, rfl⟩ := map_eq_ok h
    exact isWord_toString n
  · exact absurd h (by simp)

/-- What stands bare in arrays is a word, unless it is the text of a decimal. -/
theorem isWord_of_scalarText (ht : t.isPlain = true) (hq : t.isQuotedInArrays = false)
    (h : t.scalarText v = .ok text) : IsWord text ∨ t.isOfDecimals = true ∧ v = .text text := by
  cases t <;> simp only [isPlain, Bool.false_eq_true] at ht <;>
    simp only [isQuotedInArrays, Bool.true_eq_false] at hq <;> cases v <;>
    simp only [scalarText, reduceCtorEq] at h
  case int.int | int.uint | uint.int | uint.uint => exact .inl (isWord_intText h)
  all_goals obtain rfl := Except.ok.inj h
  case float.float x | decimal.float precision scale x => exact .inl (isWord_floatText x)
  case float.int n => exact .inl (isWord_toString n.toInt)
  case float.uint n => exact .inl (isWord_toString n.toNat)
  case bool.bool b => exact .inl (isWord_boolText b)
  case decimal.text precision scale s => exact .inr ⟨rfl, rfl⟩
  case dateTime.moment own m => exact .inl (isWord_toString m.seconds)
  case dateTime.date own d => exact .inl (isWord_toString d.midnight.seconds)

/-! ### Texts that fall into lists -/

/-- An element falls into lists as deep as the type, with the word for no value where the type
allows it. -/
def SplitsElement : ColumnType → Element → Prop
  | nullable inner, e => e = .bare "NULL" ∨ inner.SplitsElement e
  | lowCardinality inner, e => inner.SplitsElement e
  | array item, .bare text =>
    ∃ elements, Tsv.readArray? text = some elements ∧ ∀ e ∈ elements, item.SplitsElement e
  | array _, .quoted _ => False
  | _, _ => True

/-- A field falls into lists as deep as the type. -/
def Splits : ColumnType → String → Prop
  | nullable inner, field => field = Tsv.nullField ∨ inner.Splits field
  | lowCardinality inner, field => inner.Splits field
  | array item, field => (array item).SplitsElement (.bare field)
  | _, _ => True

theorem splitsElement_plain (ht : t.isPlain = true) (e : Element) : t.SplitsElement e := by
  cases t <;> trivial

/-- An array is read if its text is a literal and its items are read. -/
theorem exists_decodeElement_array_iff [Clocks] :
    (∃ w, (array item).decodeElement zone (.bare text) = .ok w) ↔
      ∃ elements, Tsv.readArray? text = some elements ∧
        ∀ e ∈ elements, ∃ w, item.decodeElement zone e = .ok w := by
  rw [decodeElement, readElements]
  constructor
  · rintro ⟨w, hw⟩
    obtain ⟨elements, helements, hw⟩ := bind_eq_ok hw
    obtain ⟨items, hitems, -⟩ := bind_eq_ok hw
    exact ⟨elements, orFail_eq_ok helements, exists_mapM_eq_ok_iff.1 ⟨items, hitems⟩⟩
  · rintro ⟨elements, helements, hitems⟩
    obtain ⟨items, hitems⟩ := exists_mapM_eq_ok_iff.2 hitems
    exact ⟨.array items, by rw [helements, orFail_some, ok_bind, hitems]; rfl⟩

/-- Any text is read as a decimal, so that an element is read exactly if it falls into lists. -/
theorem exists_decodeElement_decimals_iff [Clocks] (ht : t.isOfDecimals = true) :
    (∃ w, t.decodeElement zone e = .ok w) ↔ t.SplitsElement e := by
  induction t generalizing e with
  | nullable inner ih =>
    rw [SplitsElement, decodeElement]
    split
    · next hnull => exact iff_of_true ⟨_, rfl⟩ (.inl hnull)
    · next hne => rw [ih ht, or_iff_right hne]
  | lowCardinality inner ih => exact ih ht
  | array inner ih =>
    cases e with
    | quoted text => exact iff_of_false (by simp [decodeElement]) id
    | bare text => simp only [exists_decodeElement_array_iff, SplitsElement, ih ht]
  | decimal precision scale => exact iff_of_true (by cases e <;> exact ⟨_, rfl⟩) trivial
  | _ => exact absurd ht Bool.false_ne_true

/-! ### Elements that were written -/

theorem not_scalarElement_array : ¬ (array item).scalarElement v = .ok text := by
  simp [scalarElement, scalarText, Except.map]

/-- The text is written as the element `e`, which is read unless a time in it is before the
epoch. -/
structure IsElement [Clocks] (t : ColumnType) (v : Value) (text : String) (e : Element) : Prop where
  written : Written e text.toList
  splits : t.SplitsElement e
  ne_null : v.isNull = false → t.isOfDecimals = false → e ≠ .bare "NULL"
  decodes_iff : ∀ zone, (∃ w, t.decodeElement zone e = .ok w) ↔ ∀ n ∈ t.secondsIn v, 0 ≤ n

theorem exists_isElement_plain [Clocks] (ht : t.isPlain = true) (h : t.scalarElement v = .ok text)
    (hbare : ∀ s ∈ t.bareInElement v, ∃ e, Written e s.toList) :
    ∃ e, IsElement t v text e := by
  obtain ⟨bare, hscalar, rfl⟩ := map_eq_ok h
  cases hq : t.isQuotedInArrays with
  | true =>
    refine ⟨.quoted bare, ?_, splitsElement_plain ht _, fun _ _ => by simp, fun zone => ?_⟩
    · rw [if_pos rfl]
      exact Tsv.ArrayLiteral.written_quote bare
    · rw [decodeElement_quoted ht, exists_readText_iff zone ht hscalar]
  | false =>
    rw [if_neg Bool.false_ne_true]
    rcases isWord_of_scalarText ht hq hscalar with hword | ⟨hdecimals, rfl⟩
    · refine ⟨.bare bare, hword.written, splitsElement_plain ht _, fun _ _ => ?_, fun zone => ?_⟩
      · simpa using hword.ne_null
      · rw [decodeElement_bare ht, exists_readText_iff zone ht hscalar]
    · obtain ⟨e, he⟩ := hbare bare (by cases t <;> simp_all [isOfDecimals, isPlain, bareInElement])
      refine ⟨e, he, splitsElement_plain ht _, ?_, fun zone => ?_⟩
      · exact fun _ hnot => absurd (hdecimals.symm.trans hnot) Bool.true_eq_false.mp
      · rw [secondsIn_of_isOfDecimals hdecimals]
        exact iff_of_true ((exists_decodeElement_decimals_iff hdecimals).2
          (splitsElement_plain ht e)) (List.forall_mem_nil _)

/-- The literal of an array is one element, and has one for each item in it. -/
theorem isElement_array [Clocks] {items : List Value} {texts : List String}
    (h : List.Forall₂ (fun v text => ∃ e, IsElement item v text e) items texts) :
    IsElement (array item) (.array items) (arrayText texts) (.bare (arrayText texts)) := by
  obtain ⟨elements, helements⟩ : ∃ elements, List.Forall₂ (fun (p : Value × String) e =>
      IsElement item p.1 p.2 e) (items.zip texts) elements :=
    exists_forall₂ fun p hp => List.forall₂_zip h hp
  have hitems : (items.zip texts).map Prod.fst = items := List.map_fst_zip (le_of_eq h.length_eq)
  have htexts : (items.zip texts).map Prod.snd = texts :=
    List.map_snd_zip (le_of_eq h.length_eq.symm)
  have hwritten : List.Forall₂ (fun e (text : String) => Written e text.toList) elements texts := by
    rw [← htexts, List.forall₂_map_right_iff]
    exact (helements.imp fun _ _ he => he.written).flip
  have hread : Tsv.readArray? (arrayText texts) = some elements :=
    Tsv.ArrayLiteral.readArray?_of_written hwritten
  refine ⟨Tsv.ArrayLiteral.written_literal hwritten, ⟨elements, hread, ?_⟩, fun _ _ => ?_,
    fun zone => ?_⟩
  · exact forall_mem_of_forall₂ (fun _ _ he => he.splits) helements
  · exact fun he => ne_of_head? (head?_arrayText texts) (by decide) (Element.bare.inj he)
  · rw [exists_decodeElement_array_iff, secondsIn, List.forall_mem_flatMap]
    simp only [hread, Option.some.injEq, exists_eq_left']
    conv_rhs => rw [← hitems, List.forall_mem_map]
    exact (forall_mem_iff_of_forall₂ (fun _ _ he => (he.decodes_iff zone).symm) helements).symm

theorem isElement_of_encodeElement [Clocks] {items : List Value}
    (hitem : ∀ v text, item.encodeElement v = .ok text →
      (∀ s ∈ item.bareInElement v, ∃ e, Written e s.toList) → ∃ e, IsElement item v text e)
    (h : (array item).encodeElement (.array items) = .ok text)
    (hbare : ∀ s ∈ (array item).bareInElement (.array items), ∃ e, Written e s.toList) :
    IsElement (array item) (.array items) text (.bare text) := by
  rw [encodeElement] at h
  obtain ⟨texts, htexts, h⟩ := bind_eq_ok h
  obtain rfl := Except.ok.inj h
  rw [bareInElement, List.forall_mem_flatMap] at hbare
  refine isElement_array ?_
  refine ((List.forall₂_and_left _ _).2 ⟨hbare, mapM_eq_ok_iff.1 htexts⟩).imp ?_
  rintro v text ⟨hv, htext⟩
  exact hitem v text htext hv

/-- What is written for an item of an array is one element, if the texts of decimals are. -/
theorem exists_isElement [Clocks] (h : t.encodeElement v = .ok text)
    (hbare : ∀ s ∈ t.bareInElement v, ∃ e, Written e s.toList) :
    ∃ e, IsElement t v text e := by
  induction t generalizing v text with
  | nullable inner ih =>
    rw [encodeElement] at h
    split at h
    · next hnull =>
      obtain rfl := Except.ok.inj h
      obtain rfl := eq_null_of_isNull hnull
      refine ⟨.bare "NULL", ?_, .inl rfl, fun hvalue => ?_, fun zone => ?_⟩
      · exact .word _ (by decide) (List.all_eq_true.1 (by decide))
      · exact absurd hvalue (by decide)
      · rw [secondsIn_null]
        exact iff_of_true ⟨.null, rfl⟩ (List.forall_mem_nil _)
    · next hvalue =>
      obtain ⟨e, he⟩ := ih h hbare
      refine ⟨e, he.written, .inr he.splits, he.ne_null, fun zone => ?_⟩
      rw [decodeElement, secondsIn]
      split
      · next hnull =>
        -- Only the text of a decimal can be the word for no value.
        have hdecimals : inner.isOfDecimals = true := by
          by_contra hnot
          exact he.ne_null (by simpa using hvalue) (by simpa using hnot) hnull
        rw [secondsIn_of_isOfDecimals hdecimals]
        exact iff_of_true ⟨.null, rfl⟩ (List.forall_mem_nil _)
      · exact he.decodes_iff zone
  | lowCardinality inner ih =>
    obtain ⟨e, he⟩ := ih h hbare
    exact ⟨e, he.written, he.splits, he.ne_null, he.decodes_iff⟩
  | array item ih =>
    cases v with
    | array items => exact ⟨_, isElement_of_encodeElement (fun _ _ => ih) h hbare⟩
    | _ => exact (not_scalarElement_array h).elim
  | _ => exact exists_isElement_plain rfl h hbare

/-! ### Fields that were written -/

theorem bareInField_of_not_isOfDecimals (ht : t.isOfDecimals = false) (v : Value) :
    t.bareInField v = [] := by
  induction t with
  | nullable inner ih => exact ih ht
  | lowCardinality inner ih => exact ih ht
  | array item ih =>
    cases v with
    | array items => exact bareInElement_of_not_isOfDecimals ht (.array items)
    | _ => rfl
  | _ => rfl

theorem not_scalarText_array : ¬ ((array item).scalarText v).map Tsv.escape = .ok text := by
  simp [scalarText, Except.map]

/-- Only a missing value is written as the mark of one. -/
theorem ne_nullField_of_encode (h : t.encode v = .ok text) (hv : v.isNull = false) :
    text ≠ Tsv.nullField := by
  induction t with
  | nullable inner ih =>
    rw [encode, if_neg (by simp [hv])] at h
    exact ih h
  | lowCardinality inner ih => exact ih h
  | array item ih =>
    cases v with
    | array items =>
      rw [encode, encodeElement] at h
      obtain ⟨texts, -, h⟩ := bind_eq_ok h
      obtain rfl := Except.ok.inj h
      exact ne_of_head? (head?_arrayText texts) (by decide)
    | _ => exact (not_scalarText_array h).elim
  | _ =>
    obtain ⟨bare, -, rfl⟩ := map_eq_ok h
    exact Tsv.escape_ne_nullField bare

theorem exists_decode_plain_iff [Clocks] (ht : t.isPlain = true) (h : t.encode v = .ok text) :
    (∃ w, t.decode zone text = .ok w) ↔ ∀ n ∈ t.secondsIn v, 0 ≤ n := by
  rw [encode_plain ht] at h
  obtain ⟨bare, hbare, rfl⟩ := map_eq_ok h
  rw [decode_plain ht, Tsv.unescape?_escape, orFail_some, ok_bind]
  exact exists_readText_iff zone ht hbare

/-- A field falls into lists and is read unless a time in it is before the epoch, if the texts of
decimals in it are elements. -/
theorem splits_of_encode [Clocks] (zone : Calendar.Zone) (h : t.encode v = .ok text)
    (hbare : ∀ s ∈ t.bareInField v, ∃ e, Written e s.toList) :
    t.Splits text ∧ ((∃ w, t.decode zone text = .ok w) ↔ ∀ n ∈ t.secondsIn v, 0 ≤ n) := by
  induction t with
  | nullable inner ih =>
    cases hnull : v.isNull with
    | true =>
      rw [encode, if_pos hnull] at h
      obtain rfl := Except.ok.inj h
      rw [eq_null_of_isNull hnull, secondsIn_null]
      exact ⟨.inl rfl, iff_of_true ⟨.null, rfl⟩ (List.forall_mem_nil _)⟩
    | false =>
      have hne := ne_nullField_of_encode h hnull
      rw [encode, if_neg (by simp [hnull])] at h
      rw [decode, if_neg hne, secondsIn]
      exact (ih h hbare).imp_left .inr
  | lowCardinality inner ih => exact ih h hbare
  | array item ih =>
    cases v with
    | array items =>
      have he := isElement_of_encodeElement (fun _ _ => exists_isElement) h hbare
      exact ⟨he.splits, he.decodes_iff zone⟩
    | _ => exact (not_scalarText_array h).elim
  | _ => exact ⟨trivial, exists_decode_plain_iff rfl h⟩

/-- A field of decimals is read exactly if it falls into lists. -/
theorem exists_decode_decimals_iff [Clocks] (ht : t.isOfDecimals = true)
    (h : t.encode v = .ok text) :
    (∃ w, t.decode zone text = .ok w) ↔ t.Splits text := by
  induction t with
  | nullable inner ih =>
    rw [decode, Splits]
    split
    · next hnull => exact iff_of_true ⟨.null, rfl⟩ (.inl hnull)
    · next hne =>
      rw [or_iff_right hne]
      rw [encode] at h
      split at h
      · exact absurd (Except.ok.inj h).symm hne
      · exact ih ht h
  | lowCardinality inner ih => exact ih ht h
  | array item ih => exact exists_decodeElement_decimals_iff (e := .bare text) ht
  | decimal precision scale =>
    refine iff_of_true ((exists_decode_plain_iff rfl h).2 (List.forall_mem_nil _)) trivial
  | _ => exact absurd ht Bool.false_ne_true

/-- A field that was written is read exactly if no time in it is before the epoch and it falls into
lists as deep as the type; and it does so if the texts of the decimals in its arrays are elements of
literals. -/
theorem exists_decode_encode_iff [Clocks] (zone : Calendar.Zone) (h : t.encode v = .ok text) :
    ((∃ w, t.decode zone text = .ok w) ↔ (∀ n ∈ t.secondsIn v, 0 ≤ n) ∧ t.Splits text) ∧
      ((∀ s ∈ t.bareInField v, ∃ e, Written e s.toList) → t.Splits text) := by
  refine ⟨?_, fun hbare => (splits_of_encode .utc h hbare).1⟩
  cases ht : t.isOfDecimals with
  | true =>
    rw [exists_decode_decimals_iff ht h, secondsIn_of_isOfDecimals ht]
    exact (and_iff_right (List.forall_mem_nil _)).symm
  | false =>
    have hnone := bareInField_of_not_isOfDecimals ht v
    obtain ⟨hsplits, hdecodes⟩ := splits_of_encode zone h
      (by rw [hnone]; exact List.forall_mem_nil _)
    rw [hdecodes, and_iff_left hsplits]

/-- The last second before the epoch. -/
def lastBefore : Calendar.Moment :=
  ⟨-1, 0, by decide⟩

/-- Times in an array, one of them of a date, and decimals in an array of arrays. -/
theorem exists_decode_encode_iff_arrays :
    ((array (nullable (dateTime none))).encode (.array [.date .epoch, .null, .moment .epoch])
        = .ok "[0,NULL,0]" ∧
      ∃ w, (array (nullable (dateTime none))).decode .utc "[0,NULL,0]" = .ok w) ∧
    (array (array (decimal 10 2))).encode (.array [.array [.text "-1.50"], .array []])
        = .ok "[[-1.50],[]]" ∧
      ∃ w, (array (array (decimal 10 2))).decode .utc "[[-1.50],[]]" = .ok w := by
  have htimes : (array (nullable (dateTime none))).encode
      (.array [.date .epoch, .null, .moment .epoch]) = .ok "[0,NULL,0]" := rfl
  have hdecimals : (array (array (decimal 10 2))).encode
      (.array [.array [.text "-1.50"], .array []]) = .ok "[[-1.50],[]]" := rfl
  refine ⟨⟨htimes, ?_⟩, hdecimals, ?_⟩
  · obtain ⟨hread, hsplits⟩ := exists_decode_encode_iff .utc htimes
    exact hread.2 ⟨by decide, hsplits (List.forall_mem_nil _)⟩
  · obtain ⟨hread, hsplits⟩ := exists_decode_encode_iff .utc hdecimals
    refine hread.2 ⟨List.forall_mem_nil _, hsplits (List.forall_mem_singleton.2 ?_)⟩
    exact ⟨_, .word _ (by decide) (List.all_eq_true.1 (by decide))⟩

/-- A time before the epoch is written and not read, and neither is the text of a decimal that ends
the array it stands in. -/
theorem not_read_back :
    (dateTime none).encode (.moment lastBefore) = .ok "-1" ∧
      (∀ zone w, (dateTime none).decode zone "-1" ≠ .ok w) ∧
    (array (decimal 10 2)).encode (.array [.text "1]"]) = .ok "[1]]" ∧
      ∀ zone w, (array (decimal 10 2)).decode zone "[1]]" ≠ .ok w := by
  have htime : (dateTime none).encode (.moment lastBefore) = .ok "-1" := rfl
  have hdecimal : (array (decimal 10 2)).encode (.array [.text "1]"]) = .ok "[1]]" := rfl
  refine ⟨htime, fun zone w hw => ?_, hdecimal, fun zone w hw => ?_⟩
  · exact absurd ((exists_decode_plain_iff rfl htime).1 ⟨w, hw⟩) (by decide)
  · obtain ⟨elements, helements, -⟩ := (exists_decode_decimals_iff rfl hdecimal).1 ⟨w, hw⟩
    have hnone : Tsv.readArray? "[1]]" = none := by decide
    exact absurd (hnone.symm.trans helements) (by simp)

end Columnar.ColumnType
