import Columnar.Proofs.ServerError.Layout

/-!
Error texts that are kept as they are.

The layouts are stated here as what a text is made of (`Layout`), whatever its message holds. What
is read in a layout is made so (`laidOut_of_mem`), and a text that is made so is read with the same
digits (`LaidOut.exists_mem`). In any two readings of a text they are the same
(`LaidOut.digits_eq`), so digits that are no code in one layout are none in the next one either. So
a text is decoded if it has a code, and kept as a whole if it has none (`ofText_cases`). The code 0
is the mark of a text that could not be read, and a text that has this code loses all but its
message (`keeps_text_iff`).
-/

namespace Columnar.ServerError

/-- The texts in one of the three layouts, with the digits of the code and the message. -/
inductive Layout (digits message : List Char) : List Char → Prop
  | repeated {type rest : List Char} {point first : Char} : IsTypeName type →
      isWordChar first = true → Layout digits message
        ("Code: ".toList ++ (digits ++ (", e.displayText() = ".toList ++ (type ++ (": ".toList ++
          (message ++ (", e".toList ++ point :: ("what() = ".toList ++ first :: rest))))))))
  | displayed {type : List Char} : IsTypeName type → Layout digits message
      ("Code: ".toList ++ (digits ++ (", e.displayText() = ".toList ++
        (type ++ (": ".toList ++ message)))))
  | plain {type : List Char} {sign : Char} : IsTypeName type → Layout digits message
      ("Code: ".toList ++ (digits ++ sign :: ' ' :: (type ++ (": ".toList ++ message))))

/-- A text in one of the layouts, with digits of any script and a message. -/
structure LaidOut (digits message s : List Char) : Prop where
  isAnyDigit : ∀ c ∈ digits, Text.isAnyDigit c = true
  ne_nil : message ≠ []
  layout : Layout digits message s

/-- The digits of a code: ASCII digits of a number with 32 binary places. -/
structure IsCode (digits : List Char) (code : Nat) : Prop where
  ne_nil : digits ≠ []
  isDigit : ∀ c ∈ digits, c.isDigit = true
  value_eq : Text.digitsValue digits = code
  lt : code < 2 ^ 32

/-- A text that has a code in one of the layouts. -/
def HasCode (text : String) (code : Nat) : Prop :=
  ∃ digits message, IsCode digits code ∧ LaidOut digits message text.toList

variable {digits message digits' message' s : List Char}

/-! ### The readings of a text -/

/-- The readings of a text in the three layouts, in the order in which they are tried. -/
def readings (s : List Char) : List (Option (List Char × List Char)) :=
  [readRepeated? s, readDisplay? s, readPlain? s]

theorem ofText_eq (text : String) : ofText text =
    ((readings text.toList).findSome? fun reading => reading.bind ofParts?).getD ⟨0, text⟩ := rfl

/-- What is read in a layout is laid out so. -/
theorem laidOut_of_mem (h : some (digits, message) ∈ readings s) : LaidOut digits message s := by
  simp only [readings, List.mem_cons, List.not_mem_nil, or_false] at h
  rcases h with h | h | h
  · obtain ⟨typed, hdisplay, hbefore⟩ := readRepeated?_eq_some_iff.1 h.symm
    obtain ⟨hdigits, type, htype, rfl⟩ := afterDisplay?_eq_some_iff.1 hdisplay
    obtain ⟨hne, echo, hecho, rfl⟩ := exists_of_beforeRepeatedType? hbefore
    obtain ⟨point, first, rest, hfirst, rfl⟩ := exists_of_startsRepeatedType hecho
    have hassoc : (", e".toList ++ point :: "what() =".toList) ++ ' ' :: first :: rest
        = ", e".toList ++ point :: ("what() = ".toList ++ first :: rest) := by simp
    exact ⟨hdigits, hne, hassoc ▸ .repeated htype hfirst⟩
  · obtain ⟨hdisplay, hne⟩ := readDisplay?_eq_some_iff.1 h.symm
    obtain ⟨hdigits, type, htype, rfl⟩ := afterDisplay?_eq_some_iff.1 hdisplay
    exact ⟨hdigits, hne, .displayed htype⟩
  · obtain ⟨hdigits, hne, sign, type, htype, rfl⟩ := readPlain?_eq_some_iff.1 h.symm
    exact ⟨hdigits, hne, .plain htype⟩

/-- A text in a layout is read with the type in front or with a sign. The message need not be the
same: an echo in it ends it sooner. -/
theorem LaidOut.read (h : LaidOut digits message s) :
    (∃ found, found ≠ [] ∧ afterDisplay? s = some (digits, found)) ∨
      readPlain? s = some (digits, message) := by
  obtain ⟨hdigits, hne, hlayout⟩ := h
  cases hlayout with
  | @repeated type rest point first htype hfirst =>
    exact .inl ⟨_, List.append_ne_nil_of_left_ne_nil hne _,
      afterDisplay?_eq_some_iff.2 ⟨hdigits, type, htype, rfl⟩⟩
  | @displayed type htype =>
    exact .inl ⟨_, hne, afterDisplay?_eq_some_iff.2 ⟨hdigits, type, htype, rfl⟩⟩
  | @plain type sign htype =>
    exact .inr (readPlain?_eq_some_iff.2 ⟨hdigits, hne, sign, type, htype, rfl⟩)

/-- A text in a layout is read with the digits that it has there. -/
theorem LaidOut.exists_mem (h : LaidOut digits message s) :
    ∃ found, some (digits, found) ∈ readings s := by
  rcases h.read with ⟨found, hne, hread⟩ | hread
  · exact ⟨found, by simp [readings, readDisplay?_eq_some_iff.2 ⟨hread, hne⟩]⟩
  · exact ⟨message, by simp [readings, hread]⟩

/-- A text has the same digits in all layouts that it is in. -/
theorem LaidOut.digits_eq (h : LaidOut digits message s) (h' : LaidOut digits' message' s) :
    digits = digits' := by
  rcases h.read with ⟨found, -, hread⟩ | hread <;> rcases h'.read with ⟨found', -, hread'⟩ | hread'
  · exact (Prod.mk.inj (Option.some.inj (hread.symm.trans hread'))).1
  · exact absurd ((readPlain?_of_afterDisplay? hread).symm.trans hread') (by simp)
  · exact absurd ((readPlain?_of_afterDisplay? hread').symm.trans hread) (by simp)
  · exact (Prod.mk.inj (Option.some.inj (hread.symm.trans hread'))).1

/-- A text has one code at most. -/
theorem HasCode.eq {text : String} {code code' : Nat} (h : HasCode text code)
    (h' : HasCode text code') : code = code' := by
  obtain ⟨digits, message, hcode, hlaid⟩ := h
  obtain ⟨digits', message', hcode', hlaid'⟩ := h'
  rw [← hcode.value_eq, ← hcode'.value_eq, hlaid.digits_eq hlaid']

/-! ### The error of a reading -/

/-- Digits of any script are a code if they are ASCII digits and their number is not too great. -/
theorem ofParts?_eq_some_iff {e : ServerError} (hdigits : ∀ c ∈ digits, Text.isAnyDigit c = true) :
    ofParts? (digits, message) = some e ↔
      IsCode digits e.code ∧ e.message = String.ofList (Text.trim (withoutTag message)) := by
  have hhead : digits.head? ≠ some '+' := fun hplus =>
    absurd (hdigits _ (List.mem_of_head? hplus)) (by decide)
  have hmax : ∀ n, n ≤ maxCode ↔ n < 2 ^ 32 := fun n => Nat.le_sub_one_iff_lt (by decide)
  rw [ofParts?]
  simp only [Text.readNat?_of_head? hhead, Option.map_eq_some_iff, Option.filter_eq_some_iff,
    Text.readDigits?_eq_some_iff, decide_eq_true_eq, hmax]
  constructor
  · rintro ⟨code, ⟨⟨hne, hdigit, hvalue⟩, hlt⟩, rfl⟩
    exact ⟨⟨hne, hdigit, hvalue, hlt⟩, rfl⟩
  · rintro ⟨⟨hne, hdigit, hvalue, hlt⟩, hmessage⟩
    exact ⟨e.code, ⟨⟨hne, hdigit, hvalue⟩, hlt⟩, by rw [← hmessage]⟩

/-- The message is a part of the text, and the code is not in it. -/
theorem Layout.length_lt (h : Layout digits message s) : message.length < s.length := by
  have hcode : "Code: ".toList.length = 6 := rfl
  cases h <;> simp only [List.length_append, List.length_cons] <;> omega

theorem length_message_le (message : List Char) :
    (String.ofList (Text.trim (withoutTag message))).length ≤ message.length := by
  rw [String.length_ofList]
  exact (Text.trim_sublist _).length_le.trans (withoutTag_isPrefix message).length_le

/-- The error of a text has the code of the text and a part of it for the message; a text without a
code becomes an undecoded error as a whole. -/
theorem ofText_cases (text : String) :
    (HasCode text (ofText text).code ∧ (ofText text).message.length < text.length) ∨
      ((∀ code, ¬ HasCode text code) ∧ ofText text = ⟨0, text⟩) := by
  rw [ofText_eq]
  cases hfound : (readings text.toList).findSome? fun reading => reading.bind ofParts? with
  | none =>
    refine .inr ⟨?_, rfl⟩
    rintro code ⟨digits, message, hcode, hlaid⟩
    obtain ⟨found, hmem⟩ := hlaid.exists_mem
    have hparts : ofParts? (digits, found) = some ⟨code, _⟩ :=
      (ofParts?_eq_some_iff hlaid.isAnyDigit).2 ⟨hcode, rfl⟩
    exact absurd (hparts.symm.trans (List.findSome?_eq_none_iff.1 hfound _ hmem)) (by simp)
  | some e =>
    obtain ⟨reading, hmem, hreading⟩ := List.exists_of_findSome?_eq_some hfound
    obtain ⟨⟨digits, message⟩, rfl, hparts⟩ := Option.bind_eq_some_iff.1 hreading
    have hlaid : LaidOut digits message text.toList := laidOut_of_mem hmem
    obtain ⟨hcode, hmessage⟩ := (ofParts?_eq_some_iff hlaid.isAnyDigit).1 hparts
    refine .inl ⟨⟨digits, message, hcode, hlaid⟩, ?_⟩
    calc e.message.length ≤ message.length := hmessage ▸ length_message_le message
      _ < text.toList.length := hlaid.layout.length_lt
      _ = text.length := String.length_toList

/-! ### Undecoded errors -/

theorem isDecoded_eq_false_iff {e : ServerError} : e.isDecoded = false ↔ e.code = 0 :=
  bne_eq_false_iff_eq

/-- An error counts as undecoded if the text has no code but 0. Then its message and its line are
the text, unless the text does have the code 0. -/
theorem keeps_text_iff (text : String) :
    ((ofText text).isDecoded = false ↔ ∀ code, HasCode text code → code = 0) ∧
      (((ofText text).isDecoded = false →
          (ofText text).message = text ∧ (ofText text).summary = text) ↔
        ¬ HasCode text 0) := by
  rw [isDecoded_eq_false_iff]
  rcases ofText_cases text with ⟨hcode, hlength⟩ | ⟨hnone, hkept⟩
  · have hlost : (ofText text).message ≠ text := fun h => absurd (h ▸ hlength) (Nat.lt_irrefl _)
    refine ⟨⟨fun hzero code h => (h.eq hcode).trans hzero, fun h => h _ hcode⟩, ?_⟩
    constructor
    · exact fun h hzero => hlost (h (hcode.eq hzero)).1
    · exact fun hnot hzero => absurd (hzero ▸ hcode) hnot
  · rw [hkept]
    refine ⟨⟨fun _ code h => absurd h (hnone code), fun _ => rfl⟩, ?_⟩
    exact ⟨fun _ => hnone 0, fun _ _ => ⟨rfl, rfl⟩⟩

/-- A code that is too great is none. -/
example : ofText "Code: 4294967296. DB::Exception: gone"
    = ⟨0, "Code: 4294967296. DB::Exception: gone"⟩ := by
  decide +kernel

/-- A text with the code 0 is read, counts as not read and loses its code, its type and its tag. -/
theorem zero_code_loses_text :
    HasCode "Code: 0. DB::Exception: gone (A)" 0 ∧
      ofText "Code: 0. DB::Exception: gone (A)" = ⟨0, "gone"⟩ ∧
      (ofText "Code: 0. DB::Exception: gone (A)").isDecoded = false ∧
      (ofText "Code: 0. DB::Exception: gone (A)").summary = "gone" ∧
      ¬ ∀ text, (ofText text).isDecoded = false →
        (ofText text).message = text ∧ (ofText text).summary = text := by
  have htype : IsTypeName "DB::Exception".toList := by decide
  have hcode : HasCode "Code: 0. DB::Exception: gone (A)" 0 :=
    ⟨['0'], "gone (A)".toList,
      ⟨by decide, List.forall_mem_singleton.2 (by decide), rfl, by decide⟩,
      ⟨List.forall_mem_singleton.2 (by decide), by decide, .plain htype⟩⟩
  have hread : ofText "Code: 0. DB::Exception: gone (A)" = ⟨0, "gone"⟩ := by decide +kernel
  refine ⟨hcode, hread, by rw [hread]; rfl, by rw [hread]; rfl, fun h => ?_⟩
  obtain ⟨hmessage, -⟩ := h "Code: 0. DB::Exception: gone (A)" (by rw [hread]; rfl)
  rw [hread] at hmessage
  exact absurd hmessage (by decide)

end Columnar.ServerError
