import Columnar.Proofs.ServerError.Tag
import Columnar.Proofs.Text.Numeral
import Mathlib.Tactic.IntervalCases

/-!
Error texts and the errors they are read as.

The layouts are read from the front: the code and the type (`afterDisplay?_eq_some_iff`), or the
code, a sign and the type (`readPlain?_eq_some_iff`), where the sign may be a digit that the code
has to give back. No text can be read in both ways (`readPlain?_of_afterDisplay?`).

A report is a text that the server writes for an error, in one of the layouts (`Reports`). It is
read back as the code and the message without blanks around it, whatever else the message holds
(`ofText_of_reports`): the type of the error has no space in it, so the first colon with a space
behind it is the one that ends the type, and no echo of the type begins within a message and ends
behind it (`startsRepeatedType_append`).
-/

namespace Columnar.ServerError

/-- The name of an error type: without a space and an end of a line. -/
def IsTypeName (s : List Char) : Prop :=
  s ≠ [] ∧ ∀ c ∈ s, isWordChar c = true

instance : DecidablePred IsTypeName :=
  fun s => decidable_of_iff (s ≠ [] ∧ s.all isWordChar = true) (and_congr_right' List.all_eq_true)

/-- A message that holds no echo of the type, and does not end like a tag. -/
structure IsUnmarked (message : String) : Prop where
  ne_empty : message ≠ ""
  noEcho : ¬ "what() =".toList <:+: message.toList
  notClosed : (Text.trimEnd message.toList).getLast? ≠ some ')'

/-- The texts that report an error, in the three layouts. -/
inductive Reports (code : Nat) (message : String) : String → Prop
  | repeated {type last rest : String} : IsTypeName type.toList → IsTypeName last.toList →
      IsUnmarked message → Reports code message
        ("Code: " ++ toString code ++ ", e.displayText() = " ++ type ++ ": " ++ message
          ++ ", e.what() = " ++ last ++ rest)
  | displayed {type : String} : IsTypeName type.toList → IsUnmarked message →
      Reports code message
        ("Code: " ++ toString code ++ ", e.displayText() = " ++ type ++ ": " ++ message)
  | tagged {type tag ending : String} : IsTypeName type.toList → IsTagName tag.toList →
      IsEnding ending.toList → Reports code message
        ("Code: " ++ toString code ++ ". " ++ type ++ ": " ++ message ++ " (" ++ tag ++ ")"
          ++ ending)

variable {code : Nat} {type digits message s rest : List Char}

/-! ### The code and the type -/

theorem isAnyDigit_of_mem_toDigits {c : Char} (h : c ∈ Nat.toDigits 10 code) :
    Text.isAnyDigit c = true :=
  Text.isAnyDigit_of_isDigit (Text.isDigit_of_mem_toDigits h)

/-- The colon behind the name of the type ends it. -/
theorem afterType?_append (htype : IsTypeName type) (s : List Char) :
    afterType? (type ++ (": ".toList ++ s)) = some s := by
  have hword : ∀ c ∈ type ++ [':'], isWordChar c = true := by
    intro c hc
    rcases List.mem_append.1 hc with hc | hc
    · exact htype.2 c hc
    · rw [List.mem_singleton.1 hc]
      decide
  have hs : type ++ (": ".toList ++ s) = (type ++ [':']) ++ ' ' :: s := by simp
  obtain ⟨htake, hdrop⟩ := Text.span_append_cons hword (c := ' ') (by decide) s
  have hpos : 0 < type.length := List.length_pos_iff.2 htype.1
  have hlength : (decide ((type ++ [':']).length ≥ 2)
      && (type ++ [':']).getLast? == some ':') = true := by
    rw [List.getLast?_concat, List.length_append, List.length_singleton]
    simp only [BEq.rfl, Bool.and_true, decide_eq_true_eq]
    omega
  rw [hs, afterType?]
  simp only [htake, hdrop, hlength]

/-- A type is stepped over if it has a name, and a colon and a space behind it. -/
theorem afterType?_eq_some_iff :
    afterType? s = some rest ↔ ∃ type, IsTypeName type ∧ s = type ++ (": ".toList ++ rest) := by
  constructor
  · intro h
    unfold afterType? at h
    simp only at h
    split at h
    · next found hword hdrop =>
      obtain rfl := Option.some.inj h
      simp only [Bool.and_eq_true, decide_eq_true_eq, beq_iff_eq] at hword
      obtain ⟨hlength, hlast⟩ := hword
      obtain ⟨type, htype⟩ := List.getLast?_eq_some_iff.1 hlast
      refine ⟨type, ⟨?_, fun c hc => ?_⟩, ?_⟩
      · rintro rfl
        rw [htype] at hlength
        exact absurd hlength (by decide)
      · have hmem : c ∈ s.takeWhile isWordChar := htype ▸ List.mem_append_left _ hc
        exact List.mem_takeWhile_imp hmem
      · calc s = s.takeWhile isWordChar ++ s.dropWhile isWordChar :=
              List.takeWhile_append_dropWhile.symm
          _ = (type ++ [':']) ++ ' ' :: found := by rw [htype, hdrop]
          _ = type ++ (": ".toList ++ found) := by simp
    · exact absurd h (by simp)
  · rintro ⟨type, htype, rfl⟩
    exact afterType?_append htype rest

theorem nonempty?_eq_some {s : List Char} (hne : s ≠ []) : nonempty? s = some s :=
  if_neg (by simpa using hne)

theorem nonempty?_eq_some_iff : nonempty? s = some rest ↔ s = rest ∧ rest ≠ [] := by
  constructor
  · intro h
    unfold nonempty? at h
    split at h
    · exact absurd h (by simp)
    · next hne =>
      obtain rfl := Option.some.inj h
      exact ⟨rfl, by simpa using hne⟩
  · rintro ⟨rfl, hne⟩
    exact nonempty?_eq_some hne

theorem after?_append (beginning : String) (rest : List Char) :
    after? beginning (beginning.toList ++ rest) = some rest :=
  after?_eq_some_iff.2 rfl

/-! ### The layouts with the type in front -/

theorem afterDisplay?_eq_some_iff : afterDisplay? s = some (digits, message) ↔
    (∀ c ∈ digits, Text.isAnyDigit c = true) ∧ ∃ type, IsTypeName type ∧
      s = "Code: ".toList ++ (digits ++ (", e.displayText() = ".toList ++
        (type ++ (": ".toList ++ message)))) := by
  constructor
  · intro h
    obtain ⟨coded, hcoded, h⟩ := Option.bind_eq_some_iff.1 h
    obtain ⟨displayed, hdisplayed, h⟩ := Option.bind_eq_some_iff.1 h
    obtain ⟨found, htyped, h⟩ := Option.bind_eq_some_iff.1 h
    obtain ⟨rfl, rfl⟩ := Prod.mk.inj (Option.some.inj h)
    obtain ⟨type, htype, rfl⟩ := afterType?_eq_some_iff.1 htyped
    rw [after?_eq_some_iff] at hcoded hdisplayed
    refine ⟨fun c hc => List.mem_takeWhile_imp hc, type, htype, ?_⟩
    rw [hcoded, ← hdisplayed, List.takeWhile_append_dropWhile]
  · rintro ⟨hdigits, type, htype, rfl⟩
    obtain ⟨htake, hdrop⟩ := Text.span_append_cons hdigits (c := ',') (by decide)
      (" e.displayText() = ".toList ++ (type ++ (": ".toList ++ message)))
    have hcomma : ", e.displayText() = ".toList = ',' :: " e.displayText() = ".toList := rfl
    rw [afterDisplay?, after?_append, Option.bind_eq_bind, Option.bind_some, hcomma,
      List.cons_append, htake, hdrop, ← List.cons_append, ← hcomma, after?_append]
    simp only [Option.bind_some, afterType?_append htype, Option.pure_def]

/-- The beginning of the texts with the type in front. -/
def display (code : Nat) (type s : List Char) : List Char :=
  "Code: ".toList ++ (Nat.toDigits 10 code ++ (", e.displayText() = ".toList ++
    (type ++ (": ".toList ++ s))))

theorem display_eq (code : Nat) (type s : List Char) :
    display code type s = "Code: ".toList ++ (Nat.toDigits 10 code ++
      (", e.displayText() = ".toList ++ (type ++ (": ".toList ++ s)))) := rfl

theorem afterDisplay?_display (htype : IsTypeName type) (s : List Char) :
    afterDisplay? (display code type s) = some (Nat.toDigits 10 code, s) :=
  afterDisplay?_eq_some_iff.2
    ⟨fun _ hc => isAnyDigit_of_mem_toDigits hc, type, htype, display_eq code type s⟩

theorem readRepeated?_display (htype : IsTypeName type) (s : List Char) :
    readRepeated? (display code type s)
      = (beforeRepeatedType? s).map fun message => (Nat.toDigits 10 code, message) := by
  rw [readRepeated?, afterDisplay?_display htype]
  cases h : beforeRepeatedType? s <;> simp [h]

theorem readRepeated?_eq_some_iff : readRepeated? s = some (digits, message) ↔
    ∃ typed, afterDisplay? s = some (digits, typed) ∧ beforeRepeatedType? typed = some message := by
  constructor
  · intro h
    obtain ⟨⟨run, typed⟩, hdisplay, h⟩ := Option.bind_eq_some_iff.1 h
    obtain ⟨found, hfound, h⟩ := Option.bind_eq_some_iff.1 h
    obtain ⟨rfl, rfl⟩ := Prod.mk.inj (Option.some.inj h)
    exact ⟨typed, hdisplay, hfound⟩
  · rintro ⟨typed, hdisplay, hfound⟩
    simp [readRepeated?, hdisplay, hfound]

/-- The layout without the type at the end takes any message. -/
theorem readDisplay?_eq_some_iff : readDisplay? s = some (digits, message) ↔
    afterDisplay? s = some (digits, message) ∧ message ≠ [] := by
  constructor
  · intro h
    obtain ⟨⟨run, typed⟩, hdisplay, h⟩ := Option.bind_eq_some_iff.1 h
    obtain ⟨found, hfound, h⟩ := Option.bind_eq_some_iff.1 h
    obtain ⟨rfl, rfl⟩ := Prod.mk.inj (Option.some.inj h)
    obtain ⟨rfl, hne⟩ := nonempty?_eq_some_iff.1 hfound
    exact ⟨hdisplay, hne⟩
  · rintro ⟨hdisplay, hne⟩
    simp [readDisplay?, hdisplay, nonempty?_eq_some hne]

theorem readDisplay?_display (htype : IsTypeName type) {s : List Char} (hne : s ≠ []) :
    readDisplay? (display code type s) = some (Nat.toDigits 10 code, s) :=
  readDisplay?_eq_some_iff.2 ⟨afterDisplay?_display htype s, hne⟩

/-! ### The layout with a sign after the code -/

theorem afterSignAndType?_eq_some_iff : afterSignAndType? s = some message ↔
    message ≠ [] ∧ ∃ sign type, IsTypeName type ∧
      s = sign :: ' ' :: (type ++ (": ".toList ++ message)) := by
  constructor
  · intro h
    obtain ⟨signed, hsign, h⟩ := Option.bind_eq_some_iff.1 h
    obtain ⟨typed, htyped, h⟩ := Option.bind_eq_some_iff.1 h
    obtain ⟨rfl, hne⟩ := nonempty?_eq_some_iff.1 h
    obtain ⟨type, htype, rfl⟩ := afterType?_eq_some_iff.1 htyped
    unfold afterSign? at hsign
    split at hsign
    · next sign _ => exact ⟨hne, sign, type, htype, by rw [Option.some.inj hsign]⟩
    · exact absurd hsign (by simp)
  · rintro ⟨hne, sign, type, htype, rfl⟩
    rw [afterSignAndType?, afterSign?]
    simp only [Option.bind_eq_bind, Option.bind_some, afterType?_append htype,
      nonempty?_eq_some hne]

/-- A space in front of the type is not a sign with a space behind it. -/
theorem afterSignAndType?_space (htype : IsTypeName type) (s : List Char) :
    afterSignAndType? (' ' :: (type ++ s)) = none := by
  obtain ⟨hne, hword⟩ := htype
  cases type with
  | nil => exact absurd rfl hne
  | cons c type =>
    have hc : c ≠ ' ' := by
      rintro rfl
      exact absurd (hword ' ' List.mem_cons_self) (by decide)
    rw [afterSignAndType?, List.cons_append, afterSign?]
    · rfl
    · exact fun _ _ heq => hc (List.cons.inj (List.cons.inj heq).2).1

/-- Behind all the digits stands the sign, or else the last digit is the sign. -/
theorem readPlain?_append (hdigits : ∀ c ∈ digits, Text.isAnyDigit c = true)
    (hrest : ∀ c, rest.head? = some c → Text.isAnyDigit c = false) :
    readPlain? ("Code: ".toList ++ (digits ++ rest))
      = ((afterSignAndType? rest).map fun message => (digits, message)).or
        ((afterSignAndType? (digits.drop (digits.length - 1) ++ rest)).map fun message =>
          (digits.dropLast, message)) := by
  obtain ⟨htake, hdrop⟩ := Text.span_append hdigits hrest
  rw [readPlain?, after?_append, Option.bind_eq_bind, Option.bind_some]
  simp only [htake, hdrop]
  exact Option.orElse_eq_or

theorem readPlain?_append_cons {c : Char} (hdigits : ∀ d ∈ digits, Text.isAnyDigit d = true)
    (hc : Text.isAnyDigit c = false) (rest : List Char) :
    readPlain? ("Code: ".toList ++ (digits ++ c :: rest))
      = ((afterSignAndType? (c :: rest)).map fun message => (digits, message)).or
        ((afterSignAndType? (digits.drop (digits.length - 1) ++ c :: rest)).map fun message =>
          (digits.dropLast, message)) := by
  refine readPlain?_append hdigits fun d hd => ?_
  rwa [← Option.some.inj hd]

theorem readPlain?_eq_some_iff : readPlain? s = some (digits, message) ↔
    (∀ c ∈ digits, Text.isAnyDigit c = true) ∧ message ≠ [] ∧ ∃ sign type, IsTypeName type ∧
      s = "Code: ".toList ++ (digits ++ sign :: ' ' :: (type ++ (": ".toList ++ message))) := by
  constructor
  · intro h
    obtain ⟨coded, hcoded, -⟩ := Option.bind_eq_some_iff.1 h
    rw [after?_eq_some_iff] at hcoded
    obtain ⟨run, rest, rfl, hrun, hrest⟩ := Text.exists_span Text.isAnyDigit coded
    rw [hcoded, readPlain?_append hrun hrest, Option.or_eq_some_iff] at h
    rcases h with h | ⟨-, h⟩ <;> obtain ⟨found, hfound, hparts⟩ := Option.map_eq_some_iff.1 h <;>
      obtain ⟨rfl, rfl⟩ := Prod.mk.inj hparts <;>
      obtain ⟨hne, sign, type, htype, heq⟩ := afterSignAndType?_eq_some_iff.1 hfound
    · exact ⟨hrun, hne, sign, type, htype, by rw [hcoded, heq]⟩
    · refine ⟨fun c hc => hrun c (List.dropLast_subset _ hc), hne, sign, type, htype, ?_⟩
      rw [hcoded, ← heq, List.dropLast_eq_take, ← List.append_assoc (run.take _),
        List.take_append_drop]
  · rintro ⟨hdigits, hne, sign, type, htype, rfl⟩
    have hsign : afterSignAndType? (sign :: ' ' :: (type ++ (": ".toList ++ message)))
        = some message := afterSignAndType?_eq_some_iff.2 ⟨hne, sign, type, htype, rfl⟩
    cases hdigit : Text.isAnyDigit sign with
    | false =>
      rw [readPlain?_append_cons hdigits hdigit, hsign]
      rfl
    | true =>
      -- the digits run on over the sign, which is taken back
      have hrun : ∀ c ∈ digits ++ [sign], Text.isAnyDigit c = true := by
        simpa [or_imp, forall_and] using ⟨hdigits, hdigit⟩
      have hlast : (digits ++ [sign]).drop ((digits ++ [sign]).length - 1) = [sign] := by simp
      rw [List.append_cons, readPlain?_append_cons hrun (by decide),
        afterSignAndType?_space htype, hlast, List.singleton_append, hsign, List.dropLast_concat]
      rfl

/-- The text for display is no type. -/
theorem afterSignAndType?_display (s : List Char) :
    afterSignAndType? (", e.displayText() = ".toList ++ s) = none := rfl

/-- No text is in a layout with the type in front and in the one with a sign. -/
theorem readPlain?_of_afterDisplay? (h : afterDisplay? s = some (digits, message)) :
    readPlain? s = none := by
  obtain ⟨hdigits, type, -, rfl⟩ := afterDisplay?_eq_some_iff.1 h
  generalize type ++ (": ".toList ++ message) = typed
  have hcomma : ", e.displayText() = ".toList ++ typed
      = ',' :: (" e.displayText() = ".toList ++ typed) := rfl
  -- the comma is no space, so the last digit is no sign either
  have hlast : afterSignAndType? (digits.drop (digits.length - 1) ++
      (", e.displayText() = ".toList ++ typed)) = none := by
    rcases List.eq_nil_or_concat digits with rfl | ⟨front, last, rfl⟩
    · exact afterSignAndType?_display typed
    · rw [List.concat_eq_append, List.length_append, List.length_singleton, Nat.add_sub_cancel,
        List.drop_left]
      rfl
  rw [hcomma, readPlain?_append_cons hdigits (by decide), ← hcomma, hlast,
    afterSignAndType?_display]
  rfl

/-- The texts with a point behind the code. -/
def plain (code : Nat) (type s : List Char) : List Char :=
  "Code: ".toList ++ (Nat.toDigits 10 code ++ (". ".toList ++ (type ++ (": ".toList ++ s))))

theorem plain_eq (code : Nat) (type s : List Char) :
    plain code type s = "Code: ".toList ++ (Nat.toDigits 10 code ++
      (". ".toList ++ (type ++ (": ".toList ++ s)))) := rfl

theorem plain_eq_cons (code : Nat) (type s : List Char) :
    plain code type s = "Code: ".toList ++ (Nat.toDigits 10 code ++
      '.' :: (' ' :: (type ++ (": ".toList ++ s)))) := rfl

theorem afterDisplay?_plain (s : List Char) : afterDisplay? (plain code type s) = none := by
  have hdigits : ∀ c ∈ Nat.toDigits 10 code, Text.isAnyDigit c = true :=
    fun _ hc => isAnyDigit_of_mem_toDigits hc
  obtain ⟨-, hdrop⟩ := Text.span_append_cons hdigits (c := '.') (by decide)
    (' ' :: (type ++ (": ".toList ++ s)))
  have hnone : after? ", e.displayText() = " ('.' :: ' ' :: (type ++ (": ".toList ++ s)))
      = none := by
    rw [after?_eq_none_iff]
    rintro ⟨rest, hrest⟩
    exact absurd (List.cons.inj hrest).1 (by decide)
  rw [afterDisplay?, plain_eq_cons, after?_append, Option.bind_eq_bind, Option.bind_some, hdrop,
    hnone]
  rfl

theorem readPlain?_plain (htype : IsTypeName type) {s : List Char} (hne : s ≠ []) :
    readPlain? (plain code type s) = some (Nat.toDigits 10 code, s) :=
  readPlain?_eq_some_iff.2 ⟨fun _ hc => isAnyDigit_of_mem_toDigits hc, hne, '.', type, htype,
    plain_eq_cons code type s⟩

/-! ### The echo of the type -/

theorem exists_of_startsRepeatedType {s : List Char} (h : startsRepeatedType s = true) :
    ∃ any first rest, isWordChar first = true ∧
      s = (", e".toList ++ any :: "what() =".toList) ++ ' ' :: first :: rest := by
  unfold startsRepeatedType at h
  split at h
  · next c rest hbind =>
    obtain ⟨behind, hbehind, hwhat⟩ := Option.bind_eq_some_iff.1 hbind
    rw [after?_eq_some_iff] at hbehind hwhat
    cases behind with
    | nil => exact absurd hwhat (by simp)
    | cons any more =>
      rw [List.drop_one, List.tail_cons] at hwhat
      exact ⟨any, c, rest, h, by rw [hbehind, hwhat]; simp⟩
  · exact absurd h (by simp)

theorem startsRepeatedType_echo {last : List Char} (hlast : IsTypeName last) (rest : List Char) :
    startsRepeatedType (", e.what() = ".toList ++ (last ++ rest)) = true := by
  obtain ⟨hne, hword⟩ := hlast
  cases last with
  | nil => exact absurd rfl hne
  | cons c last =>
    have hecho : ", e.what() = ".toList ++ (c :: last ++ rest)
        = ", e".toList ++ '.' :: ("what() = ".toList ++ c :: (last ++ rest)) := rfl
    rw [hecho, startsRepeatedType, after?_append, Option.bind_some, List.drop_one, List.tail_cons,
      after?_append]
    exact hword c List.mem_cons_self

/-- No echo begins in a message without one and ends behind it. -/
theorem startsRepeatedType_append {m : List Char} (hne : m ≠ []) (hm : ¬ "what() =".toList <:+: m)
    (rest : List Char) : startsRepeatedType (m ++ (", e.what() = ".toList ++ rest)) = false := by
  by_contra h
  rw [Bool.not_eq_false] at h
  obtain ⟨any, first, more, -, heq⟩ := exists_of_startsRepeatedType h
  by_cases hlength : 12 ≤ m.length
  · -- the whole echo but for its last space lies in the message
    have hprefix : ", e".toList ++ any :: "what() =".toList <+: m :=
      List.prefix_of_prefix_length_le ⟨' ' :: first :: more, heq.symm⟩ ⟨_, rfl⟩ hlength
    have hsuffix : "what() =".toList <:+ ", e".toList ++ any :: "what() =".toList :=
      ⟨", e".toList ++ [any], by simp⟩
    exact hm (hsuffix.isInfix.trans hprefix.isInfix)
  · -- the comma behind the message would be one of the echo, but none of them has a space behind it
    have hcomma : (m ++ (", e.what() = ".toList ++ rest))[m.length]? = some ',' := by
      rw [List.getElem?_append_right (Nat.le_refl _), Nat.sub_self]
      rfl
    have hspace : (m ++ (", e.what() = ".toList ++ rest))[m.length + 1]? = some ' ' := by
      rw [List.getElem?_append_right (Nat.le_add_right _ _), Nat.add_sub_cancel_left]
      rfl
    have hpos : 0 < m.length := List.length_pos_iff.2 hne
    rw [heq] at hcomma hspace
    generalize m.length = k at hcomma hspace hpos hlength
    interval_cases k <;> simp at hcomma hspace

theorem beforeRepeatedType?_append {last : List Char} (hlast : IsTypeName last)
    (rest : List Char) : ∀ {m : List Char}, m ≠ [] → ¬ "what() =".toList <:+: m →
    beforeRepeatedType? (m ++ (", e.what() = ".toList ++ (last ++ rest))) = some m
  | [], h, _ => absurd rfl h
  | [c], _, _ => by
    rw [List.singleton_append, beforeRepeatedType?, startsRepeatedType_echo hlast, if_pos rfl]
  | c :: d :: m, _, hm => by
    have hrest : ¬ "what() =".toList <:+: d :: m := fun hfound =>
      hm (hfound.trans (List.suffix_cons c (d :: m)).isInfix)
    have hne : d :: m ≠ [] := List.cons_ne_nil d m
    rw [List.cons_append, beforeRepeatedType?, startsRepeatedType_append hne hrest,
      if_neg Bool.false_ne_true, beforeRepeatedType?_append hlast rest hne hrest, Option.map_some]

/-- A message in front of an echo has a character. -/
theorem exists_of_beforeRepeatedType? (h : beforeRepeatedType? s = some message) :
    message ≠ [] ∧ ∃ echo, startsRepeatedType echo = true ∧ s = message ++ echo := by
  fun_induction beforeRepeatedType? s generalizing message with
  | case1 => exact absurd h (by simp)
  | case2 c rest hstarts =>
    obtain rfl := Option.some.inj h
    exact ⟨List.cons_ne_nil _ _, rest, hstarts, rfl⟩
  | case3 c rest hstarts ih =>
    obtain ⟨more, hmore, rfl⟩ := Option.map_eq_some_iff.1 h
    obtain ⟨-, echo, hecho, rfl⟩ := ih hmore
    exact ⟨List.cons_ne_nil _ _, echo, hecho, rfl⟩

/-- No type is repeated in a message without an echo. -/
theorem beforeRepeatedType?_eq_none : ∀ {m : List Char}, ¬ "what() =".toList <:+: m →
    beforeRepeatedType? m = none
  | [], _ => rfl
  | c :: m, hm => by
    have hrest : ¬ "what() =".toList <:+: m := fun hfound =>
      hm (hfound.trans (List.suffix_cons c m).isInfix)
    have hstarts : startsRepeatedType m ≠ true := by
      intro h
      obtain ⟨any, first, rest, -, rfl⟩ := exists_of_startsRepeatedType h
      exact hrest ⟨", e".toList ++ [any], ' ' :: first :: rest, by simp⟩
    rw [beforeRepeatedType?, if_neg hstarts, beforeRepeatedType?_eq_none hrest, Option.map_none]

/-! ### The error -/

theorem ofParts?_toDigits (hcode : code < 2 ^ 32) (s : List Char) :
    ofParts? (Nat.toDigits 10 code, s) = some ⟨code, String.ofList (Text.trim (withoutTag s))⟩ := by
  have hmax : code ≤ maxCode := Nat.le_sub_one_of_lt hcode
  have hread : Text.readNat? maxCode (Nat.toDigits 10 code) = some code := by
    rw [← Nat.toList_repr]
    exact Text.readNat?_toString hmax
  rw [ofParts?]
  simp only [hread, Option.map_some]

/-- A report is read as its code and its message, without the blanks around the message. -/
theorem ofText_of_reports {message text : String} (hcode : code < 2 ^ 32)
    (h : Reports code message text) : ofText text = ⟨code, Text.trimText message⟩ := by
  cases h with
  | @repeated type last rest htype hlast hmessage =>
    have htext : ("Code: " ++ toString code ++ ", e.displayText() = " ++ type ++ ": " ++ message
        ++ ", e.what() = " ++ last ++ rest).toList = display code type.toList
          (message.toList ++ (", e.what() = ".toList ++ (last.toList ++ rest.toList))) := by
      simp only [String.toList_append, List.append_assoc, display_eq, ← Nat.toList_repr]
      rfl
    have hne : message.toList ≠ [] := by simpa using hmessage.ne_empty
    simp only [ofText, htext, List.findSome?_cons, readRepeated?_display htype,
      beforeRepeatedType?_append hlast _ hne hmessage.noEcho, Option.map_some, Option.bind_some,
      ofParts?_toDigits hcode, withoutTag_eq_self hmessage.notClosed, Option.getD_some]
    rfl
  | @displayed type htype hmessage =>
    have htext : ("Code: " ++ toString code ++ ", e.displayText() = " ++ type ++ ": "
        ++ message).toList = display code type.toList message.toList := by
      simp only [String.toList_append, List.append_assoc, display_eq, ← Nat.toList_repr]
      rfl
    have hne : message.toList ≠ [] := by simpa using hmessage.ne_empty
    simp only [ofText, htext, List.findSome?_cons, readRepeated?_display htype,
      beforeRepeatedType?_eq_none hmessage.noEcho, Option.map_none, Option.bind_none,
      readDisplay?_display htype hne, Option.bind_some,
      ofParts?_toDigits hcode, withoutTag_eq_self hmessage.notClosed, Option.getD_some]
    rfl
  | @tagged type tag ending htype htag hending =>
    have htext : ("Code: " ++ toString code ++ ". " ++ type ++ ": " ++ message ++ " (" ++ tag ++ ")"
        ++ ending).toList = plain code type.toList
          (message.toList ++ ' ' :: group tag.toList ending.toList) := by
      simp only [String.toList_append, List.append_assoc, plain_eq, ← Nat.toList_repr]
      rfl
    have hne : message.toList ++ ' ' :: group tag.toList ending.toList ≠ [] := by simp
    have hmessage : Text.trim (message.toList ++ [' ']) = Text.trim message.toList :=
      Text.trim_append _ (List.all_eq_true.1 (by decide))
    simp only [ofText, htext, List.findSome?_cons, readRepeated?, readDisplay?, afterDisplay?_plain,
      Option.bind_eq_bind, Option.bind_none, readPlain?_plain htype hne, Option.bind_some,
      ofParts?_toDigits hcode, withoutTag_append_group htag hending, hmessage, Option.getD_some]
    rfl

/-- A message with tags, versions and line ends of its own, in each of the layouts. -/
theorem ofText_of_reports_gone :
    ofText ("Code: " ++ toString 60 ++ ", e.displayText() = " ++ "DB::Exception" ++ ": "
        ++ " visits (OLD) (version 1) is: gone\n" ++ ", e.what() = " ++ "std::exception" ++ " (A)")
      = ⟨60, "visits (OLD) (version 1) is: gone"⟩ ∧
    ofText ("Code: " ++ toString 60 ++ ", e.displayText() = " ++ "DB::Exception" ++ ": "
        ++ " visits (OLD) (version 1) is: gone\n")
      = ⟨60, "visits (OLD) (version 1) is: gone"⟩ ∧
    ofText ("Code: " ++ toString 60 ++ ". " ++ "DB::Exception" ++ ": " ++ "visits (OLD) (version 1"
        ++ " (" ++ "UNKNOWN_TABLE" ++ ")" ++ " (version 22.3 (official build))\n")
      = ⟨60, "visits (OLD) (version 1"⟩ := by
  have hmessage : IsUnmarked " visits (OLD) (version 1) is: gone\n" :=
    ⟨by decide, by decide +kernel, by decide +kernel⟩
  have htype : IsTypeName "DB::Exception".toList := by decide
  have hversion : IsVersion ("22.3 ".toList ++ '(' :: ("official build".toList ++ [')'])) :=
    .nested (by decide) (by decide)
  have hblank : ∀ c ∈ ['\n'], Text.isBlank c = true := List.all_eq_true.1 (by decide)
  have hending : IsEnding " (version 22.3 (official build))\n".toList := .version hversion hblank
  have htrim : Text.trimText " visits (OLD) (version 1) is: gone\n"
      = "visits (OLD) (version 1) is: gone" := by decide +kernel
  have htrim' : Text.trimText "visits (OLD) (version 1" = "visits (OLD) (version 1" := by
    decide +kernel
  refine ⟨?_, ?_, ?_⟩
  · rw [ofText_of_reports (by decide) (.repeated htype (by decide) hmessage), htrim]
  · rw [ofText_of_reports (by decide) (.displayed htype hmessage), htrim]
  · rw [ofText_of_reports (by decide) (.tagged htype (by decide) hending), htrim']

end Columnar.ServerError
