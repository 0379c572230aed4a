import Columnar.Proofs.Condition.Reader
import Columnar.Proofs.Condition.Writing
import Columnar.Proofs.Table.Assign
import Columnar.Proofs.Value.Elements

/-!
The tokens in the text of a condition.

Over a text that may stand inside a comparison the reader only goes on (`Passes`), and literals of
values are such texts. So each comparison and each list of choices is one token, where the name of
its field stays inside its quotes (`IsComparison.readsTo`), and the text of a condition is read as
the tokens of its tree (`IsOver.readsTo_tokens`).
-/

namespace Columnar.Condition

/-! ### One lexeme in front -/

variable {s t w inside text : List Char} {l : Lexeme} {depth : Nat}

/-- The characters of one word. -/
def isWord (w : List Char) : Bool :=
  !w.isEmpty && w.all isWordChar

theorem isWord_eq_true_iff : isWord w = true ↔ w ≠ [] ∧ ∀ c ∈ w, isWordChar c = true := by
  simp [isWord]

/-- A sign is a lexeme of its own, so it ends a word. -/
def isSign (c : Char) : Bool :=
  !isWordChar c && !quotationMarks.contains c

/-- The text is one lexeme in front of the given rest. -/
def LexesTo (s : List Char) (l : Lexeme) (rest : List Char) : Prop :=
  lexemes? (s ++ rest) = (lexemes? rest).map (l :: ·)

/-- What follows a word: nothing, or a sign. -/
def EndsWord (rest : List Char) : Prop :=
  ∀ c, rest.head? = some c → isSign c = true

theorem endsWord_cons {c : Char} (h : isSign c = true) (rest : List Char) :
    EndsWord (c :: rest) := by
  rintro d ⟨⟩
  exact h

theorem lexesTo_sign {c : Char} (h : isSign c = true) (rest : List Char) :
    LexesTo [c] (.sign c) rest := by
  simp only [isSign, Bool.and_eq_true, Bool.not_eq_true', List.contains_eq_mem,
    decide_eq_false_iff_not] at h
  rw [LexesTo, lexemes?, lexemes?, Text.readsAs_plain h.2, Option.map_map, Option.map_map]
  refine congrArg (Option.map · _) (funext fun fragments => ?_)
  simp [words, h.1]

theorem lexesTo_quoted {mark : Char} (hmark : mark ∈ quotationMarks)
    (h : Text.staysInside mark inside = true) (rest : List Char) :
    LexesTo (mark :: (inside ++ [mark])) (.quoted mark inside) rest := by
  have hbackslash : mark ≠ '\\' := by
    rintro rfl
    exact absurd hmark (by decide)
  rw [LexesTo, lexemes?, lexemes?, Text.readsAs_quoted hbackslash hmark h, Option.map_map,
    Option.map_map]
  rfl

/-- Lexemes that begin with no word. -/
def BeginsNoWord (lexemes : List Lexeme) : Prop :=
  ∀ w rest, lexemes ≠ .word w :: rest

theorem EndsWord.beginsNoWord {rest : List Char} (h : EndsWord rest) {lexemes : List Lexeme}
    (hlexemes : lexemes? rest = some lexemes) : BeginsNoWord lexemes := by
  cases rest with
  | nil =>
    obtain rfl : [] = lexemes := Option.some.inj hlexemes
    exact fun _ _ => nofun
  | cons c rest =>
    have hc : lexemes? (c :: rest) = _ := lexesTo_sign (h c rfl) rest
    rw [hlexemes] at hc
    obtain ⟨more, -, rfl⟩ := Option.map_eq_some_iff.1 hc.symm
    exact fun _ _ => nofun

theorem words_word {fragments : List Text.Fragment} (hbegins : BeginsNoWord (words fragments)) :
    ∀ {w : List Char}, w ≠ [] → (∀ c ∈ w, isWordChar c = true) →
      words (w.map .plain ++ fragments) = .word w :: words fragments
  | [c], _, hw => by
    rw [List.map_singleton, List.singleton_append, words, if_pos (hw c List.mem_cons_self),
      extendWord]
    exact hbegins
  | c :: d :: w, _, hw => by
    rw [List.map_cons, List.cons_append, words, if_pos (hw c List.mem_cons_self),
      words_word hbegins (by simp) fun e he => hw e (List.mem_cons_of_mem c he), extendWord]

/-- The characters of a word are one lexeme in front of a sign. -/
theorem lexesTo_word (h : isWord w = true) {rest : List Char} (hrest : EndsWord rest) :
    LexesTo w (.word w) rest := by
  obtain ⟨hne, hw⟩ := isWord_eq_true_iff.1 h
  have hplain : ∀ c ∈ w, c ∉ quotationMarks := fun c hc hmem => by
    have hword := hw c hc
    simp only [quotationMarks, List.mem_cons, List.not_mem_nil, or_false] at hmem
    rcases hmem with rfl | rfl <;> exact absurd hword (by decide)
  have hbegins := @hrest.beginsNoWord
  rw [lexemes?] at hbegins
  rw [LexesTo, lexemes?, lexemes?, Text.readsAs_of_forall hplain, Option.map_map, Option.map_map]
  cases hfragments : Text.fragments? quotationMarks rest with
  | none => rfl
  | some fragments =>
    rw [hfragments] at hbegins
    exact congrArg some (words_word (hbegins rfl) hne hw)

/-! ### Texts inside a comparison -/

/-- A lexeme that ends no comparison is taken into it. -/
theorem tokens?_of_boundary?_eq_none {rest : List Char} (h : LexesTo s l rest)
    (hboundary : depth = 0 → boundary? text l = none) :
    tokens? depth text (s ++ rest) = tokens? (depthAfter depth l) (appended text l) rest := by
  rw [tokens?, h, tokens?, Option.bind_map]
  refine congrArg (Option.bind _) (funext fun lexemes => ?_)
  rw [Function.comp_apply, gather]
  by_cases hdepth : depth = 0
  · rw [if_pos hdepth, hboundary hdepth]
  · rw [if_neg hdepth]

/-- A lexeme that ends the comparison in front of it is a token. -/
theorem tokens?_of_boundary?_eq_some {rest : List Char} {token : Token} (h : LexesTo s l rest)
    (hboundary : boundary? text l = some token) :
    tokens? 0 text (s ++ rest) = (tokens? 0 [] rest).map (operand text ++ token :: ·) := by
  rw [tokens?, h, tokens?, Option.bind_map, Option.map_bind]
  refine congrArg (Option.bind _) (funext fun lexemes => ?_)
  rw [Function.comp_apply, gather, if_pos rfl, hboundary]
  rfl

/-- A text over which the reader goes on inside a comparison. -/
def Passes (s : List Char) : Prop :=
  ∀ depth text rest, text ≠ [] → EndsWord rest →
    tokens? depth text (s ++ rest) = tokens? depth (text ++ s) rest

theorem passes_nil : Passes [] := fun _ _ _ _ _ => by rw [List.nil_append, List.append_nil]

theorem Passes.append (hs : Passes s) (ht : Passes t) (hend : EndsWord t) (hne : t ≠ []) :
    Passes (s ++ t) := by
  intro depth text rest htext hrest
  have hmore : EndsWord (t ++ rest) := by
    rwa [EndsWord, List.head?_append_of_ne_nil t hne]
  rw [List.append_assoc, hs depth text _ htext hmore, ht depth _ rest (by simp [htext]) hrest,
    List.append_assoc]

/-- A sign without a bracket is passed over, whatever follows it. -/
theorem Passes.cons_sign {c : Char} (ht : Passes t) (h : isSign c = true)
    (hbracket : c ∉ ['(', ')', '[', ']']) : Passes (c :: t) := by
  intro depth text rest htext hrest
  simp only [List.mem_cons, List.not_mem_nil, or_false, not_or] at hbracket
  have hboundary : boundary? text (.sign c) = none := by simp [boundary?, hbracket]
  have hstep : tokens? depth text ([c] ++ (t ++ rest)) = _ :=
    tokens?_of_boundary?_eq_none (lexesTo_sign h (t ++ rest)) fun _ => hboundary
  rw [List.cons_append, ← List.singleton_append, hstep]
  have hdepth : depthAfter depth (.sign c) = depth := by simp [depthAfter, hbracket]
  have happended : appended text (.sign c) = text ++ [c] := by simp [appended, htext]
  rw [hdepth, happended, ht depth _ rest (by simp) hrest, List.append_assoc]
  rfl

theorem passes_word (h : isWord w = true) (hand : w ≠ ['A', 'N', 'D']) (hor : w ≠ ['O', 'R']) :
    Passes w := by
  intro depth text rest htext hrest
  refine tokens?_of_boundary?_eq_none (lexesTo_word h hrest) fun _ => ?_
  simp [boundary?, hand, hor, htext]

theorem passes_quoted {mark : Char} (hmark : mark ∈ quotationMarks)
    (h : Text.staysInside mark inside = true) : Passes (mark :: (inside ++ [mark])) :=
  fun _ _ rest _ _ => tokens?_of_boundary?_eq_none (lexesTo_quoted hmark h rest) fun _ => rfl

/-- A pair of brackets. -/
def IsBracketPair (opening closing : Char) : Prop :=
  (opening, closing) ∈ [('(', ')'), ('[', ']')]

theorem IsBracketPair.cases {opening closing : Char} (h : IsBracketPair opening closing)
    (text : List Char) (depth : Nat) :
    isSign opening = true ∧ isSign closing = true ∧
      (text ≠ [] → boundary? text (.sign opening) = none) ∧
      depthAfter depth (.sign opening) = depth + 1 ∧
      depthAfter (depth + 1) (.sign closing) = depth := by
  simp only [IsBracketPair, List.mem_cons, List.not_mem_nil, or_false, Prod.mk.injEq] at h
  rcases h with ⟨rfl, rfl⟩ | ⟨rfl, rfl⟩
  · exact ⟨by decide, by decide, fun htext => by simp [boundary?, htext], rfl, rfl⟩
  · exact ⟨by decide, by decide, fun htext => by simp [boundary?], rfl, rfl⟩

/-- Brackets are passed over with what stands in them. -/
theorem Passes.bracketed {opening closing : Char} (h : Passes s)
    (hpair : IsBracketPair opening closing) : Passes (opening :: (s ++ [closing])) := by
  intro depth text rest htext hrest
  obtain ⟨hopen, hclose, hboundary, hdeeper, hback⟩ := hpair.cases text depth
  have hinside : appended text (.sign opening) = text ++ [opening] := by simp [appended, htext]
  have houtside : appended (text ++ [opening] ++ s) (.sign closing)
      = text ++ [opening] ++ s ++ [closing] := by simp [appended]
  have hsplit : opening :: (s ++ [closing]) ++ rest
      = [opening] ++ (s ++ ([closing] ++ rest)) := by simp
  rw [hsplit, tokens?_of_boundary?_eq_none (lexesTo_sign hopen _) fun _ => hboundary htext,
    hdeeper, hinside, h _ _ ([closing] ++ rest) (by simp) (endsWord_cons hclose rest),
    tokens?_of_boundary?_eq_none (lexesTo_sign hclose rest) (by simp), hback, houtside]
  simp only [List.append_assoc, List.cons_append, List.nil_append]

/-! ### Literals of values -/

/-- No literal that is a word or a numeral joins conditions. -/
theorem passes_bare {text : String} (h : Value.IsBare text) : Passes text.toList := by
  have hword : isWord text.toList = true := by
    refine isWord_eq_true_iff.2 ⟨h.ne_nil, fun c hc => ?_⟩
    rw [isWordChar, h.chars c hc, Bool.true_or]
  rcases h.kind with htext | ⟨x, hx⟩
  · simp only [List.mem_cons, List.not_mem_nil, or_false] at htext
    rcases htext with rfl | rfl | rfl <;> exact passes_word hword (by decide) (by decide)
  · have hne : ∀ w : List Char, Decimal.read? w = none → text.toList ≠ w := by
      rintro w hw rfl
      exact absurd (hx.symm.trans hw) (by simp)
    exact passes_word hword (hne _ rfl) (hne _ rfl)

/-- Texts that are passed over are so with commas between them. -/
theorem passes_intercalate {sep : String} (hsep : sep = "," ∨ sep = ", ") :
    ∀ {texts : List String}, (∀ s ∈ texts, Passes s.toList) → Passes (sep.intercalate texts).toList
  | [], _ => passes_nil
  | [s], h => by
    rw [String.intercalate_singleton]
    exact h s List.mem_cons_self
  | s :: t :: texts, h => by
    have hrest := passes_intercalate hsep fun x hx => h x (List.mem_cons_of_mem s hx)
    have hs := h s List.mem_cons_self
    rw [String.intercalate_cons_cons, String.toList_append, String.toList_append,
      List.append_assoc]
    rcases hsep with rfl | rfl
    · exact hs.append (hrest.cons_sign (by decide) (by decide)) (endsWord_cons (by decide) _)
        (by simp)
    · have hblank := hrest.cons_sign (c := ' ') (by decide) (by decide)
      exact hs.append (hblank.cons_sign (by decide) (by decide)) (endsWord_cons (by decide) _)
        (by simp)

/-- The literal of a value may stand in a comparison. -/
theorem passes_literal (v : Value) : Passes v.literal.toList := by
  induction v using Value.induction with
  | scalar v hv =>
    rcases Value.quoted_or_bare hv with ⟨s, hliteral, -⟩ | ⟨hbare, -⟩
    · rw [hliteral, Tsv.toList_quote]
      exact passes_quoted (by decide)
        (Text.staysInside_of_spells (Tsv.spells_escapeChars s.toList))
    · exact passes_bare hbare
  | array items ih =>
    have hitems : ∀ s ∈ items.map Value.literal, Passes s.toList := fun s hs => by
      obtain ⟨v, hv, rfl⟩ := List.mem_map.1 hs
      exact ih v hv
    have hpair : IsBracketPair '[' ']' := by simp [IsBracketPair]
    rw [Value.literal, Value.literals_eq_map, String.toList_append, String.toList_append]
    exact (passes_intercalate (.inl rfl) hitems).bracketed hpair

/-! ### Texts that end with no blank -/

/-- The text ends with a character that is not blank. -/
def EndsSolid (s : List Char) : Prop :=
  ∃ front last, s = front ++ [last] ∧ Text.isBlank last = false

theorem endsSolid_concat {c : Char} (h : Text.isBlank c = false) (s : List Char) :
    EndsSolid (s ++ [c]) := ⟨s, c, rfl, h⟩

theorem EndsSolid.append (ht : EndsSolid t) (s : List Char) : EndsSolid (s ++ t) := by
  obtain ⟨front, last, rfl, hlast⟩ := ht
  exact ⟨s ++ front, last, (List.append_assoc ..).symm, hlast⟩

theorem endsSolid_literal (v : Value) : EndsSolid v.literal.toList := by
  have hwritten : ∀ {e : Tsv.Element} {text : List Char}, Tsv.ArrayLiteral.Written e text →
      EndsSolid text := by
    rintro _ _ (⟨s⟩ | ⟨w, hne, hw⟩ | ⟨inside, -⟩)
    · exact endsSolid_concat (by decide) ('\'' :: Tsv.escapeChars s.toList)
    · have hchar := hw _ (List.getLast_mem hne)
      simp only [Tsv.ArrayLiteral.isWordChar, Bool.and_eq_true, Bool.not_eq_true'] at hchar
      exact ⟨_, _, (List.dropLast_concat_getLast hne).symm, hchar.1.1⟩
    · exact endsSolid_concat (by decide) ('[' :: inside)
  exact hwritten v.written_element

/-! ### Texts that are read as tokens -/

variable {ts us : List Token}

/-- The text is read as tokens, whatever follows it. -/
def LeadsTo (s : List Char) (ts : List Token) : Prop :=
  ∀ rest, tokens? 0 [] (s ++ rest) = (tokens? 0 [] rest).map (ts ++ ·)

/-- The text is read as tokens at the end of a condition. -/
def ReadsTo (s : List Char) (ts : List Token) : Prop :=
  ∀ rest, (∀ c, rest.head? = some c → c = ')') →
    tokens? 0 [] (s ++ rest) = (tokens? 0 [] rest).map (ts ++ ·)

theorem LeadsTo.readsTo (h : LeadsTo s ts) : ReadsTo s ts :=
  fun rest _ => h rest

theorem LeadsTo.append (hs : LeadsTo s ts) (ht : LeadsTo t us) :
    LeadsTo (s ++ t) (ts ++ us) := by
  intro rest
  rw [List.append_assoc, hs, ht, Option.map_map]
  simp only [Function.comp_def, List.append_assoc]

/-- A blank between tokens does not matter. -/
theorem leadsTo_blank : LeadsTo [' '] [] := by
  intro rest
  rw [tokens?_of_boundary?_eq_none (lexesTo_sign (by decide) rest) fun _ => rfl]
  exact Option.map_id'.symm

theorem leadsTo_word {token : Token} (hw : isWord w = true)
    (h : boundary? [] (.word w) = some token) : LeadsTo (w ++ [' ']) [token] := by
  intro rest
  have hrest : EndsWord (' ' :: rest) := endsWord_cons (by decide) rest
  rw [List.append_assoc, List.singleton_append,
    tokens?_of_boundary?_eq_some (lexesTo_word hw hrest) h, ← List.singleton_append,
    leadsTo_blank]
  simp [operand]

/-- A condition in parentheses is a group. -/
theorem ReadsTo.grouped (h : ReadsTo s ts) :
    LeadsTo ('(' :: (s ++ [')'])) (grouped ts) := by
  intro rest
  have hend : ∀ c, (')' :: rest).head? = some c → c = ')' := by
    rintro c ⟨⟩
    rfl
  have hopen : tokens? 0 [] ('(' :: (s ++ ')' :: rest))
      = (tokens? 0 [] (s ++ ')' :: rest)).map (.opening :: ·) :=
    tokens?_of_boundary?_eq_some (lexesTo_sign (by decide) _) rfl
  have hclose : tokens? 0 [] (')' :: rest) = (tokens? 0 [] rest).map (.closing :: ·) :=
    tokens?_of_boundary?_eq_some (lexesTo_sign (by decide) rest) rfl
  rw [List.cons_append, List.append_assoc, List.singleton_append, hopen, h _ hend, hclose,
    Option.map_map, Option.map_map]
  simp [Condition.grouped, Function.comp_def]

/-! ### Comparisons -/

/-- A text that is read as one comparison: behind its first lexeme the reader only goes on, and it
ends with a character that is not blank. -/
structure IsComparison (s : String) : Prop where
  ne_nil : s.toList ≠ []
  begins : ∀ rest, EndsWord rest → tokens? 0 [] (s.toList ++ rest) = tokens? 0 s.toList rest
  ends : Text.trimEnd s.toList = s.toList

theorem IsComparison.readsTo {s : String} (h : IsComparison s) : ReadsTo s.toList [.operand s] := by
  have hoperand : operand s.toList = [.operand s] := by
    rw [operand, if_neg h.ne_nil, h.ends, String.ofList_toList]
  intro rest hrest
  have hword : EndsWord rest := fun c hc => by
    rw [hrest c hc]
    decide
  rw [h.begins rest hword]
  cases rest with
  | nil => exact congrArg some hoperand
  | cons c rest =>
    obtain rfl := hrest c rfl
    have hclose : ∀ text, tokens? 0 text ([')'] ++ rest)
        = (tokens? 0 [] rest).map (operand text ++ .closing :: ·) := fun text =>
      tokens?_of_boundary?_eq_some (lexesTo_sign (by decide) rest) rfl
    rw [← List.singleton_append, hclose, hclose, hoperand, Option.map_map]
    rfl

/-- What may stand behind the first lexeme of a comparison. -/
structure IsTail (tail : List Char) : Prop where
  passes : Passes tail
  begins : EndsWord tail
  ends : EndsSolid tail

/-- A comparison is a lexeme that is none of the joining words, and what the reader passes over. -/
theorem isComparison_of_append {s : String} {first tail : List Char} {l : Lexeme}
    (hs : s.toList = first ++ tail) (hlex : ∀ rest, EndsWord rest → LexesTo first l rest)
    (hboundary : boundary? [] l = none) (hdepth : depthAfter 0 l = 0)
    (happended : appended [] l = first) (hne : first ≠ []) (htail : IsTail tail) :
    IsComparison s := by
  obtain ⟨hpasses, hbegins, front, last, rfl, hlast⟩ := htail
  refine ⟨by simp [hs], fun rest hrest => ?_, ?_⟩
  · have hmore : EndsWord (front ++ [last] ++ rest) := by
      rwa [EndsWord, List.head?_append_of_ne_nil _ (by simp)]
    rw [hs, List.append_assoc, tokens?_of_boundary?_eq_none (hlex _ hmore) fun _ => hboundary,
      hdepth, happended, hpasses 0 first rest hne hrest]
  · rw [hs, ← List.append_assoc, Text.trimEnd_concat hlast]

theorem toList_backquoted (name : String) :
    (backquoted name).toList = '`' :: (name.toList ++ ['`']) := by
  simp [backquoted]

/-- A comparison that begins with a name in quotes. -/
theorem isComparison_backquoted {name s : String} {tail : List Char}
    (hname : Text.staysInside '`' name.toList = true)
    (hs : s.toList = (backquoted name).toList ++ tail) (htail : IsTail tail) : IsComparison s := by
  rw [toList_backquoted] at hs
  exact isComparison_of_append hs (fun rest _ => lexesTo_quoted (by decide) hname rest) rfl rfl rfl
    (by simp) htail

/-- A function of a name in quotes. -/
theorem isComparison_call {name word : String} (hname : Text.staysInside '`' name.toList = true)
    (hword : word = "isNull(" ∨ word = "isNotNull(") :
    IsComparison (word ++ backquoted name ++ ")") := by
  have hquoted : Passes (backquoted name).toList := by
    rw [toList_backquoted]
    exact passes_quoted (by decide) hname
  have htail : IsTail ('(' :: ((backquoted name).toList ++ [')'])) :=
    ⟨hquoted.bracketed (by simp [IsBracketPair]), endsWord_cons (by decide) _,
      endsSolid_concat (by decide) ('(' :: (backquoted name).toList)⟩
  obtain ⟨w, hsplit, hw, hboundary⟩ : ∃ w, word.toList = w ++ ['('] ∧ isWord w = true ∧
      boundary? [] (.word w) = none := by
    rcases hword with rfl | rfl
    · exact ⟨"isNull".toList, rfl, by decide, rfl⟩
    · exact ⟨"isNotNull".toList, rfl, by decide, rfl⟩
  exact isComparison_of_append (by simp [hsplit]) (fun _ hrest => lexesTo_word hw hrest) hboundary
    rfl rfl (isWord_eq_true_iff.1 hw).1 htail

theorem passes_operator (op : Comparison) {t : List Char} (ht : Passes t) :
    Passes (op.sql.toList ++ t) := by
  have hequals : Passes ('=' :: t) := ht.cons_sign (by decide) (by decide)
  cases op with
  | eq => exact hequals
  | ne => exact hequals.cons_sign (by decide) (by decide)
  | gt => exact ht.cons_sign (by decide) (by decide)
  | ge => exact hequals.cons_sign (by decide) (by decide)
  | lt => exact ht.cons_sign (by decide) (by decide)
  | le => exact hequals.cons_sign (by decide) (by decide)

theorem isComparison_compareSql {name : String}
    (hname : Text.staysInside '`' name.toList = true) (op : Comparison) (value : Value) :
    IsComparison (compareSql (backquoted name) op value) := by
  unfold compareSql
  split
  · exact isComparison_call hname (.inl rfl)
  · exact isComparison_call hname (.inr rfl)
  · have hvalue := (passes_literal value).cons_sign (c := ' ') (by decide) (by decide)
    have htail : IsTail (' ' :: (op.sql.toList ++ ' ' :: value.literal.toList)) :=
      ⟨(passes_operator op hvalue).cons_sign (by decide) (by decide), endsWord_cons (by decide) _,
        ((endsSolid_literal value).append [' ']).append (' ' :: op.sql.toList)⟩
    exact isComparison_backquoted hname (by simp) htail

theorem isComparison_inSql {name : String} (hname : Text.staysInside '`' name.toList = true)
    {values : List Value} (hne : values ≠ []) : IsComparison (inSql (backquoted name) values) := by
  have hvalues : ∀ s ∈ Value.literals values, Passes s.toList := fun s hs => by
    rw [Value.literals_eq_map] at hs
    obtain ⟨v, -, rfl⟩ := List.mem_map.1 hs
    exact passes_literal v
  have hpair : IsBracketPair '(' ')' := by simp [IsBracketPair]
  have hlist := ((passes_intercalate (.inr rfl) hvalues).bracketed hpair).cons_sign (c := ' ')
    (by decide) (by decide)
  have hin : Passes ['I', 'N'] := passes_word (by decide) (by decide) (by decide)
  have htail := (hin.append hlist (endsWord_cons (by decide) _) (by simp)).cons_sign (c := ' ')
    (by decide) (by decide)
  rw [inSql, if_neg (by simpa using hne)]
  exact isComparison_backquoted hname (by simp) ⟨htail, endsWord_cons (by decide) _,
    endsSolid_concat (by decide) (' ' :: 'I' :: 'N' :: ' ' :: '(' :: _)⟩

/-- A numeral in the place of a comparison. -/
theorem isComparison_numeral {s : String} (hs : s = "0" ∨ s = "1") : IsComparison s := by
  obtain ⟨hw, hboundary, hends⟩ : isWord s.toList = true ∧
      boundary? [] (.word s.toList) = none ∧ Text.trimEnd s.toList = s.toList := by
    rcases hs with rfl | rfl <;> decide
  exact ⟨(isWord_eq_true_iff.1 hw).1, fun rest hrest =>
    tokens?_of_boundary?_eq_none (lexesTo_word hw hrest) fun _ => hboundary, hends⟩

/-! ### Tokens of conditions -/

/-- Groups of tokens with a joining word between them; no group is true. -/
def joinedTokens (word : Token) : List (List Token) → List Token
  | [] => [.operand "1"]
  | [tokens] => grouped tokens
  | tokens :: next :: more => grouped tokens ++ word :: joinedTokens word (next :: more)

mutual

/-- The tokens of the text of a condition. -/
def tokens : Condition → List Token
  | raw text => [.operand text]
  | compare field op value => [.operand (compareSql (backquoted field) op value)]
  | isIn field values => [.operand (inSql (backquoted field) values)]
  | all parts => joinedTokens .and (allTokens parts)
  | any parts => joinedTokens .or (allTokens parts)
  | negation part => .not :: grouped (tokens part)

/-- The tokens of the texts of some conditions. -/
def allTokens : List Condition → List (List Token)
  | [] => []
  | part :: parts => tokens part :: allTokens parts

end

/-- Conditions in parentheses with a joining word between them. -/
theorem leadsTo_joined {word : String} {token : Token} (hword : LeadsTo word.toList [token]) :
    ∀ {parts : List Condition}, parts ≠ [] →
      (∀ part ∈ parts, ReadsTo part.text.toList part.tokens) →
      LeadsTo (word.intercalate (parts.map fun part => "(" ++ part.text ++ ")")).toList
        (joinedTokens token (allTokens parts))
  | [part], _, h => by
    have hpart := (h part List.mem_cons_self).grouped
    rw [List.map_singleton, String.intercalate_singleton, String.toList_append,
      String.toList_append]
    exact hpart
  | part :: next :: parts, _, h => by
    have hpart := (h part List.mem_cons_self).grouped
    have hrest := leadsTo_joined hword (List.cons_ne_nil next parts) fun x hx =>
      h x (List.mem_cons_of_mem part hx)
    rw [List.map_cons, List.map_cons, String.intercalate_cons_cons,
      String.toList_append, String.toList_append, String.toList_append, String.toList_append,
      List.append_assoc]
    exact hpart.append (hword.append hrest)

theorem joined_texts {parts : List Condition} (hne : parts ≠ []) (word : String) :
    joined word (texts parts)
      = word.intercalate (parts.map fun part => "(" ++ part.text ++ ")") := by
  rw [joined, texts_eq_map, List.map_map, if_neg (by simpa using hne)]
  rfl

/-- The text of a condition is read as its tokens. -/
theorem IsOver.readsTo_tokens
    (hnames : ∀ f ∈ schema.fields, Text.staysInside '`' f.name.toList = true)
    (h : IsOver schema c) : ReadsTo c.text.toList c.tokens := by
  have hname : ∀ {field : String}, (schema.field? field).isSome = true →
      Text.staysInside '`' field.toList = true := by
    intro field hfield
    obtain ⟨f, hf, rfl⟩ := exists_of_isSome_field? hfield
    exact hnames f hf
  have hjoined : ∀ {word : String} {token : Token} {parts : List Condition},
      LeadsTo word.toList [token] → (∀ part ∈ parts, ReadsTo part.text.toList part.tokens) →
        ReadsTo (joined word (texts parts)).toList (joinedTokens token (allTokens parts)) := by
    intro word token parts hword hparts
    by_cases hne : parts = []
    · subst hne
      exact (isComparison_numeral (.inr rfl)).readsTo
    · rw [joined_texts hne]
      exact (leadsTo_joined hword hne hparts).readsTo
  have hand : LeadsTo " AND ".toList [.and] :=
    leadsTo_blank.append (leadsTo_word (w := "AND".toList) (by decide) rfl)
  have hor : LeadsTo " OR ".toList [.or] :=
    leadsTo_blank.append (leadsTo_word (w := "OR".toList) (by decide) rfl)
  induction h with
  | compare h op value => exact (isComparison_compareSql (hname h) op value).readsTo
  | isIn h values =>
    by_cases hne : values = []
    · subst hne
      exact (isComparison_numeral (.inl rfl)).readsTo
    · exact (isComparison_inSql (hname h) hne).readsTo
  | all h ih => exact hjoined hand ih
  | any h ih => exact hjoined hor ih
  | negation h ih =>
    have hnot : LeadsTo ("NOT".toList ++ [' ']) [.not] := leadsTo_word (by decide) rfl
    have hall := (hnot.append ih.grouped).readsTo
    rw [text, String.toList_append, String.toList_append]
    exact hall

end Columnar.Condition
