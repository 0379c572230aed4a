import Columnar.Proofs.Text.Quotes
import Columnar.Proofs.Value

/-!
A reader of boolean conditions.

A condition is read as comparisons that are joined by the words NOT, AND and OR, of which NOT binds
closest and OR least, with parentheses around groups. What a comparison says is not read: it goes on
to the next joining word or to the parenthesis that closes its group, where quoted texts and what
stands in brackets of its own are passed over (`gather`). Whether it holds is asked of an assignment
of truth values to the texts of comparisons, but the numeral 0 is false and 1 is true (`truth?`).

The reader takes one token after the other; the grammar of conditions (`Means`) says what the tokens
are together, one rank for each degree of binding. The reader gives each condition of the grammar
its truth value (`Means.truth?_eq`).
-/

namespace Columnar.Condition

/-! ### Words and signs -/

/-- A unit of the text of a condition. -/
inductive Lexeme where
  | quoted (mark : Char) (inside : List Char)
  | word (w : List Char)
  | sign (c : Char)
  deriving DecidableEq, Repr

/-- The text of a lexeme. -/
def Lexeme.source : Lexeme → List Char
  | .quoted mark inside => mark :: (inside ++ [mark])
  | .word w => w
  | .sign c => [c]

/-- The marks that quote a text or a name. -/
def quotationMarks : List Char := ['\'', '`']

/-- The characters of words, numerals included. -/
def isWordChar (c : Char) : Bool :=
  Value.isBareChar c || c = '_'

/-- Puts a character in front of the word that lexemes begin with, or in front of them as a word. -/
def extendWord (c : Char) : List Lexeme → List Lexeme
  | .word w :: lexemes => .word (c :: w) :: lexemes
  | lexemes => .word [c] :: lexemes

/-- The fragments of a text with the characters of each word put together. -/
def words : List Text.Fragment → List Lexeme
  | [] => []
  | .quoted mark inside :: fragments => .quoted mark inside :: words fragments
  | .plain c :: fragments =>
    if isWordChar c then extendWord c (words fragments) else .sign c :: words fragments

/-- The lexemes of a text; `none` when its last quoted part is not closed. -/
def lexemes? (s : List Char) : Option (List Lexeme) :=
  (Text.fragments? quotationMarks s).map words

/-! ### Comparisons between the words that join them -/

/-- A token of a condition. -/
inductive Token where
  | opening
  | closing
  | not
  | and
  | or
  /-- A comparison, or a numeral in its place. -/
  | operand (text : String)
  deriving DecidableEq, Repr

/-- The token that ends the comparison whose text is given so far, outside of its brackets. NOT and
an opening parenthesis are such tokens only where no comparison has begun. -/
def boundary? (text : List Char) : Lexeme → Option Token
  | .word w =>
    if w = ['A', 'N', 'D'] then some .and
    else if w = ['O', 'R'] then some .or
    else if w = ['N', 'O', 'T'] ∧ text = [] then some .not
    else none
  | .sign c =>
    if c = ')' then some .closing else if c = '(' ∧ text = [] then some .opening else none
  | .quoted _ _ => none

/-- The number of open brackets behind a lexeme. -/
def depthAfter (depth : Nat) : Lexeme → Nat
  | .sign c =>
    if c = '(' ∨ c = '[' then depth + 1 else if c = ')' ∨ c = ']' then depth - 1 else depth
  | _ => depth

/-- The text of a comparison with a lexeme behind it; it begins with no blank. -/
def appended (text : List Char) : Lexeme → List Char
  | .sign c => if text = [] ∧ Text.isBlank c then [] else text ++ [c]
  | l => text ++ l.source

/-- A comparison whose text is complete; none if nothing has been read for it. -/
def operand (text : List Char) : List Token :=
  if text = [] then [] else [.operand (String.ofList (Text.trimEnd text))]

/-- The tokens of lexemes behind the given text of a comparison with some brackets open; `none` when
one is not closed. -/
def gather : Nat → List Char → List Lexeme → Option (List Token)
  | depth, text, [] => if depth = 0 then some (operand text) else none
  | depth, text, l :: rest =>
    match if depth = 0 then boundary? text l else none with
    | some token => (gather 0 [] rest).map (operand text ++ token :: ·)
    | none => gather (depthAfter depth l) (appended text l) rest

/-- The tokens of a text behind the given text of a comparison. -/
def tokens? (depth : Nat) (text s : List Char) : Option (List Token) :=
  (lexemes? s).bind (gather depth text)

/-! ### Precedence -/

/-- A group as far as it is read: whether one of its finished alternatives holds, whether all that
is joined by AND in the last one does, and whether NOT stands in front of what comes. -/
structure Frame where
  any : Bool := false
  all : Bool := true
  negated : Bool := false
  deriving DecidableEq

/-- The group with a truth value behind it. -/
def Frame.take (f : Frame) (b : Bool) : Frame :=
  { f with all := f.all && (b ^^ f.negated), negated := false }

/-- The truth value of a group that ends here. -/
def Frame.value (f : Frame) : Bool :=
  f.any || f.all

/-- The group that is read and the groups around it, and whether a condition must come next. -/
structure Reading where
  isOpen : Bool := true
  frame : Frame := {}
  around : List Frame := []
  deriving DecidableEq

/-- Whether a comparison holds, given the truth of those that are no numerals. -/
def operandTruth (σ : String → Bool) (text : String) : Bool :=
  if text = "0" then false else if text = "1" then true else σ text

/-- One token of a condition; `none` when no condition goes on like this. -/
def stepToken (σ : String → Bool) (r : Reading) : Token → Option Reading
  | .operand text =>
    if r.isOpen then some { r with isOpen := false, frame := r.frame.take (operandTruth σ text) }
    else none
  | .not =>
    if r.isOpen then some { r with frame := { r.frame with negated := !r.frame.negated } } else none
  | .opening => if r.isOpen then some ⟨true, {}, r.frame :: r.around⟩ else none
  | .closing =>
    match r.around with
    | [] => none
    | f :: around => if r.isOpen then none else some ⟨false, f.take r.frame.value, around⟩
  | .and => if r.isOpen then none else some { r with isOpen := true }
  | .or =>
    if r.isOpen then none else some { r with isOpen := true, frame := { any := r.frame.value } }

/-- The truth value of a condition that ends here; `none` when it cannot. -/
def Reading.value? (r : Reading) : Option Bool :=
  if r.isOpen || !r.around.isEmpty then none else some r.frame.value

/-- Whether the condition with a text holds, where it is known of its comparisons; `none` when it is
no condition. -/
def truth? (σ : String → Bool) (sql : String) : Option Bool := do
  let tokens ← tokens? 0 [] sql.toList
  let r ← tokens.foldlM (stepToken σ) {}
  r.value?

example (a b c : Bool) :
    truth? (fun s => if s = "x = 'OR'" then a else if s = "y IN (1, 2)" then b else c)
      "NOT x = 'OR' AND y IN (1, 2) OR `z` = 0" = some (!a && b || c) := by
  revert a b c
  decide

example (a b c : Bool) :
    truth? (fun s => if s = "x" then a else if s = "y" then b else c) "x OR NOT (y OR z) AND 1"
      = some (a || !(b || c)) := by
  revert a b c
  decide

/-! ### The grammar of conditions -/

variable {σ : String → Bool} {ts : List Token} {b : Bool}

/-- What a list of tokens can be by itself: one condition that nothing joins, such conditions joined
by AND, or these joined by OR. -/
inductive Rank where
  | single
  | conjunction
  | choice

/-- Tokens in parentheses. -/
def grouped (tokens : List Token) : List Token :=
  .opening :: (tokens ++ [.closing])

/-- The tokens are a condition of a rank with a truth value. -/
inductive Means (σ : String → Bool) : Rank → List Token → Bool → Prop
  | operand (text : String) : Means σ .single [.operand text] (operandTruth σ text)
  | group {ts : List Token} {b : Bool} (h : Means σ .choice ts b) : Means σ .single (grouped ts) b
  | not {ts : List Token} {b : Bool} (h : Means σ .single ts b) : Means σ .single (.not :: ts) (!b)
  | single {ts : List Token} {b : Bool} (h : Means σ .single ts b) : Means σ .conjunction ts b
  | and {ts us : List Token} {b c : Bool} (h : Means σ .single ts b)
      (hrest : Means σ .conjunction us c) : Means σ .conjunction (ts ++ .and :: us) (b && c)
  | conjunction {ts : List Token} {b : Bool} (h : Means σ .conjunction ts b) : Means σ .choice ts b
  | or {ts us : List Token} {b c : Bool} (h : Means σ .conjunction ts b)
      (hrest : Means σ .choice us c) : Means σ .choice (ts ++ .or :: us) (b || c)

/-- Reading tokens of a rank gives a truth value to the group around them. -/
def Gives (σ : String → Bool) (ts : List Token) (b : Bool) : Rank → Prop
  | .single => ∀ f around,
    ts.foldlM (stepToken σ) ⟨true, f, around⟩ = some ⟨false, f.take b, around⟩
  | .conjunction => ∀ any all around,
    ts.foldlM (stepToken σ) ⟨true, ⟨any, all, false⟩, around⟩
      = some ⟨false, ⟨any, all && b, false⟩, around⟩
  | .choice => ∀ any around, ∃ frame,
    ts.foldlM (stepToken σ) ⟨true, ⟨any, true, false⟩, around⟩ = some ⟨false, frame, around⟩ ∧
      frame.value = (any || b)

theorem foldlM_cons_of_eq {token : Token} {r next : Reading}
    (h : stepToken σ r token = some next) (ts : List Token) :
    (token :: ts).foldlM (stepToken σ) r = ts.foldlM (stepToken σ) next := by
  rw [List.foldlM_cons, h]
  rfl

theorem foldlM_append_of_eq {r next : Reading} (h : ts.foldlM (stepToken σ) r = some next)
    (us : List Token) :
    (ts ++ us).foldlM (stepToken σ) r = us.foldlM (stepToken σ) next := by
  rw [List.foldlM_append, h]
  rfl

/-- The reader gives each condition of the grammar its truth value. -/
theorem Means.gives {rank : Rank} (h : Means σ rank ts b) : Gives σ ts b rank := by
  induction h with
  | operand text => exact fun _ _ => rfl
  | @group ts b h ih =>
    intro f around
    obtain ⟨frame, hframe, hvalue⟩ := ih false (f :: around)
    rw [Bool.false_or] at hvalue
    rw [grouped, foldlM_cons_of_eq rfl, foldlM_append_of_eq hframe, ← hvalue]
    rfl
  | @not ts b h ih =>
    intro f around
    rw [foldlM_cons_of_eq rfl, ih]
    simp [Frame.take]
  | single h ih =>
    intro any all around
    rw [ih]
    simp [Frame.take]
  | @and ts us b c h hrest ih ihrest =>
    intro any all around
    rw [foldlM_append_of_eq (ih _ around), foldlM_cons_of_eq rfl]
    simp only [Frame.take, Bool.xor_false]
    rw [ihrest, Bool.and_assoc]
  | conjunction h ih =>
    intro any around
    exact ⟨_, ih any true around, by simp [Frame.value]⟩
  | @or ts us b c h hrest ih ihrest =>
    intro any around
    obtain ⟨frame, hframe, hvalue⟩ := ihrest (any || b) around
    refine ⟨frame, ?_, by rw [hvalue, Bool.or_assoc]⟩
    rw [foldlM_append_of_eq (ih any true around), foldlM_cons_of_eq rfl, ← hframe]
    simp [Frame.value]

/-- A text whose tokens are a condition has its truth value. -/
theorem Means.truth?_eq {sql : String} (h : Means σ .choice ts b)
    (htokens : tokens? 0 [] sql.toList = some ts) : truth? σ sql = some b := by
  obtain ⟨frame, hframe, hvalue⟩ := h.gives false []
  have hrun : ts.foldlM (stepToken σ) {} = some ⟨false, frame, []⟩ := hframe
  simp only [truth?, htokens, hrun, Option.bind_eq_bind, Option.bind_some, Reading.value?]
  exact congrArg some hvalue

end Columnar.Condition
