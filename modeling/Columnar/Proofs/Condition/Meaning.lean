import Columnar.Proofs.Condition.Tokens

/-!
What the text of a condition says.

A condition holds or not, given the truth of its comparisons and lists of choices (`holds`). Where
the names of fields stay inside their quotes, its text is read as the tokens of the tree
(`IsOver.readsTo_tokens`), and these say what the tree says (`IsOver.means_tokens`), with one
exception: an alternative without choices is written as if it held. So a text means its tree
(`isRead_holds`) where the tree has no such alternative.
-/

namespace Columnar.Condition

variable {schema : Schema} {a b c : Condition} {σ : String → Bool}

/-! ### Meaning -/

mutual

/-- Whether the condition holds, where the truth of its comparisons and lists of choices is given by
their texts, and that of an alternative without choices by `ofNone`. -/
def holds (σ : String → Bool) (ofNone : Bool) : Condition → Bool
  | raw text => σ text
  | compare field op value => σ (compareSql (backquoted field) op value)
  | isIn field values => !values.isEmpty && σ (inSql (backquoted field) values)
  | all parts => allHold σ ofNone parts
  | any parts => if parts.isEmpty then ofNone else someHolds σ ofNone parts
  | negation part => !holds σ ofNone part

/-- Whether all of some conditions hold. -/
def allHold (σ : String → Bool) (ofNone : Bool) : List Condition → Bool
  | [] => true
  | part :: parts => holds σ ofNone part && allHold σ ofNone parts

/-- Whether one of some conditions holds. -/
def someHolds (σ : String → Bool) (ofNone : Bool) : List Condition → Bool
  | [] => false
  | part :: parts => holds σ ofNone part || someHolds σ ofNone parts

end

mutual

/-- Whether an alternative without choices occurs in the condition. -/
def hasEmptyAny : Condition → Bool
  | raw _ | compare _ _ _ | isIn _ _ => false
  | all parts => someHaveEmptyAny parts
  | any parts => parts.isEmpty || someHaveEmptyAny parts
  | negation part => hasEmptyAny part

/-- Whether an alternative without choices occurs in one of some conditions. -/
def someHaveEmptyAny : List Condition → Bool
  | [] => false
  | part :: parts => hasEmptyAny part || someHaveEmptyAny parts

end

mutual

/-- What an alternative without choices means does not matter where there is none. -/
theorem holds_congr (x y : Bool) : ∀ c : Condition, c.hasEmptyAny = false →
    c.holds σ x = c.holds σ y
  | raw _, _ => rfl
  | compare _ _ _, _ => rfl
  | isIn _ _, _ => rfl
  | all parts, h => allHold_congr x y parts h
  | any [], h => absurd h (by simp [hasEmptyAny])
  | any (part :: parts), h => by
    rw [holds, holds, someHolds_congr x y (part :: parts) h]
    rfl
  | negation part, h => congrArg Bool.not (holds_congr x y part h)

theorem allHold_congr (x y : Bool) : ∀ parts : List Condition, someHaveEmptyAny parts = false →
    allHold σ x parts = allHold σ y parts
  | [], _ => rfl
  | part :: parts, h => by
    rw [someHaveEmptyAny, Bool.or_eq_false_iff] at h
    rw [allHold, allHold, holds_congr x y part h.1, allHold_congr x y parts h.2]

theorem someHolds_congr (x y : Bool) : ∀ parts : List Condition, someHaveEmptyAny parts = false →
    someHolds σ x parts = someHolds σ y parts
  | [], _ => rfl
  | part :: parts, h => by
    rw [someHaveEmptyAny, Bool.or_eq_false_iff] at h
    rw [someHolds, someHolds, holds_congr x y part h.1, someHolds_congr x y parts h.2]

end

/-! ### Truth of tokens -/

/-- Groups that are joined by AND hold if all of them do. -/
theorem means_all {parts : List Condition} (hne : parts ≠ [])
    (h : ∀ part ∈ parts, Means σ .choice part.tokens (part.holds σ true)) :
    Means σ .conjunction (joinedTokens .and (allTokens parts)) (allHold σ true parts) := by
  induction parts with
  | nil => exact absurd rfl hne
  | cons part parts ih =>
    have hpart := (h part List.mem_cons_self).group
    cases parts with
    | nil =>
      rw [allHold, allHold, Bool.and_true]
      exact .single hpart
    | cons next parts =>
      exact .and hpart (ih (List.cons_ne_nil next parts)
        fun x hx => h x (List.mem_cons_of_mem part hx))

/-- Groups that are joined by OR hold if one of them does. -/
theorem means_any {parts : List Condition} (hne : parts ≠ [])
    (h : ∀ part ∈ parts, Means σ .choice part.tokens (part.holds σ true)) :
    Means σ .choice (joinedTokens .or (allTokens parts)) (someHolds σ true parts) := by
  induction parts with
  | nil => exact absurd rfl hne
  | cons part parts ih =>
    have hpart := (h part List.mem_cons_self).group
    cases parts with
    | nil =>
      rw [someHolds, someHolds, Bool.or_false]
      exact .conjunction (.single hpart)
    | cons next parts =>
      exact .or (.single hpart) (ih (List.cons_ne_nil next parts)
        fun x hx => h x (List.mem_cons_of_mem part hx))

theorem means_operand {text : String} {b : Bool} (h : operandTruth σ text = b) :
    Means σ .choice [.operand text] b := by
  rw [← h]
  exact .conjunction (.single (.operand text))

/-- A text with a name in quotes is no numeral. -/
theorem operandTruth_of_mem {text : String} (h : '`' ∈ text.toList) :
    operandTruth σ text = σ text := by
  have hne : ∀ numeral : String, '`' ∉ numeral.toList → text ≠ numeral := by
    rintro numeral hnumeral rfl
    exact hnumeral h
  rw [operandTruth, if_neg (hne "0" (by decide)), if_neg (hne "1" (by decide))]

theorem quote_mem_compareSql (name : String) (op : Comparison) (value : Value) :
    '`' ∈ (compareSql (backquoted name) op value).toList := by
  unfold compareSql
  split <;> simp [backquoted]

/-- The tokens of a condition say what it says where an alternative without choices holds. -/
theorem IsOver.means_tokens (h : IsOver schema c) : Means σ .choice c.tokens (c.holds σ true) := by
  induction h with
  | compare h op value =>
    exact means_operand (operandTruth_of_mem (quote_mem_compareSql _ op value))
  | @isIn field h values =>
    cases values with
    | nil => exact means_operand rfl
    | cons value values =>
      have hquote : '`' ∈ (inSql (backquoted field) (value :: values)).toList := by
        simp [inSql, backquoted]
      refine means_operand ((operandTruth_of_mem hquote).trans ?_)
      rw [holds, List.isEmpty_cons, Bool.not_false, Bool.true_and]
  | @all parts h ih =>
    by_cases hne : parts = []
    · subst hne
      exact means_operand rfl
    · exact .conjunction (means_all hne ih)
  | @any parts h ih =>
    by_cases hne : parts = []
    · subst hne
      exact means_operand rfl
    · rw [holds, if_neg (by simpa using hne)]
      exact means_any hne ih
  | negation h ih => exact .conjunction (.single (.not ih.group))

/-- The text of a condition on fields is a condition, and means the tree where an alternative
without choices holds. -/
theorem IsOver.truth?_text
    (hnames : ∀ f ∈ schema.fields, Text.staysInside '`' f.name.toList = true)
    (h : IsOver schema c) (σ : String → Bool) : truth? σ c.text = some (c.holds σ true) := by
  have hread := h.readsTo_tokens hnames [] nofun
  rw [List.append_nil] at hread
  exact h.means_tokens.truth?_eq (hread.trans (congrArg some (List.append_nil c.tokens)))

/-! ### Builders -/

theorem allHold_append (n : Bool) : ∀ parts more : List Condition,
    allHold σ n (parts ++ more) = (allHold σ n parts && allHold σ n more)
  | [], more => rfl
  | part :: parts, more => by
    rw [List.cons_append, allHold, allHold, allHold_append n parts more, Bool.and_assoc]

theorem someHolds_append (n : Bool) : ∀ parts more : List Condition,
    someHolds σ n (parts ++ more) = (someHolds σ n parts || someHolds σ n more)
  | [], more => rfl
  | part :: parts, more => by
    rw [List.cons_append, someHolds, someHolds, someHolds_append n parts more, Bool.or_assoc]

theorem holds_and (n : Bool) (a b : Condition) :
    (a.and b).holds σ n = (a.holds σ n && b.holds σ n) := by
  unfold Condition.and
  split
  · rw [holds, allHold_append, holds, allHold, allHold, Bool.and_true]
  · rw [holds, allHold, allHold, allHold, Bool.and_true]

theorem holds_or (n : Bool) (hne : a ≠ .any []) (b : Condition) :
    (a.or b).holds σ n = (a.holds σ n || b.holds σ n) := by
  unfold Condition.or
  split
  · next other parts =>
    have hparts : parts ≠ [] := fun h => hne (congrArg any h)
    simp [holds, someHolds_append, someHolds, hparts]
  · simp [holds, someHolds]

theorem isOver_pair (ha : IsOver schema a) (hb : IsOver schema b) :
    ∀ part ∈ [a, b], IsOver schema part := by
  simp [ha, hb]

theorem IsOver.and (ha : IsOver schema a) (hb : IsOver schema b) : IsOver schema (a.and b) := by
  unfold Condition.and
  split
  · cases ha with
    | all h => exact .all (List.forall_mem_append.2 ⟨h, by simpa using hb⟩)
  · exact .all (isOver_pair ha hb)

theorem IsOver.or (ha : IsOver schema a) (hb : IsOver schema b) : IsOver schema (a.or b) := by
  unfold Condition.or
  split
  · cases ha with
    | any h => exact .any (List.forall_mem_append.2 ⟨h, by simpa using hb⟩)
  · exact .any (isOver_pair ha hb)

/-! ### What is written is what is meant -/

/-- The condition is written, and its text has the given truth value. -/
def IsRead (schema : Schema) (σ : String → Bool) (c : Condition) (b : Bool) : Prop :=
  ∃ text, c.sql schema = .ok text ∧ truth? σ text = some b

theorem IsOver.isRead (hnames : ∀ f ∈ schema.fields, Text.staysInside '`' f.name.toList = true)
    (h : IsOver schema c) (σ : String → Bool) : IsRead schema σ c (c.holds σ true) :=
  ⟨c.text, h.sql_eq, h.truth?_text hnames σ⟩

theorem IsRead.eq {x y : Bool} (hx : IsRead schema σ c x) (hy : IsRead schema σ c y) : x = y := by
  obtain ⟨s, hs, hx⟩ := hx
  obtain ⟨t, ht, hy⟩ := hy
  obtain rfl : s = t := Except.ok.inj (hs.symm.trans ht)
  exact Option.some.inj (hx.symm.trans hy)

/-- Where the names of the fields stay inside their quotes, the text of a condition means what the
tree says, if each alternative in it has a choice; one without choices is written as true. The text
of a conjunction means the conjunction of the texts, and that of an alternative their alternative,
but behind an alternative without choices it means the second condition. -/
theorem isRead_holds (hnames : ∀ f ∈ schema.fields, Text.staysInside '`' f.name.toList = true)
    (ha : IsOver schema a) (hb : IsOver schema b) (σ : String → Bool) :
    IsRead schema σ a (a.holds σ true) ∧
    (a.hasEmptyAny = false → IsRead schema σ a (a.holds σ false)) ∧
    ∀ x y, IsRead schema σ a x → IsRead schema σ b y →
      IsRead schema σ (a.and b) (x && y) ∧
      (a ≠ any [] → IsRead schema σ (a.or b) (x || y)) ∧
      (a = any [] → IsRead schema σ (a.or b) y) := by
  have hread := ha.isRead hnames σ
  refine ⟨hread, fun h => ?_, fun x y hx hy => ?_⟩
  · rwa [holds_congr false true a h]
  obtain rfl := hx.eq hread
  obtain rfl := hy.eq (hb.isRead hnames σ)
  have hor := (ha.or hb).isRead hnames σ
  refine ⟨?_, fun hne => ?_, fun hempty => ?_⟩
  · rw [← holds_and]
    exact (ha.and hb).isRead hnames σ
  · rwa [← holds_or true hne]
  · subst hempty
    have hholds : ((any []).or b).holds σ true = b.holds σ true := Bool.or_false _
    rwa [hholds] at hor

/-- A table of names and ages. -/
def guestTable : Schema where
  table := "guests"
  fields := [{ name := "name", type := .string }, { name := "age", type := .uint .w8 }]

/-- Guests of age who have none of two names. -/
def grownUp : Condition :=
  .all [.compare "age" .ge (.uint 18), .negation (.isIn "name" [.text "a) OR (b", .text "'"])]

theorem isOver_grownUp : grownUp.IsOver guestTable := by
  refine .all fun part hpart => ?_
  simp only [List.mem_cons, List.not_mem_nil, or_false] at hpart
  rcases hpart with rfl | rfl
  · exact .compare rfl .ge _
  · exact .negation (.isIn rfl _)

theorem isRead_holds_guests :
    let σ : String → Bool := fun s => s = "`age` >= 18"
    let nobody : Condition := .isIn "age" []
    (∀ f ∈ guestTable.fields, Text.staysInside '`' f.name.toList = true) ∧
    grownUp.sql guestTable
      = .ok "(`age` >= 18) AND (NOT (`name` IN ('a) OR (b', '\\'')))" ∧
    IsRead guestTable σ grownUp true ∧ IsRead guestTable σ (grownUp.and nobody) false ∧
    IsRead guestTable σ (grownUp.or nobody) true := by
  intro σ nobody
  have hnames : ∀ f ∈ guestTable.fields, Text.staysInside '`' f.name.toList = true := by decide
  have hnobody : nobody.IsOver guestTable := .isIn rfl []
  have hholds : grownUp.holds σ true = true := by decide
  obtain ⟨hread, -, hbuilt⟩ := isRead_holds hnames isOver_grownUp hnobody σ
  obtain ⟨hnone, -, -⟩ := isRead_holds hnames hnobody hnobody σ
  obtain ⟨hand, hor, -⟩ := hbuilt _ _ hread hnone
  rw [hholds] at hread hand hor
  exact ⟨hnames, rfl, hread, hand, hor nofun⟩

/-- A table with a column whose name has backquotes in it. -/
def slotTable : Schema where
  table := "slots"
  fields := [{ name := "a", type := .int .w64 }, { name := "b", type := .int .w64 },
    { name := "a` = 1) OR (`b", type := .int .w64 }]

/-- An alternative without choices is written as true, and a name that ends its quotes makes one
text of two conditions. -/
theorem meanings_lost :
    ((any []).IsOver slotTable ∧ ∀ σ, IsRead slotTable σ (any []) true ∧
      (any []).holds σ false = false) ∧
    ∃ c d : Condition, c.IsOver slotTable ∧ d.IsOver slotTable ∧
      c.sql slotTable = d.sql slotTable ∧ ∃ σ, c.holds σ false ≠ d.holds σ false := by
  refine ⟨⟨.any (by simp), fun σ => ⟨⟨"1", rfl, rfl⟩, rfl⟩⟩, ?_⟩
  refine ⟨.all [.compare "a` = 1) OR (`b" .eq (.int 3)],
    .any [.compare "a" .eq (.int 1), .compare "b" .eq (.int 3)], ?_, ?_, rfl,
    fun s => s = "`a` = 1", by decide⟩
  · exact .all (by simpa using .compare rfl .eq _)
  · exact .any (isOver_pair (.compare rfl .eq _) (.compare rfl .eq _))

end Columnar.Condition
