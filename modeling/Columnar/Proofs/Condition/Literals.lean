import Columnar.Proofs.Condition.Writing
import Columnar.Proofs.Table.Assign
import Columnar.Proofs.Text.Quotes
import Columnar.Proofs.Value.Elements

/-!
The literals in the text of a condition.

A text with quoted literals says where they stand (its outline, with an empty literal for each) and
what stands inside them. The outline of a condition's text is the text of the condition with all
texts and dates in its values emptied, and its literals hold these texts, in their order
(`readLiterals?_text`). Conditions that differ only in the texts they hold are therefore written
with the same outline (`exists_outline_of_blanked_eq`): no text, whatever it holds, ends its literal
or begins another one.
-/

namespace Columnar

/-! ### Outlines -/

/-- The fragment of an outline for a fragment of a text: a quoted one is emptied. -/
def Text.Fragment.emptied : Text.Fragment → List Char
  | .plain c => [c]
  | .quoted mark _ => [mark, mark]

/-- What stands inside a quoted fragment, as it is written. -/
def Text.Fragment.inside? : Text.Fragment → Option String
  | .plain _ => none
  | .quoted _ inside => some (String.ofList inside)

/-- The outline of a statement, and what its literals hold, unescaped; `none` when the last of them
is not closed or one of them cannot be unescaped. -/
def readLiterals? (sql : String) : Option (String × List String) := do
  let fragments ← Text.fragments? ['\''] sql.toList
  let contents ← (fragments.filterMap Text.Fragment.inside?).mapM Tsv.unescape?
  pure (String.ofList (fragments.flatMap Text.Fragment.emptied), contents)

/-- The text has the given outline, and its literals hold the given texts, in front of any other
text. -/
def HasLiterals (text outline : String) (contents : List String) : Prop :=
  ∃ fragments, Text.ReadsAs ['\''] text.toList fragments ∧
    fragments.flatMap Text.Fragment.emptied = outline.toList ∧
    fragments.filterMap Text.Fragment.inside? = contents.map Tsv.escape

theorem mapM_unescape?_map_escape : ∀ contents : List String,
    (contents.map Tsv.escape).mapM Tsv.unescape? = some contents
  | [] => rfl
  | content :: contents => by
    rw [List.map_cons, List.mapM_cons, Tsv.unescape?_escape, mapM_unescape?_map_escape contents]
    rfl

namespace HasLiterals

variable {s t outline outline' : String} {contents contents' : List String}

theorem readLiterals?_eq (h : HasLiterals s outline contents) :
    readLiterals? s = some (outline, contents) := by
  obtain ⟨fragments, hreads, houtline, hcontents⟩ := h
  simp only [readLiterals?, hreads.fragments?_eq, hcontents, mapM_unescape?_map_escape, houtline,
    String.ofList_toList, Option.bind_eq_bind, Option.bind_some, Option.pure_def]

theorem append (hs : HasLiterals s outline contents) (ht : HasLiterals t outline' contents') :
    HasLiterals (s ++ t) (outline ++ outline') (contents ++ contents') := by
  obtain ⟨fragments, hreads, houtline, hcontents⟩ := hs
  obtain ⟨fragments', hreads', houtline', hcontents'⟩ := ht
  refine ⟨fragments ++ fragments', ?_, ?_, ?_⟩
  · rw [String.toList_append]
    exact hreads.append hreads'
  · rw [List.flatMap_append, houtline, houtline', String.toList_append]
  · rw [List.filterMap_append, hcontents, hcontents', List.map_append]

/-- A text without single quotes is its own outline. -/
theorem of_not_mem (h : '\'' ∉ s.toList) : HasLiterals s s [] := by
  refine ⟨s.toList.map .plain, Text.readsAs_of_forall fun c hc => ?_, ?_, ?_⟩
  · rw [List.mem_singleton]
    rintro rfl
    exact h hc
  · rw [List.flatMap_map]
    exact List.flatMap_singleton' s.toList
  · rw [List.filterMap_map]
    exact List.filterMap_eq_nil_iff.2 fun c _ => rfl

theorem of_isBareChar (h : ∀ c ∈ s.toList, Value.isBareChar c = true) : HasLiterals s s [] :=
  of_not_mem fun hmem => absurd (h _ hmem) (by decide)

/-- A quoted text is one literal. -/
theorem quote (s : String) : HasLiterals (Tsv.quote s) (Tsv.quote "") [s] := by
  exact ⟨_, Text.readsAs_quote List.mem_cons_self s, rfl, rfl⟩

/-- A word in front does not hold literals. -/
theorem cons {word : String} (hword : '\'' ∉ word.toList) (h : HasLiterals s outline contents) :
    HasLiterals (word ++ s) (word ++ outline) contents :=
  (of_not_mem hword).append h

theorem concat {word : String} (h : HasLiterals s outline contents) (hword : '\'' ∉ word.toList) :
    HasLiterals (s ++ word) (outline ++ word) contents := by
  have hconcat := h.append (of_not_mem hword)
  rwa [List.append_nil] at hconcat

/-- Texts with a separator between them have their outlines with it between them. -/
theorem intercalate {α : Type} (sep : String) (hsep : '\'' ∉ sep.toList)
    {text outline : α → String} {contents : α → List String} : ∀ {items : List α},
    (∀ item ∈ items, HasLiterals (text item) (outline item) (contents item)) →
      HasLiterals (sep.intercalate (items.map text)) (sep.intercalate (items.map outline))
        (items.flatMap contents)
  | [], _ => of_not_mem (s := "") (by decide)
  | [item], h => by
    rw [List.map_singleton, List.map_singleton, String.intercalate_singleton,
      String.intercalate_singleton, List.flatMap_singleton]
    exact h item List.mem_cons_self
  | item :: next :: items, h => by
    have hrest := intercalate sep hsep fun x hx => h x (List.mem_cons_of_mem item hx)
    rw [List.map_cons, List.map_cons, List.map_cons, List.map_cons, String.intercalate_cons_cons,
      String.intercalate_cons_cons, List.flatMap_cons]
    exact ((h item List.mem_cons_self).concat hsep).append hrest

end HasLiterals

/-! ### Values -/

namespace Value

mutual

/-- The value with a function applied to all values in it that are no arrays. -/
def mapScalars (f : Value → Value) : Value → Value
  | .array items => .array (mapAllScalars f items)
  | v => f v

/-- Some values with a function applied to all values in them that are no arrays. -/
def mapAllScalars (f : Value → Value) : List Value → List Value
  | [] => []
  | value :: values => mapScalars f value :: mapAllScalars f values

end

/-- A value that is a text, without its content. -/
def blankText : Value → Value
  | .text _ => .text ""
  | v => v

/-- A value that is written in quotes, without its content. -/
def blankQuoted : Value → Value
  | .text _ => .text ""
  | .date _ => .text ""
  | v => v

theorem mapAllScalars_eq_map (f : Value → Value) : ∀ values : List Value,
    mapAllScalars f values = values.map (mapScalars f)
  | [] => rfl
  | value :: values => by rw [mapAllScalars, mapAllScalars_eq_map f values, List.map_cons]

theorem mapScalars_of_asArray {f : Value → Value} {v : Value} (h : v.asArray = none) :
    v.mapScalars f = f v := by
  cases v <;> first | rfl | exact absurd h (by simp [asArray])

/-- Emptying the texts first does not matter where texts and dates are emptied. -/
theorem mapScalars_blankQuoted_blankText (v : Value) :
    (v.mapScalars blankText).mapScalars blankQuoted = v.mapScalars blankQuoted := by
  induction v using Value.induction with
  | scalar v hv =>
    cases v <;> first | rfl | exact absurd hv (by simp [asArray])
  | array items ih =>
    rw [mapScalars, mapScalars, mapScalars, mapAllScalars_eq_map, mapAllScalars_eq_map,
      mapAllScalars_eq_map, List.map_map]
    exact congrArg Value.array (List.map_congr_left ih)

theorem blankQuoted_eq {v : Value} (h : v.asArray = none) :
    v.blankQuoted = if v.quotedTexts = [] then v else .text "" := by
  cases v with
  | array items => exact absurd h (by simp [asArray])
  | _ => rfl

/-- The literal of a value has the literal of the emptied value as its outline. -/
theorem hasLiterals_literal (v : Value) :
    HasLiterals v.literal (v.mapScalars blankQuoted).literal v.quotedTexts := by
  induction v using Value.induction with
  | scalar v hv =>
    rw [mapScalars_of_asArray hv, blankQuoted_eq hv]
    rcases quoted_or_bare hv with ⟨s, hliteral, htexts, -⟩ | ⟨hbare, htexts, -⟩
    · rw [htexts, if_neg (List.cons_ne_nil s []), hliteral]
      exact .quote s
    · rw [htexts, if_pos rfl]
      exact .of_isBareChar hbare.chars
  | array items ih =>
    have hitems := HasLiterals.intercalate "," (by decide) ih
    rw [literal, literals_eq_map, mapScalars, mapAllScalars_eq_map, literal, literals_eq_map,
      List.map_map, quotedTexts, allQuotedTexts_eq_flatMap]
    exact (hitems.cons (by decide)).concat (by decide)

end Value

/-! ### Conditions -/

namespace Condition

variable {schema : Schema} {a b c : Condition}

mutual

/-- The condition with a function applied to all values in it. -/
def mapValues (f : Value → Value) : Condition → Condition
  | raw text => raw text
  | compare field op value => compare field op (f value)
  | isIn field values => isIn field (values.map f)
  | all parts => all (mapAllValues f parts)
  | any parts => any (mapAllValues f parts)
  | negation part => negation (mapValues f part)

/-- Some conditions with a function applied to all values in them. -/
def mapAllValues (f : Value → Value) : List Condition → List Condition
  | [] => []
  | part :: parts => mapValues f part :: mapAllValues f parts

end

mutual

/-- The texts in the values of the condition, and the texts of the dates in them, in order. -/
def literalTexts : Condition → List String
  | raw _ => []
  | compare _ _ value => value.quotedTexts
  | isIn _ values => values.flatMap Value.quotedTexts
  | all parts => allLiteralTexts parts
  | any parts => allLiteralTexts parts
  | negation part => literalTexts part

/-- The texts in the values of some conditions. -/
def allLiteralTexts : List Condition → List String
  | [] => []
  | part :: parts => literalTexts part ++ allLiteralTexts parts

end

/-- The condition without the contents of the texts in its values. -/
def blanked (c : Condition) : Condition :=
  c.mapValues (Value.mapScalars Value.blankText)

/-- The condition without the contents of all that is written in quotes. -/
def outline (c : Condition) : Condition :=
  c.mapValues (Value.mapScalars Value.blankQuoted)

theorem mapAllValues_eq_map (f : Value → Value) (parts : List Condition) :
    mapAllValues f parts = parts.map (mapValues f) := by
  induction parts with
  | nil => rfl
  | cons part parts ih => rw [mapAllValues, ih, List.map_cons]

theorem allLiteralTexts_eq_flatMap (parts : List Condition) :
    allLiteralTexts parts = parts.flatMap literalTexts := by
  induction parts with
  | nil => rfl
  | cons part parts ih => rw [allLiteralTexts, ih, List.flatMap_cons]

/-- The outline of a condition says nothing about the contents of its texts. -/
theorem IsOver.outline_blanked (h : IsOver schema c) : c.blanked.outline = c.outline := by
  have hvalue : ∀ v : Value, (v.mapScalars Value.blankText).mapScalars Value.blankQuoted
      = v.mapScalars Value.blankQuoted := Value.mapScalars_blankQuoted_blankText
  have hparts : ∀ {parts : List Condition},
      (∀ part ∈ parts, part.blanked.outline = part.outline) →
        mapAllValues (Value.mapScalars Value.blankQuoted)
          (mapAllValues (Value.mapScalars Value.blankText) parts)
        = mapAllValues (Value.mapScalars Value.blankQuoted) parts := fun h => by
    rw [mapAllValues_eq_map, mapAllValues_eq_map, mapAllValues_eq_map, List.map_map]
    exact List.map_congr_left h
  induction h with
  | compare h op value => exact congrArg (Condition.compare _ op) (hvalue value)
  | isIn h values =>
    refine congrArg (Condition.isIn _) ?_
    rw [List.map_map]
    exact List.map_congr_left fun v _ => hvalue v
  | all h ih => exact congrArg Condition.all (hparts ih)
  | any h ih => exact congrArg Condition.any (hparts ih)
  | negation h ih => exact congrArg Condition.negation ih

/-! ### Texts of conditions -/

theorem quote_not_mem_backquoted {name : String} (h : '\'' ∉ name.toList) :
    '\'' ∉ (backquoted name).toList := by
  simpa [backquoted] using h

theorem compareSql_of_ne_null {value : Value} (h : value ≠ .null) (field : String)
    (op : Comparison) :
    compareSql field op value = field ++ " " ++ op.sql ++ " " ++ value.literal := by
  unfold compareSql
  split
  · exact absurd rfl h
  · exact absurd rfl h
  · rfl

theorem hasLiterals_compareSql {field : String} (h : '\'' ∉ field.toList) (op : Comparison)
    (value : Value) :
    HasLiterals (compareSql field op value)
      (compareSql field op (value.mapScalars Value.blankQuoted)) value.quotedTexts := by
  have hfront : '\'' ∉ (field ++ " " ++ op.sql ++ " ").toList := by
    have hop : '\'' ∉ op.sql.toList := by cases op <;> decide
    simp [h, hop]
  by_cases hnull : value = .null
  · subst hnull
    refine .of_not_mem ?_
    unfold compareSql
    split
    · simp [h]
    · simp [h]
    · rw [String.toList_append, List.mem_append, not_or]
      exact ⟨hfront, by decide⟩
  · have houtline : value.mapScalars Value.blankQuoted ≠ .null := by
      cases value <;> simp_all [Value.mapScalars, Value.blankQuoted]
    rw [compareSql_of_ne_null hnull, compareSql_of_ne_null houtline]
    exact value.hasLiterals_literal.cons hfront

theorem hasLiterals_inSql {field : String} (h : '\'' ∉ field.toList) (values : List Value) :
    HasLiterals (inSql field values)
      (inSql field (values.map (Value.mapScalars Value.blankQuoted)))
      (values.flatMap Value.quotedTexts) := by
  cases values with
  | nil => exact .of_not_mem (s := "0") (by decide)
  | cons value values =>
    have hfront : '\'' ∉ (field ++ " IN (").toList := by simp [h]
    have hvalues := HasLiterals.intercalate ", " (by decide) fun v
      (_ : v ∈ value :: values) => v.hasLiterals_literal
    rw [inSql, inSql, if_neg (by simp), if_neg (by simp), Value.literals_eq_map,
      Value.literals_eq_map, List.map_map]
    exact (hvalues.cons hfront).concat (by decide)

theorem hasLiterals_joined {word : String} (hword : '\'' ∉ word.toList) {parts : List Condition}
    (h : ∀ part ∈ parts, HasLiterals part.text part.outline.text part.literalTexts) :
    HasLiterals (joined word (texts parts))
      (joined word (texts (mapAllValues (Value.mapScalars Value.blankQuoted) parts)))
      (allLiteralTexts parts) := by
  cases parts with
  | nil => exact .of_not_mem (s := "1") (by decide)
  | cons part parts =>
    rw [texts_eq_map, texts_eq_map, mapAllValues_eq_map, allLiteralTexts_eq_flatMap, joined,
      joined, if_neg (by simp), if_neg (by simp), List.map_map, List.map_map, List.map_map]
    exact .intercalate word hword fun part hpart =>
      ((h part hpart).cons (by decide)).concat (by decide)

/-- The outline of a condition's text is the text of its outline, and its literals hold the texts of
its values. -/
theorem IsOver.hasLiterals_text (hnames : ∀ f ∈ schema.fields, '\'' ∉ f.name.toList)
    (h : IsOver schema c) : HasLiterals c.text c.outline.text c.literalTexts := by
  have hname : ∀ {field : String}, (schema.field? field).isSome = true →
      '\'' ∉ (backquoted field).toList := by
    intro field hfield
    obtain ⟨f, hf, rfl⟩ := exists_of_isSome_field? hfield
    exact quote_not_mem_backquoted (hnames f hf)
  induction h with
  | compare h op value => exact hasLiterals_compareSql (hname h) op value
  | isIn h values => exact hasLiterals_inSql (hname h) values
  | all h ih => exact hasLiterals_joined (by decide) ih
  | any h ih => exact hasLiterals_joined (by decide) ih
  | negation h ih => exact (ih.cons (by decide)).concat (by decide)

/-- Conditions that differ only in the contents of the texts they hold are written with the same
outline, and the literals of each hold its own texts and dates, in their order. -/
theorem exists_outline_of_blanked_eq (hnames : ∀ f ∈ schema.fields, '\'' ∉ f.name.toList)
    (ha : IsOver schema a) (hb : IsOver schema b) (hsame : a.blanked = b.blanked) :
    ∃ s t outline, a.sql schema = .ok s ∧ b.sql schema = .ok t ∧
      readLiterals? s = some (outline, a.literalTexts) ∧
      readLiterals? t = some (outline, b.literalTexts) := by
  have houtline : a.outline = b.outline := by
    rw [← ha.outline_blanked, hsame, hb.outline_blanked]
  refine ⟨a.text, b.text, a.outline.text, ha.sql_eq, hb.sql_eq, ?_, ?_⟩
  · exact (ha.hasLiterals_text hnames).readLiterals?_eq
  · rw [houtline]
    exact (hb.hasLiterals_text hnames).readLiterals?_eq

/-- A table of texts, lists of texts and dates. -/
def noteTable : Schema where
  table := "notes"
  fields := [{ name := "title", type := .string }, { name := "tags", type := .array .string },
    { name := "day", type := .date }]

/-- The notes with a title, with one of two lists of tags and not of the leap day. -/
def notesWith (title tag : String) : Condition :=
  .all [.compare "title" .eq (.text title), .isIn "tags" [.array [.text tag, .text "x"], .array []],
    .negation (.compare "day" .eq (.date ⟨2024, 2, 29, by decide⟩))]

theorem isOver_notesWith (title tag : String) : (notesWith title tag).IsOver noteTable := by
  refine .all fun part hpart => ?_
  simp only [List.mem_cons, List.not_mem_nil, or_false] at hpart
  rcases hpart with rfl | rfl | rfl
  · exact .compare rfl .eq _
  · exact .isIn rfl _
  · exact .negation (.compare rfl .eq _)

theorem exists_outline_of_notes :
    ((∀ f ∈ noteTable.fields, '\'' ∉ f.name.toList) ∧
      (notesWith "' OR '1" "\\").blanked = (notesWith "a" "b").blanked) ∧
    ∃ s t outline, (notesWith "' OR '1" "\\").sql noteTable = .ok s ∧
      (notesWith "a" "b").sql noteTable = .ok t ∧
      readLiterals? s = some (outline, ["' OR '1", "\\", "x", "2024-02-29"]) ∧
      readLiterals? t = some (outline, ["a", "b", "x", "2024-02-29"]) := by
  have hnames : ∀ f ∈ noteTable.fields, '\'' ∉ f.name.toList := by decide
  have hdate : (⟨2024, 2, 29, by decide⟩ : Calendar.Date).text = "2024-02-29" := by cbv
  have htexts : ∀ title tag : String,
      (notesWith title tag).literalTexts = [title, tag, "x", "2024-02-29"] := fun title tag => by
    rw [← hdate]
    rfl
  refine ⟨⟨hnames, rfl⟩, ?_⟩
  have h := exists_outline_of_blanked_eq hnames (isOver_notesWith "' OR '1" "\\")
    (isOver_notesWith "a" "b") rfl
  rwa [htexts, htexts] at h

end Condition

end Columnar
