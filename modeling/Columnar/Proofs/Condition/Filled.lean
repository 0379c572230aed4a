import Columnar.Proofs.Condition.Writing
import Columnar.Proofs.Literal

/-!
Placeholders in conditions.

A condition is filled with the statement around it. Its words and operators have no dollar signs,
and quotes close all that a caller puts into it: a placeholder in the text of a condition occurs in
one of the names and the texts that stand there in quotes (`closed_text`).
-/

namespace Columnar.Condition

open Placeholder (Closed closed_backquoted closed_intercalate closed_literal closed_of_not_mem
  occurs)

variable {schema : Schema} {c : Condition}

/-- Whether a placeholder occurs in one of the texts. -/
def occursIn (texts : List String) : Bool :=
  texts.any fun s => occurs s.toList

theorem occursIn_cons (s : String) (texts : List String) :
    occursIn (s :: texts) = (occurs s.toList || occursIn texts) :=
  List.any_cons

theorem occursIn_eq_false_iff {texts : List String} :
    occursIn texts = false ↔ ∀ s ∈ texts, occurs s.toList = false := by
  simp [occursIn]

theorem closed_compareSql (field : String) (op : Comparison) (value : Value) :
    Closed (compareSql (backquoted field) op value).toList
      (occursIn (field :: value.quotedTexts)) := by
  have hname := closed_backquoted field
  have hnull : occursIn (field :: Value.null.quotedTexts) = occurs field.toList := by
    simp only [Value.quotedTexts, occursIn, List.any_cons, List.any_nil, Bool.or_false]
  unfold compareSql
  split
  · rw [hnull]
    exact hname.between (by decide) (by decide)
  · rw [hnull]
    exact hname.between (by decide) (by decide)
  · have hblank : Closed " ".toList false := closed_of_not_mem (by decide)
    have hop : Closed op.sql.toList false := closed_of_not_mem (by cases op <;> decide)
    have hfront := ((hname.append_string hblank).append_string hop).append_string hblank
    have hall := hfront.append_string (closed_literal value)
    rwa [Bool.or_false, Bool.or_false, Bool.or_false] at hall

theorem closed_inSql (field : String) (values : List Value) :
    Closed (inSql (backquoted field) values).toList
      (occursIn (quotedTexts (.isIn field values))) := by
  rw [quotedTexts, inSql]
  split
  · exact closed_of_not_mem (by decide)
  · have hvalues : Closed (", ".intercalate (values.map Value.literal)).toList _ :=
      closed_intercalate (by decide) fun v _ => closed_literal v
    have hlist : Closed (" IN (" ++ ", ".intercalate (values.map Value.literal) ++ ")").toList _ :=
      hvalues.between (by decide) (by decide)
    rw [occursIn_cons, occursIn, Value.allQuotedTexts_eq_flatMap, List.any_flatMap,
      Value.literals_eq_map]
    simpa only [String.append_assoc] using (closed_backquoted field).append_string hlist

theorem closed_joined {word : String} (hword : '$' ∉ word.toList) {parts : List Condition}
    (h : ∀ part ∈ parts, Closed part.text.toList (occursIn part.quotedTexts)) :
    Closed (joined word (texts parts)).toList (occursIn (allQuotedTexts parts)) := by
  rw [texts_eq_map, allQuotedTexts_eq_flatMap, occursIn, List.any_flatMap, joined, List.map_map]
  split
  · next hempty =>
    obtain rfl : parts = [] := by simpa using hempty
    exact closed_of_not_mem (by decide)
  · exact closed_intercalate hword fun part hpart =>
      (h part hpart).between (by decide) (by decide)

/-- A placeholder in the text of a condition on fields occurs in one of the names and the texts that
stand there in quotes. -/
theorem IsOver.closed_text (h : IsOver schema c) :
    Closed c.text.toList (occursIn c.quotedTexts) := by
  induction h with
  | compare h op value => exact closed_compareSql _ op value
  | isIn h values => exact closed_inSql _ values
  | all h ih => exact closed_joined (by decide) ih
  | any h ih => exact closed_joined (by decide) ih
  | negation h ih => exact ih.between (by decide) (by decide)

end Columnar.Condition
