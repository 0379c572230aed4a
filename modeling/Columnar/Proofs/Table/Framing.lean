import Columnar.Proofs.ColumnType.Separators
import Columnar.Proofs.Table.RoundTrip
import Columnar.Proofs.Text.Utf8

/-!
The frame of an insert line: one newline, at its end, and a tab between any two fields.

The entries of a line have no tab and no newline of their own except for those in decimals inside
arrays, which stand there as they are. So the tabs and newlines of a line can be counted exactly,
and a line keeps its frame exactly if none of these decimals has a separator
(`framed_encodeLine_iff`).
-/

namespace Columnar

open ColumnType (isSeparator separators)

variable {s : Schema} {format : LineFormat} {values : List Value} {line : String}

/-! ### What a line is made of -/

/-- The fields that a line has an entry for, with their values. -/
def LineFormat.written (format : LineFormat) (s : Schema) (values : List Value) :
    List (Field × Value) :=
  (s.fields.zip values).filter fun (f, value) => format.writes f value

/-- The texts that stand as they are in a line: those of decimals in arrays. -/
def LineFormat.bareTexts (format : LineFormat) (s : Schema) (values : List Value) : List String :=
  (format.written s values).flatMap fun p => p.1.type.bareInField p.2

/-- A line is its entries between tabs, with a newline behind them. -/
theorem encodeLine_eq_ok (h : s.encodeLine values format = .ok line) :
    values.length = s.fields.length ∧ ∃ entries,
      List.Forall₂ (fun p entry => format.entry p.1 p.2 = .ok entry) (format.written s values)
        entries ∧ line = "\t".intercalate entries ++ "\n" := by
  rw [Schema.encodeLine, Row.checkCount] at h
  obtain ⟨_, hcount, h⟩ := bind_eq_ok h
  obtain ⟨entries, hentries, h⟩ := bind_eq_ok h
  refine ⟨?_, entries, mapM_eq_ok_iff.1 hentries, (Except.ok.inj h).symm⟩
  by_contra hlength
  rw [if_neg hlength] at hcount
  exact absurd hcount (by simp)

/-- The key of a pair has no separators. -/
theorem separators_escapeKey (name : String) : separators (Tsv.escapeKey name) = [] := by
  rw [ColumnType.separators_eq_nil_iff, Tsv.escapeKey, String.toList_ofList]
  intro c hc
  obtain ⟨d, hd, hc⟩ := List.mem_flatMap.1 hc
  split at hc
  · simp only [List.mem_cons, List.not_mem_nil, or_false] at hc
    rcases hc with rfl | rfl <;> rfl
  · rw [List.mem_singleton] at hc
    exact hc ▸ ColumnType.inLine_escapeChars _ d hd

theorem separators_entry {f : Field} {value : Value} {entry : String}
    (h : format.entry f value = .ok entry) :
    separators entry = (f.type.bareInField value).flatMap separators := by
  obtain ⟨text, htext, rfl⟩ := map_eq_ok h
  have hequals : separators "=" = [] := rfl
  cases format with
  | tabSeparated => exact ColumnType.separators_encode htext
  | keyValue =>
    simp only [ColumnType.separators_append, separators_escapeKey, hequals, List.nil_append]
    exact ColumnType.separators_encode htext

/-! ### Counting -/

/-- A text joined with tabs has the characters of its parts, and a tab between any two of them. -/
theorem count_intercalate_tab (c : Char) : ∀ parts : List String,
    ("\t".intercalate parts).toList.count c
      = (parts.length - 1) * ['\t'].count c + (parts.flatMap String.toList).count c
  | [] => by simp
  | [part] => by simp
  | part :: next :: rest => by
    have htab : "\t".toList = ['\t'] := rfl
    rw [String.intercalate_cons_cons, String.toList_append, String.toList_append, htab,
      List.count_append, List.count_append, count_intercalate_tab c (next :: rest)]
    simp only [List.flatMap_cons, List.count_append, List.length_cons, Nat.add_sub_cancel,
      Nat.succ_mul]
    omega

/-- Separators are counted among the separators. -/
theorem count_flatMap_separators {c : Char} (hc : isSeparator c = true) (texts : List String) :
    (texts.flatMap separators).count c = (texts.flatMap String.toList).count c := by
  have hfilter : texts.flatMap separators = (texts.flatMap String.toList).filter isSeparator :=
    List.filter_flatMap.symm
  rw [hfilter, List.count_filter hc]

/-- The separators of a line are the newline, the tabs between entries, and those of bare texts. -/
theorem count_encodeLine {c : Char} (hc : isSeparator c = true)
    (h : s.encodeLine values format = .ok line) :
    line.toList.count c = ['\n'].count c
      + ((format.written s values).length - 1) * ['\t'].count c
      + ((format.bareTexts s values).flatMap String.toList).count c := by
  obtain ⟨-, entries, hentries, rfl⟩ := encodeLine_eq_ok h
  have hnewline : "\n".toList = ['\n'] := rfl
  have hbare : entries.flatMap separators = (format.bareTexts s values).flatMap separators := by
    rw [LineFormat.bareTexts, List.flatMap_assoc]
    exact flatMap_eq_of_forall₂ (fun _ _ h => separators_entry h) hentries
  rw [String.toList_append, hnewline, List.count_append, count_intercalate_tab,
    ← count_flatMap_separators hc, hbare, count_flatMap_separators hc, ← hentries.length_eq]
  omega

/-! ### Frames -/

/-- The bytes are one line of so many fields. -/
structure IsFramed (bytes : Text.Bytes) (fields : Nat) : Prop where
  newlines : bytes.count 0x0A = 1
  last : bytes.getLast? = some 0x0A
  tabs : bytes.count 0x09 = fields - 1

/-- Texts without newlines and tabs are texts without separators. -/
theorem forall_separators_eq_nil_iff {texts : List String} :
    (∀ text ∈ texts, separators text = []) ↔
      (texts.flatMap String.toList).count '\n' = 0 ∧
        (texts.flatMap String.toList).count '\t' = 0 := by
  rw [List.count_eq_zero, List.count_eq_zero]
  constructor
  · intro h
    have hall : ∀ c ∈ texts.flatMap String.toList, isSeparator c = false := by
      intro c hc
      obtain ⟨text, htext, hc⟩ := List.mem_flatMap.1 hc
      exact ColumnType.separators_eq_nil_iff.1 (h text htext) c hc
    exact ⟨fun hc => absurd (hall _ hc) (by decide), fun hc => absurd (hall _ hc) (by decide)⟩
  · rintro ⟨hnewline, htab⟩ text htext
    rw [ColumnType.separators_eq_nil_iff]
    intro c hc
    have hmem : c ∈ texts.flatMap String.toList := List.mem_flatMap.2 ⟨text, htext, hc⟩
    rw [isSeparator, Bool.or_eq_false_iff, decide_eq_false_iff_not, decide_eq_false_iff_not]
    exact ⟨fun h => htab (h ▸ hmem), fun h => hnewline (h ▸ hmem)⟩

/-- A line ends in a newline, and its other newlines, and its tabs but for those between fields, are
those of the texts that stand in it as they are. It is framed exactly if there are none of these. -/
theorem framed_encodeLine_iff (h : s.encodeLine values format = .ok line) :
    (Text.encodeUtf8 line).getLast? = some 0x0A ∧
    (Text.encodeUtf8 line).count 0x0A
      = 1 + ((format.bareTexts s values).flatMap String.toList).count '\n' ∧
    (Text.encodeUtf8 line).count 0x09 = (format.written s values).length - 1
      + ((format.bareTexts s values).flatMap String.toList).count '\t' ∧
    (IsFramed (Text.encodeUtf8 line) (format.written s values).length ↔
      ∀ text ∈ format.bareTexts s values, separators text = []) := by
  have hlast : (Text.encodeUtf8 line).getLast? = some 0x0A := by
    obtain ⟨-, entries, -, rfl⟩ := encodeLine_eq_ok h
    have hnewline : Text.encodeUtf8 "\n" = [0x0A] := rfl
    rw [Text.encodeUtf8_append, hnewline, List.getLast?_concat]
  have hnewlines : (Text.encodeUtf8 line).count 0x0A
      = 1 + ((format.bareTexts s values).flatMap String.toList).count '\n' := by
    rw [Text.count_encodeUtf8 (c := '\n') rfl (by decide), count_encodeLine rfl h]
    rfl
  have htabs : (Text.encodeUtf8 line).count 0x09 = (format.written s values).length - 1
      + ((format.bareTexts s values).flatMap String.toList).count '\t' := by
    have hone : ['\t'].count '\t' = 1 := rfl
    have hnone : ['\n'].count '\t' = 0 := rfl
    rw [Text.count_encodeUtf8 (c := '\t') rfl (by decide), count_encodeLine rfl h, hone, hnone,
      Nat.mul_one, Nat.zero_add]
  refine ⟨hlast, hnewlines, htabs, ?_⟩
  rw [forall_separators_eq_nil_iff]
  constructor
  · rintro ⟨hone, -, htabs'⟩
    omega
  · rintro ⟨hnewline, htab⟩
    exact ⟨by omega, hlast, by omega⟩

/-- A table with decimals in and outside of arrays, and a column that the server may compute. -/
def pricesTable : Schema where
  table := "prices"
  fields := [
    { name := "total", type := .decimal 10 2 },
    { name := "parts", type := .array (.nullable (.decimal 10 2)) },
    { name := "day", type := .date, default := .expression "today()" }]

/-- Outside of arrays a tab is escaped; the entry of a missing day is left out. -/
theorem framed_encodeLine_iff_prices :
    pricesTable.encodeLine [.text "1\t2", .array [.text "3", .null], .null] .keyValue
        = .ok "total=1\\t2\tparts=[3,NULL]\n" ∧
      IsFramed (Text.encodeUtf8 "total=1\\t2\tparts=[3,NULL]\n") 2 := by
  have hline : pricesTable.encodeLine [.text "1\t2", .array [.text "3", .null], .null] .keyValue
      = .ok "total=1\\t2\tparts=[3,NULL]\n" := rfl
  exact ⟨hline, (framed_encodeLine_iff hline).2.2.2.2 (by decide)⟩

/-- The text of a decimal in an array can end the line and begin another one. -/
theorem row_added_by_decimal :
    pricesTable.encodeLine [.text "1", .array [.text "3]\t2024-01-01\n7\t[8"], .date .epoch]
        .tabSeparated = .ok "1\t[3]\t2024-01-01\n7\t[8]\t1970-01-01\n" ∧
      ¬ IsFramed (Text.encodeUtf8 "1\t[3]\t2024-01-01\n7\t[8]\t1970-01-01\n") 3 := by
  refine ⟨rfl, fun h => ?_⟩
  have hnewlines : (Text.encodeUtf8 "1\t[3]\t2024-01-01\n7\t[8]\t1970-01-01\n").count 0x0A = 2 :=
    rfl
  exact absurd (h.newlines.symm.trans hnewlines) (by decide)

end Columnar
