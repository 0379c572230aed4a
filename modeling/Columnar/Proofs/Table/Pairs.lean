import Columnar.Proofs.Table.Framing

/-!
Reading a line of pairs.

A line of `key=value` pairs is cut at its tabs, and each piece at its first equals sign that no
backslash stands for. Keys are escaped so that this is the sign behind the key, whatever the name of
the field is (`cutKey?_escapeKey`), and texts of values may have equals signs of their own. So a
line of fitting values is read as the names of the fields that it sends, each with the text of its
value (`readPairs?_encodeLine`).
-/

namespace Columnar.Tsv

/-! ### Reading pairs -/

/-- What stands in front of the first equals sign that is not the second character of a pair behind
a backslash, and what stands behind it. -/
def cutKey? : List Char → Option (List Char × List Char)
  | [] => none
  | '=' :: rest => some ([], rest)
  | '\\' :: c :: rest => (cutKey? rest).map fun (key, text) => ('\\' :: c :: key, text)
  | c :: rest => (cutKey? rest).map fun (key, text) => (c :: key, text)

/-- The key of a piece, unescaped, and the text behind it as it stands. -/
def readPair? (piece : String) : Option (String × String) :=
  (cutKey? piece.toList).bind fun (key, text) =>
    (unescapeChars? key).map fun key => (String.ofList key, String.ofList text)

/-- The pairs of a line; an empty line has none. -/
def readPairs? (line : String) : Option (List (String × String)) :=
  let pieces := splitLine line
  if pieces = [""] then some [] else pieces.mapM readPair?

/-! ### Keys -/

/-- The written form of one character of a key. -/
def keyChar (c : Char) : List Char :=
  (escapeChar c).flatMap fun d => if d = '=' then ['\\', '='] else [d]

theorem toList_escapeKey (s : String) : (escapeKey s).toList = s.toList.flatMap keyChar := by
  rw [escapeKey, String.toList_ofList, escapeChars, List.flatMap_assoc]
  rfl

/-- A character of a key is written as itself, or as a pair that stands for it. -/
theorem keyChar_cases (c : Char) :
    (c ≠ '=' ∧ c ≠ '\\' ∧ keyChar c = [c]) ∨
      ∃ mark, markedChar mark = c ∧ keyChar c = ['\\', mark] := by
  rcases escapeChar_cases c with ⟨hc, hw⟩ | ⟨mark, hm, hw⟩
  · by_cases hequals : c = '='
    · subst hequals
      exact .inr ⟨'=', rfl, rfl⟩
    · exact .inl ⟨hequals, ne_backslash_of_escapeMark? hc, by simp [keyChar, hw, hequals]⟩
  · have hmark : mark ≠ '=' := by
      rintro rfl
      obtain rfl : '=' = c := markedChar_of_escapeMark? hm
      exact absurd hm (by decide)
    exact .inr ⟨mark, markedChar_of_escapeMark? hm, by simp [keyChar, hw, hmark]⟩

theorem cutKey?_cons {c : Char} (hequals : c ≠ '=') (hbackslash : c ≠ '\\') (rest : List Char) :
    cutKey? (c :: rest) = (cutKey? rest).map fun p => (c :: p.1, p.2) := by
  rw [cutKey?]
  · exact fun h => absurd h hequals
  · rintro d rest h -
    exact absurd h hbackslash

/-- A piece is cut behind the key that was written, whatever follows there. -/
theorem cutKey?_escapeKey (text : List Char) : ∀ s : List Char,
    cutKey? (s.flatMap keyChar ++ '=' :: text) = some (s.flatMap keyChar, text)
  | [] => rfl
  | c :: s => by
    rw [List.flatMap_cons, List.append_assoc]
    rcases keyChar_cases c with ⟨hequals, hbackslash, hw⟩ | ⟨mark, -, hw⟩ <;> rw [hw]
    · rw [List.singleton_append, cutKey?_cons hequals hbackslash, cutKey?_escapeKey text s]
      rfl
    · rw [List.cons_append, List.singleton_append, cutKey?, cutKey?_escapeKey text s]
      rfl

/-- Unescaping undoes the escaping of a key. -/
theorem unescapeChars?_escapeKey : ∀ s : List Char, unescapeChars? (s.flatMap keyChar) = some s
  | [] => rfl
  | c :: s => by
    rw [List.flatMap_cons]
    rcases keyChar_cases c with ⟨-, hbackslash, hw⟩ | ⟨mark, rfl, hw⟩ <;> rw [hw]
    · rw [List.singleton_append, unescapeChars?_cons hbackslash, unescapeChars?_escapeKey s]
      rfl
    · rw [List.cons_append, List.singleton_append, unescapeChars?, unescapeChars?_escapeKey s]
      rfl

/-- A pair is read as its key and its text. -/
theorem readPair?_pair (key text : String) :
    readPair? (escapeKey key ++ "=" ++ text) = some (key, text) := by
  have hpiece : (escapeKey key ++ "=" ++ text).toList
      = key.toList.flatMap keyChar ++ '=' :: text.toList := by
    rw [String.toList_append, String.toList_append, toList_escapeKey, List.append_assoc]
    rfl
  rw [readPair?, hpiece, cutKey?_escapeKey, Option.bind_some]
  simp only [unescapeChars?_escapeKey, Option.map_some, String.ofList_toList]

end Columnar.Tsv

namespace Columnar

open Tsv (escapeKey readPair? readPairs?)

variable {s : Schema} {values : List Value}

/-! ### Pairs in lines -/

/-- The piece of a line for a pair. -/
def pairText (pair : String × String) : String :=
  escapeKey pair.1 ++ "=" ++ pair.2

theorem pairText_ne_empty (pair : String × String) : pairText pair ≠ "" := by
  intro h
  have hequals : '=' ∈ (pairText pair).toList := by simp [pairText]
  rw [h] at hequals
  exact absurd hequals (by simp)

theorem mapM_readPair? : ∀ pairs : List (String × String),
    (pairs.map pairText).mapM readPair? = some pairs
  | [] => rfl
  | pair :: pairs => by
    rw [List.map_cons, List.mapM_cons, pairText, Tsv.readPair?_pair, mapM_readPair? pairs]
    rfl

theorem tab_not_mem_pairText {pair : String × String} (h : '\t' ∉ pair.2.toList) :
    '\t' ∉ (pairText pair).toList := by
  have hkey := ColumnType.separators_eq_nil_iff.1 (separators_escapeKey pair.1)
  simp only [pairText, String.toList_append, List.mem_append, not_or]
  exact ⟨⟨fun hmem => absurd (hkey '\t' hmem) (by decide), by decide⟩, h⟩

/-- A line of pairs is read as these pairs, if their texts have no tabs. -/
theorem readPairs?_intercalate {pairs : List (String × String)}
    (htab : ∀ pair ∈ pairs, '\t' ∉ pair.2.toList) :
    readPairs? ("\t".intercalate (pairs.map pairText) ++ "\n") = some pairs := by
  cases pairs with
  | nil => rfl
  | cons pair rest =>
    have hne : (pair :: rest).map pairText ≠ [] := by simp
    have hpieces : ∀ piece ∈ (pair :: rest).map pairText, '\t' ∉ piece.toList := by
      simp only [List.forall_mem_map]
      exact fun p hp => tab_not_mem_pairText (htab p hp)
    have hsome : (pair :: rest).map pairText ≠ [""] := by
      intro h
      exact pairText_ne_empty pair (List.cons.inj h).1
    rw [readPairs?, Tsv.splitLine_intercalate_newline hne hpieces]
    simp only [if_neg hsome, mapM_readPair?]

/-! ### Records -/

/-- The fields that a line of pairs sends, with their values: those that records send values for,
but for the ones that the server computes where they hold no value. -/
def sentFields (fields : List Field) (values : List Value) : List (Field × Value) :=
  (fields.zip values).filter fun (f, value) =>
    f.isWritable && !(value.isNull && !f.type.isNullable && f.hasComputedDefault)

/-- A sent field has a pair without separators in the text of its value. -/
theorem exists_pair_of_fits {f : Field} {value : Value} (h : f.type.Fits value) :
    ∃ pair : String × String, pair.1 = f.name ∧ f.type.encode value = .ok pair.2 ∧
      '\t' ∉ pair.2.toList := by
  obtain ⟨text, htext⟩ : ∃ text, ColumnType.WritesField .utc f.type value text :=
    ColumnType.exists_writesField h
  exact ⟨(f.name, text), rfl, htext.encode, fun hmem => absurd (htext.inLine _ hmem) (by decide)⟩

/-- A record whose values fit their fields, or are missing where the server computes them, has a
line of pairs. The line is read as the names of the fields that it sends, in the order of the
schema, each with the text of its value. -/
theorem readPairs?_encodeLine (hfits : List.Forall₂ (fun f value => f.isWritable = true →
      f.type.Fits value ∨
        value = .null ∧ f.type.isNullable = false ∧ f.hasComputedDefault = true)
      s.fields values) :
    ∃ body pairs, s.encodeLine values .keyValue = .ok (body ++ "\n") ∧
      readPairs? (body ++ "\n") = some pairs ∧
      List.Forall₂ (fun p pair => pair.1 = p.1.name ∧ p.1.type.encode p.2 = .ok pair.2)
        (sentFields s.fields values) pairs := by
  obtain ⟨pairs, hpairs⟩ : ∃ pairs : List (String × String), List.Forall₂ (fun p pair =>
      pair.1 = p.1.name ∧ p.1.type.encode p.2 = .ok pair.2 ∧ '\t' ∉ pair.2.toList)
        (sentFields s.fields values) pairs := by
    refine exists_forall₂ fun p hp => ?_
    obtain ⟨hmem, hsent⟩ := List.mem_filter.1 hp
    obtain ⟨hwritable, hkept⟩ := Bool.and_eq_true_iff.1 hsent
    refine exists_pair_of_fits ((List.forall₂_zip hfits hmem hwritable).resolve_right ?_)
    rintro ⟨hnull, hnullable, hcomputed⟩
    simp [hnull, hnullable, hcomputed, Value.isNull] at hkept
  have hentries : List.Forall₂ (fun p entry => LineFormat.keyValue.entry p.1 p.2 = .ok entry)
      ((s.fields.zip values).filter fun p => LineFormat.keyValue.writes p.1 p.2)
      (pairs.map pairText) := by
    have hsent : (s.fields.zip values).filter (fun p => LineFormat.keyValue.writes p.1 p.2)
        = sentFields s.fields values := by
      simp [sentFields, LineFormat.writes, Field.isLeftOut]
    rw [hsent, List.forall₂_map_right_iff]
    refine hpairs.imp fun p pair hpair => ?_
    rw [LineFormat.entry, hpair.2.1, map_ok, ← hpair.1]
    rfl
  refine ⟨_, pairs, encodeLine_of_written hfits.length_eq.symm hentries, ?_, ?_⟩
  · exact readPairs?_intercalate (forall_mem_of_forall₂ (fun _ _ h => h.2.2) hpairs)
  · exact hpairs.imp fun p pair hpair => ⟨hpair.1, hpair.2.1⟩

/-- A table whose first column the server computes, with names that look like pairs and escapes. -/
def keysTable : Schema where
  table := "keys"
  fields := [
    { name := "day", type := .date, default := .expression "today()" },
    { name := "a\\=b", type := .string },
    { name := "id", type := .uint .w64, default := .materialized "rowNumber()" },
    { name := "=\t", type := .array (.nullable .string) },
    { name := "", type := .lowCardinality (.nullable (.int .w8)), default := .expression "0" }]

/-- The values of the table's only record. -/
def keysValues : List Value :=
  [.null, .text "x=\ty", .null, .array [.text "=", .null], .null]

theorem readPairs?_encodeLine_keys :
    (List.Forall₂ (fun f value => f.isWritable = true → f.type.Fits value ∨
        value = .null ∧ f.type.isNullable = false ∧ f.hasComputedDefault = true)
      keysTable.fields keysValues) ∧
    ∃ body pairs, keysTable.encodeLine keysValues .keyValue = .ok (body ++ "\n") ∧
      readPairs? (body ++ "\n") = some pairs ∧
      List.Forall₂ (fun p pair => pair.1 = p.1.name ∧ p.1.type.encode p.2 = .ok pair.2)
        (sentFields keysTable.fields keysValues) pairs := by
  have hfits : List.Forall₂ (fun f value => f.isWritable = true → f.type.Fits value ∨
        value = .null ∧ f.type.isNullable = false ∧ f.hasComputedDefault = true)
      keysTable.fields keysValues := by
    simp [keysTable, keysValues, ColumnType.Fits, ColumnType.isNullable, Field.hasComputedDefault,
      Field.isWritable]
  exact ⟨hfits, readPairs?_encodeLine hfits⟩

example : keysTable.encodeLine keysValues .keyValue
    = .ok "a\\\\\\=b=x=\\ty\t\\=\\t=['=',NULL]\t=\\N\n" := rfl

/-- A line of a record that leaves out all its fields. -/
example : readPairs? "\n" = some [] := rfl

end Columnar
