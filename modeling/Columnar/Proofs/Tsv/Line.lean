import Columnar.Proofs.Tsv.Escape
import Columnar.Tsv.Escape

/-!
Joining fields with tabs and cutting the line again.

A line of fields without tabs is cut into those fields, with or without the newline that ends it.
Escaped fields have no tab, so a line of escaped texts is read back as the texts.
-/

namespace Columnar.Tsv

/-! ### Ends of lists -/

theorem dropEnd_concat {α : Type} [DecidableEq α] (last : α) (l : List α) :
    Text.dropEnd last (l ++ [last]) = l := by
  rw [Text.dropEnd, List.getLast?_concat, if_pos rfl, List.dropLast_concat]

theorem dropEnd_of_not_mem {α : Type} [DecidableEq α] {last : α} {l : List α} (h : last ∉ l) :
    Text.dropEnd last l = l := by
  rw [Text.dropEnd, if_neg]
  exact fun hl => h (List.mem_of_getLast? hl)

/-! ### Cutting at tabs -/

/-- A character of a joined line stands in the separator or in one of the fields. -/
theorem mem_toList_intercalate {c : Char} {sep : String} :
    ∀ {fields : List String}, c ∈ (sep.intercalate fields).toList →
      c ∈ sep.toList ∨ ∃ f ∈ fields, c ∈ f.toList
  | [], h => by simp at h
  | [f], h => by
    rw [String.intercalate_singleton] at h
    exact .inr ⟨f, List.mem_singleton_self f, h⟩
  | f :: g :: rest, h => by
    rw [String.intercalate_cons_cons, String.toList_append, String.toList_append] at h
    rcases List.mem_append.1 h with h | h
    · rcases List.mem_append.1 h with h | h
      · exact .inr ⟨f, List.mem_cons_self, h⟩
      · exact .inl h
    · rcases mem_toList_intercalate h with h | ⟨f', hf', h⟩
      · exact .inl h
      · exact .inr ⟨f', List.mem_cons_of_mem f hf', h⟩

theorem splitOn_intercalate_tab {fields : List String} (hne : fields ≠ [])
    (ht : ∀ f ∈ fields, '\t' ∉ f.toList) :
    (("\t".intercalate fields).toList.splitOn '\t').map String.ofList = fields := by
  have htab : "\t".toList = ['\t'] := rfl
  rw [String.toList_intercalate, htab, List.splitOn_intercalate, List.map_map]
  · exact (List.map_congr_left fun s _ => String.ofList_toList).trans (List.map_id' _)
  · intro l hl
    obtain ⟨f, hf, rfl⟩ := List.mem_map.1 hl
    exact ht f hf
  · simpa using hne

/-- The pieces of a text have its characters, without the one it is cut at. -/
theorem mem_of_mem_splitOn {c d : Char} : ∀ {s piece : List Char}, piece ∈ s.splitOn d → c ∈ piece →
    c ∈ s ∧ c ≠ d
  | [], piece, hpiece, hc => by
    rw [List.splitOn_nil, List.mem_singleton] at hpiece
    exact absurd (hpiece ▸ hc) List.not_mem_nil
  | e :: s, piece, hpiece, hc => by
    rw [List.splitOn_cons_eq_if_modifyHead] at hpiece
    have hlater : ∀ {p : List Char}, p ∈ s.splitOn d → c ∈ p → c ∈ e :: s ∧ c ≠ d := fun hp hc =>
      (mem_of_mem_splitOn hp hc).imp_left (List.mem_cons_of_mem e)
    split at hpiece
    · rcases List.mem_cons.1 hpiece with rfl | hpiece
      · exact absurd hc List.not_mem_nil
      · exact hlater hpiece hc
    · next he =>
      cases hrest : s.splitOn d with
      | nil => exact absurd hrest (List.splitOn_ne_nil d s)
      | cons first rest =>
        rw [hrest, List.modifyHead_cons] at hpiece
        rw [hrest] at hlater
        rcases List.mem_cons.1 hpiece with rfl | hpiece
        · rcases List.mem_cons.1 hc with rfl | hc
          · exact ⟨List.mem_cons_self, by simpa using he⟩
          · exact hlater List.mem_cons_self hc
        · exact hlater (List.mem_cons_of_mem first hpiece) hc

theorem splitLine_ne_nil (line : String) : splitLine line ≠ [] :=
  fun h => List.splitOn_ne_nil _ _ (List.map_eq_nil_iff.1 h)

/-- The fields of a line without a newline have neither a tab nor a newline. -/
theorem not_mem_of_mem_splitLine {line field : String} (hline : '\n' ∉ line.toList)
    (h : field ∈ splitLine line) : '\t' ∉ field.toList ∧ '\n' ∉ field.toList := by
  rw [splitLine, dropEnd_of_not_mem hline] at h
  obtain ⟨piece, hpiece, rfl⟩ := List.mem_map.1 h
  rw [String.toList_ofList]
  exact ⟨fun htab => (mem_of_mem_splitOn hpiece htab).2 rfl,
    fun hnewline => hline (mem_of_mem_splitOn hpiece hnewline).1⟩

/-- A line that a newline ends is cut into the fields that were joined. -/
theorem splitLine_intercalate_newline {fields : List String} (hne : fields ≠ [])
    (ht : ∀ f ∈ fields, '\t' ∉ f.toList) :
    splitLine ("\t".intercalate fields ++ "\n") = fields := by
  have hline : ("\t".intercalate fields ++ "\n").toList
      = ("\t".intercalate fields).toList ++ ['\n'] := String.toList_append
  rw [splitLine, hline, dropEnd_concat, splitOn_intercalate_tab hne ht]

/-- A line without a newline is cut into the fields that were joined. -/
theorem splitLine_intercalate {fields : List String} (hne : fields ≠ [])
    (ht : ∀ f ∈ fields, '\t' ∉ f.toList) (hn : ∀ f ∈ fields, '\n' ∉ f.toList) :
    splitLine ("\t".intercalate fields) = fields := by
  rw [splitLine, dropEnd_of_not_mem, splitOn_intercalate_tab hne ht]
  intro h
  rcases mem_toList_intercalate h with h | ⟨f, hf, h⟩
  · exact absurd h (by decide)
  · exact hn f hf h

/-- A line without a tab or a newline is one field. -/
theorem splitLine_eq_singleton {line : String} (ht : '\t' ∉ line.toList)
    (hn : '\n' ∉ line.toList) : splitLine line = [line] := by
  have h := splitLine_intercalate (List.cons_ne_nil line []) (by simpa using ht)
    (by simpa using hn)
  rwa [String.intercalate_singleton] at h

/-! ### Reading escaped fields -/

theorem unescapeAll_map_escape : ∀ texts : List String, unescapeAll (texts.map escape) = .ok texts
  | [] => rfl
  | s :: texts => by
    rw [List.map_cons, unescapeAll, unescape?_escape]
    simp only [unescapeAll_map_escape texts]
    rfl

/-- A line of escaped texts is read back as the texts. -/
theorem readLine_intercalate_escape {texts : List String} (hne : texts ≠ []) :
    readLine ("\t".intercalate (texts.map escape)) = .ok texts := by
  rw [readLine, splitLine_intercalate, unescapeAll_map_escape]
  · simpa using hne
  · simp only [List.forall_mem_map, toList_escape]
    exact fun s _ => tab_not_mem_escapeChars s.toList
  · simp only [List.forall_mem_map, toList_escape]
    exact fun s _ => newline_not_mem_escapeChars s.toList

end Columnar.Tsv
