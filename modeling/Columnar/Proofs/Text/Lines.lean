import Columnar.Proofs.Text.Utf8
import Columnar.Text.Blank

/-!
Where a text is cut into lines.

Cutting goes on from any newline as from the beginning, so a list may be cut piece by piece
(`cutLines_append`), and a text may be cut before or after it is encoded (`cutLines_encodeChars`).
-/

namespace Columnar.Text

variable {α : Type} [DecidableEq α] {newline carriageReturn : α}

theorem cutLines_of_not_mem {l : List α} (h : newline ∉ l) :
    cutLines newline carriageReturn l = ([], l) := by
  rw [cutLines, List.splitOn_eq_singleton h]
  rfl

/-- The line up to the first newline comes first; the rest is cut on its own. -/
theorem cutLines_cons_line {l : List α} (h : newline ∉ l) (rest : List α) :
    cutLines newline carriageReturn (l ++ newline :: rest)
      = (dropEnd carriageReturn l :: (cutLines newline carriageReturn rest).1,
          (cutLines newline carriageReturn rest).2) := by
  have hne : rest.splitOn newline ≠ [] := List.splitOn_ne_nil newline rest
  simp only [cutLines, List.splitOn_append_cons_self_of_not_mem h]
  rw [List.dropLast_cons_of_ne_nil hne, List.getLast?_cons_of_ne_nil hne, List.map_cons]

/-- Any list has no newline, or a first one. -/
theorem cutLines_induction (newline : α) {P : List α → Prop} (last : ∀ l, newline ∉ l → P l)
    (line : ∀ l rest, newline ∉ l → P rest → P (l ++ newline :: rest)) (l : List α) : P l := by
  by_cases h : newline ∈ l
  · obtain ⟨s, rest, hl, hs⟩ := List.eq_append_cons_of_mem h
    have hlen : rest.length < l.length := by
      rw [hl, List.length_append, List.length_cons]
      omega
    exact hl ▸ line s rest hs (cutLines_induction newline last line rest)
  · exact last l h
termination_by l.length

theorem not_mem_cutLines (newline carriageReturn : α) (l : List α) :
    newline ∉ (cutLines newline carriageReturn l).2 := by
  induction l using cutLines_induction newline with
  | last l h => rwa [cutLines_of_not_mem h]
  | line l rest h ih => rwa [cutLines_cons_line h]

/-- What follows is cut together with what was left of what came before. -/
theorem cutLines_append (l more : List α) :
    cutLines newline carriageReturn (l ++ more)
      = ((cutLines newline carriageReturn l).1 ++ (cutLines newline carriageReturn
            ((cutLines newline carriageReturn l).2 ++ more)).1,
          (cutLines newline carriageReturn ((cutLines newline carriageReturn l).2 ++ more)).2) := by
  induction l using cutLines_induction newline with
  | last l h => rw [cutLines_of_not_mem h, List.nil_append]
  | line l rest h ih =>
    rw [List.append_assoc, List.cons_append, cutLines_cons_line h, cutLines_cons_line h, ih,
      List.cons_append]

/-- There is a line for each newline. -/
theorem length_cutLines (newline carriageReturn : α) (l : List α) :
    (cutLines newline carriageReturn l).1.length = l.count newline := by
  induction l using cutLines_induction newline with
  | last l h => rw [cutLines_of_not_mem h, List.count_eq_zero.2 h, List.length_nil]
  | line l rest h ih =>
    rw [cutLines_cons_line h, List.length_cons, ih, List.count_append, List.count_eq_zero.2 h,
      List.count_cons_self, Nat.zero_add]

/-- Nothing is left behind a newline at the end. -/
theorem cutLines_snd_eq_nil {l : List α} (h : l = [] ∨ l.getLast? = some newline) :
    (cutLines newline carriageReturn l).2 = [] := by
  induction l using cutLines_induction newline with
  | last l hl =>
    rcases h with rfl | hlast
    · rw [cutLines_of_not_mem hl]
    · exact absurd (List.mem_of_getLast? hlast) hl
  | line l rest hl ih =>
    rw [cutLines_cons_line hl]
    refine ih ?_
    rcases h with hnil | hlast
    · exact absurd hnil (by simp)
    · cases rest with
      | nil => exact .inl rfl
      | cons c rest =>
        rw [List.getLast?_append_of_ne_nil _ (by simp), List.getLast?_cons_cons] at hlast
        exact .inr hlast

/-! ### Lines of texts -/

/-- The lines with a newline behind each. -/
def terminated (lines : List String) : String :=
  String.join (lines.map (· ++ "\n"))

theorem terminated_append (front lines : List String) :
    terminated (front ++ lines) = terminated front ++ terminated lines := by
  rw [terminated, List.map_append, ← String.toList_inj]
  simp [terminated, String.toList_join]

theorem toList_terminated_cons (line : String) (lines : List String) :
    (terminated (line :: lines)).toList = line.toList ++ '\n' :: (terminated lines).toList := by
  simp [terminated, String.toList_join]

theorem cutLines_terminated : ∀ {lines : List String},
    (∀ line ∈ lines, '\n' ∉ line.toList ∧ '\r' ∉ line.toList) →
    cutLines '\n' '\r' (terminated lines).toList = (lines.map String.toList, [])
  | [], _ => rfl
  | line :: rest, h => by
    have hline := h line List.mem_cons_self
    rw [toList_terminated_cons, cutLines_cons_line hline.1,
      cutLines_terminated fun l hl => h l (List.mem_cons_of_mem line hl), dropEnd, if_neg]
    · rfl
    · exact fun hlast => hline.2 (List.mem_of_getLast? hlast)

/-- Lines with a newline behind each are the lines of the text. -/
theorem lines_terminated {lines : List String}
    (h : ∀ line ∈ lines, '\n' ∉ line.toList ∧ '\r' ∉ line.toList) :
    Text.lines (terminated lines) = lines := by
  rw [Text.lines, cutLines_terminated h]
  simp [Function.comp_def]

/-! ### Lines of bytes -/

/-- The bytes of characters. -/
def encodeChars (s : List Char) : Bytes :=
  s.flatMap String.utf8EncodeChar

theorem encodeUtf8_eq_encodeChars (s : String) : encodeUtf8 s = encodeChars s.toList :=
  encodeUtf8_eq s

theorem encodeChars_toList_ofList (s : List Char) :
    encodeUtf8 (String.ofList s) = encodeChars s := by
  rw [encodeUtf8_eq_encodeChars, String.toList_ofList]

theorem mem_of_mem_encodeChars {s : List Char} {c : Char} {b : UInt8} (hc : c.toNat = b.toNat)
    (hb : b.toNat < 0x80) (h : b ∈ encodeChars s) : c ∈ s := by
  rw [← encodeChars_toList_ofList] at h
  simpa using mem_toList_of_mem_encodeUtf8 hc hb h

/-- The bytes end in a carriage return only if the characters do. -/
theorem dropEnd_encodeChars (s : List Char) :
    dropEnd 0x0D (encodeChars s) = encodeChars (dropEnd '\r' s) := by
  rcases List.eq_nil_or_concat s with rfl | ⟨t, c, rfl⟩
  · rfl
  · rw [List.concat_eq_append, dropEnd, dropEnd, List.getLast?_concat, encodeChars,
      List.flatMap_append, List.flatMap_singleton]
    by_cases hc : c = '\r'
    · subst hc
      have hcr : String.utf8EncodeChar '\r' = [0x0D] := rfl
      rw [hcr, List.getLast?_concat, if_pos rfl, if_pos rfl, List.dropLast_concat,
        List.dropLast_concat]
      rfl
    · rw [if_neg, if_neg (by simpa using hc), encodeChars, List.flatMap_append,
        List.flatMap_singleton]
      intro hlast
      rw [List.getLast?_append_of_ne_nil _ String.utf8EncodeChar_ne_nil] at hlast
      have hmem : (0x0D : UInt8) ∈ encodeChars [c] := by
        rw [encodeChars, List.flatMap_singleton]
        exact List.mem_of_getLast? hlast
      have hcr := mem_of_mem_encodeChars (c := '\r') rfl (by decide) hmem
      exact hc (List.mem_singleton.1 hcr).symm

/-- A text is cut before it is encoded, or after. -/
theorem cutLines_encodeChars (s : List Char) :
    cutLines 0x0A 0x0D (encodeChars s)
      = ((cutLines '\n' '\r' s).1.map encodeChars, encodeChars (cutLines '\n' '\r' s).2) := by
  have hnl : ∀ {l : List Char}, '\n' ∉ l → (0x0A : UInt8) ∉ encodeChars l :=
    fun h hmem => h (mem_of_mem_encodeChars rfl (by decide) hmem)
  induction s using cutLines_induction '\n' with
  | last l h => rw [cutLines_of_not_mem h, cutLines_of_not_mem (hnl h), List.map_nil]
  | line l rest h ih =>
    have hbytes : encodeChars (l ++ '\n' :: rest) = encodeChars l ++ 0x0A :: encodeChars rest := by
      rw [encodeChars, List.flatMap_append, List.flatMap_cons]
      rfl
    rw [hbytes, cutLines_cons_line h, cutLines_cons_line (hnl h), ih, dropEnd_encodeChars,
      List.map_cons]

end Columnar.Text
