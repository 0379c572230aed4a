import Columnar.Proofs.Result
import Columnar.Text.Utf8
import Mathlib.Data.String.Basic

/-!
Texts and their bytes.

The encoding goes character by character, so it is a homomorphism. Its bytes below 0x80 are the
characters below 0x80 and nothing else, which is why bytes may be cut at newlines. It keeps the
order: texts are ordered by code points as their bytes are.
-/

namespace Columnar.Text

theorem encodeUtf8_eq (s : String) :
    encodeUtf8 s = s.toList.flatMap String.utf8EncodeChar := by
  rw [encodeUtf8, String.toUTF8_eq_toByteArray, ← String.utf8Encode_toList, List.utf8Encode]
  exact List.toList_data_toByteArray

@[simp] theorem encodeUtf8_append (s t : String) :
    encodeUtf8 (s ++ t) = encodeUtf8 s ++ encodeUtf8 t := by
  rw [encodeUtf8_eq, String.toList_append, List.flatMap_append, ← encodeUtf8_eq, ← encodeUtf8_eq]

@[simp] theorem encodeUtf8_empty : encodeUtf8 "" = [] := by
  rw [encodeUtf8_eq]
  rfl

/-- The bytes of a text are read as the text. -/
@[simp] theorem decodeUtf8?_encodeUtf8 (s : String) : decodeUtf8? (encodeUtf8 s) = some s := by
  have hbytes : (⟨(encodeUtf8 s).toArray⟩ : ByteArray) = s.toByteArray := rfl
  have hvalid : s.toByteArray.IsValidUTF8 := s.isValidUTF8
  rw [decodeUtf8?, hbytes, String.fromUTF8?, dif_pos hvalid]
  rfl

@[simp] theorem repairUtf8_encodeUtf8 (s : String) : repairUtf8 (encodeUtf8 s) = s := by
  rw [repairUtf8, decodeUtf8?_encodeUtf8]

theorem encodeUtf8_inj {s t : String} (h : encodeUtf8 s = encodeUtf8 t) : s = t := by
  have hs := decodeUtf8?_encodeUtf8 s
  rw [h, decodeUtf8?_encodeUtf8] at hs
  exact (Option.some.inj hs).symm

/-! ### Bytes of ASCII characters -/

/-- A byte below 0x80 is the code of its character. -/
theorem toNat_eq_of_mem_utf8EncodeChar {c : Char} {b : UInt8} (hb : b.toNat < 0x80)
    (h : b ∈ String.utf8EncodeChar c) : c.toNat = b.toNat := by
  have hc : c.val.toNat = c.toNat := rfl
  unfold String.utf8EncodeChar at h
  simp only at h
  split at h
  · rw [List.mem_singleton.1 h, UInt8.toNat_ofNat']
    omega
  · exfalso
    have hbyte : ∃ n, 0x80 ≤ n ∧ n < 0x100 ∧ b = UInt8.ofNat n := by
      split at h
      · simp only [List.mem_cons, List.not_mem_nil, or_false] at h
        rcases h with h | h <;> exact ⟨_, by omega, by omega, h⟩
      split at h <;> simp only [List.mem_cons, List.not_mem_nil, or_false] at h
      · rcases h with h | h | h <;> exact ⟨_, by omega, by omega, h⟩
      · rcases h with h | h | h | h <;> exact ⟨_, by omega, by omega, h⟩
    obtain ⟨n, hlow, hhigh, rfl⟩ := hbyte
    rw [UInt8.toNat_ofNat'] at hb
    omega

/-- Only the character itself is written with the byte of an ASCII character. -/
theorem mem_toList_of_mem_encodeUtf8 {s : String} {c : Char} {b : UInt8} (hc : c.toNat = b.toNat)
    (hb : b.toNat < 0x80) (h : b ∈ encodeUtf8 s) : c ∈ s.toList := by
  rw [encodeUtf8_eq, List.mem_flatMap] at h
  obtain ⟨d, hd, hbd⟩ := h
  have hdc : d = c := Char.toNat_inj.1 ((toNat_eq_of_mem_utf8EncodeChar hb hbd).trans hc.symm)
  exact hdc ▸ hd

/-- An ASCII character is written as its code. -/
theorem utf8EncodeChar_of_ascii {c : Char} {b : UInt8} (hc : c.toNat = b.toNat)
    (hb : b.toNat < 0x80) : String.utf8EncodeChar c = [b] := by
  have hval : c.val.toNat = b.toNat := hc
  have hle : c.val.toNat ≤ 127 := by omega
  have hsize : c.utf8Size = 1 := Char.utf8Size_eq_one_iff.2 (UInt32.le_iff_toNat_le.2 hle)
  have hbyte : c.val.toUInt8 = b := by
    rw [← UInt8.toNat_inj, UInt32.toNat_toUInt8, hval]
    omega
  rw [String.utf8EncodeChar_eq_singleton hsize, hbyte]

theorem count_utf8EncodeChar {c : Char} {b : UInt8} (hc : c.toNat = b.toNat)
    (hb : b.toNat < 0x80) (d : Char) : (String.utf8EncodeChar d).count b = [d].count c := by
  by_cases hd : d = c
  · subst hd
    rw [utf8EncodeChar_of_ascii hc hb, List.count_singleton_self, List.count_singleton_self]
  · rw [List.count_singleton, if_neg (by simpa using hd), List.count_eq_zero]
    intro hmem
    exact hd (Char.toNat_inj.1 ((toNat_eq_of_mem_utf8EncodeChar hb hmem).trans hc.symm))

/-- An ASCII character stands as often in a text as its code in the bytes. -/
theorem count_encodeUtf8 {c : Char} {b : UInt8} (hc : c.toNat = b.toNat) (hb : b.toNat < 0x80)
    (s : String) : (encodeUtf8 s).count b = s.toList.count c := by
  rw [encodeUtf8_eq]
  induction s.toList with
  | nil => rfl
  | cons d rest ih =>
    rw [List.flatMap_cons, List.count_append, count_utf8EncodeChar hc hb, ih, ← List.count_append,
      List.singleton_append]

/-! ### The order -/

/-- The bytes of a smaller character are smaller, whatever follows. -/
theorem utf8EncodeChar_append_lt {c d : Char} (h : c < d) (x y : Bytes) :
    String.utf8EncodeChar c ++ x < String.utf8EncodeChar d ++ y := by
  have hlt : c.val.toNat < d.val.toNat := h
  have hd : d.val.toNat < 0x110000 := by
    have hvalid : d.val.toNat.isValidChar := d.valid
    rcases hvalid with hd | hd <;> omega
  unfold String.utf8EncodeChar
  simp only
  split_ifs <;>
    simp only [List.cons_append, List.nil_append, List.cons_lt_cons_iff, UInt8.lt_iff_toNat_lt,
      ← UInt8.toNat_inj, UInt8.toNat_ofNat'] <;>
    simp (disch := omega) only [Nat.mod_eq_of_lt] <;> omega

theorem flatMap_utf8EncodeChar_lt :
    ∀ {s t : List Char}, s < t →
      s.flatMap String.utf8EncodeChar < t.flatMap String.utf8EncodeChar
  | [], d :: t, _ => by
    rw [List.flatMap_nil, List.flatMap_cons]
    cases hd : String.utf8EncodeChar d with
    | nil => exact absurd hd String.utf8EncodeChar_ne_nil
    | cons b rest => exact List.nil_lt_cons b _
  | c :: s, d :: t, h => by
    rw [List.flatMap_cons, List.flatMap_cons]
    rcases List.cons_lt_cons_iff.1 h with hcd | ⟨rfl, hst⟩
    · exact utf8EncodeChar_append_lt hcd _ _
    · exact List.append_left_lt (flatMap_utf8EncodeChar_lt hst)

/-- Texts are ordered as their bytes are. -/
theorem encodeUtf8_lt_iff {s t : String} : encodeUtf8 s < encodeUtf8 t ↔ s < t := by
  have hmono : ∀ {s t : String}, s < t → encodeUtf8 s < encodeUtf8 t := fun {s t} h => by
    rw [encodeUtf8_eq, encodeUtf8_eq]
    exact flatMap_utf8EncodeChar_lt (String.lt_iff_toList_lt.1 h)
  refine ⟨fun h => ?_, hmono⟩
  rcases lt_trichotomy s t with hst | rfl | hst
  · exact hst
  · exact absurd h (List.lt_irrefl _)
  · exact absurd (hmono hst) (List.lt_asymm h)

end Columnar.Text
