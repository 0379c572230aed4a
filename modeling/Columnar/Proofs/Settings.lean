import Columnar.Settings
import Mathlib.Data.String.Basic

/-!
The text of a name in settings.

A name has the text it was given last (`get?_set`) or none (`get?_unset`), and of layers on top of
each other that of the uppermost layer that has one (`get?_overlay`). Settings in ascending order
are equal if their names have the same texts (`Sorted.eq_of_get?`).
-/

namespace Columnar.Settings

theorem get?_cons (key name text : String) (s : Settings) :
    get? key ((name, text) :: s) = if key = name then some text else get? key s := by
  by_cases h : key = name
  · subst h
    simp [get?]
  · simp [get?, List.lookup_cons, beq_eq_false_iff_ne.2 h, h]

/-- A name has the text it was given last. -/
theorem get?_set (key name text : String) (s : Settings) :
    get? key (set name text s) = if key = name then some text else get? key s := by
  induction s with
  | nil => rw [set, get?_cons]
  | cons entry rest ih =>
    rcases entry with ⟨other, old⟩
    rw [set]
    split
    · rw [get?_cons]
    split
    · next heq =>
      subst heq
      rw [get?_cons, get?_cons]
      split <;> rfl
    · next hne =>
      rw [get?_cons, ih, get?_cons]
      by_cases hkey : key = other
      · subst hkey
        simp [Ne.symm hne]
      · simp [hkey]

/-- A name that is taken out has no text. -/
theorem get?_unset (key name : String) (s : Settings) :
    get? key (unset name s) = if key = name then none else get? key s := by
  induction s with
  | nil => simp [unset, get?]
  | cons entry rest ih =>
    rcases entry with ⟨other, text⟩
    rw [unset, List.filter_cons, ← unset]
    by_cases hother : other = name
    · subst hother
      rw [if_neg (by simp), ih, get?_cons]
      split <;> rfl
    · rw [if_pos (by simpa using hother), get?_cons, ih, get?_cons]
      by_cases hkey : key = name
      · simp [hkey, Ne.symm hother]
      · simp [hkey]

/-- No entry has the name. -/
def Lacks (s : Settings) (name : String) : Prop :=
  ∀ entry ∈ s, entry.1 ≠ name

theorem lacks_nil (name : String) : Lacks [] name := by
  simp [Lacks]

theorem lacks_cons_iff {other text name : String} {s : Settings} :
    Lacks ((other, text) :: s) name ↔ other ≠ name ∧ s.Lacks name := by
  simp [Lacks]

/-- Giving a name a text adds no other name. -/
theorem Lacks.set {s : Settings} {name other : String} (h : s.Lacks name) (hother : other ≠ name)
    (text : String) : (s.set other text).Lacks name := by
  induction s with
  | nil => exact lacks_cons_iff.2 ⟨hother, h⟩
  | cons entry rest ih =>
    rcases entry with ⟨first, old⟩
    have hcons := lacks_cons_iff.1 h
    rw [Settings.set]
    split
    · exact lacks_cons_iff.2 ⟨hother, h⟩
    split
    · exact lacks_cons_iff.2 ⟨hother, hcons.2⟩
    · exact lacks_cons_iff.2 ⟨hcons.1, ih hcons.2⟩

theorem Lacks.unset {s : Settings} {name : String} (h : s.Lacks name) (other : String) :
    (s.unset other).Lacks name :=
  fun entry hentry => h entry (List.mem_of_mem_filter hentry)

theorem overlay_append (lower upper upper' : Settings) :
    lower.overlay (upper ++ upper') = (lower.overlay upper).overlay upper' :=
  List.foldl_append

theorem get?_overlay_singleton (lower : Settings) (name text : String) :
    (lower.overlay [(name, text)]).get? name = some text := by
  have hset := get?_set name name text lower
  rwa [if_pos rfl] at hset

/-- A layer that lacks a name leaves its text. -/
theorem get?_overlay_of_lacks {name : String} {upper : Settings} (h : upper.Lacks name)
    (lower : Settings) : (lower.overlay upper).get? name = lower.get? name := by
  induction upper generalizing lower with
  | nil => rfl
  | cons entry upper ih =>
    rcases entry with ⟨other, text⟩
    rw [lacks_cons_iff] at h
    have hrest := ih h.2 (lower.set other text)
    rwa [get?_set, if_neg h.1.symm] at hrest

/-! ### Layers -/

theorem get?_append (key : String) (s t : Settings) :
    get? key (s ++ t) = (get? key s).or (get? key t) :=
  List.lookup_append

/-- A name has the last text that the upper layer gives it, or else that of the lower one. -/
theorem get?_overlay (key : String) (lower upper : Settings) :
    (lower.overlay upper).get? key = (get? key upper.reverse).or (lower.get? key) := by
  induction upper generalizing lower with
  | nil => rfl
  | cons entry upper ih =>
    rcases entry with ⟨name, text⟩
    have hrest : (lower.overlay ((name, text) :: upper)).get? key = _ := ih (lower.set name text)
    rw [hrest, get?_set, List.reverse_cons, get?_append, Option.or_assoc, get?_cons]
    by_cases hkey : key = name
    · simp [hkey]
    · simp [hkey, get?]

theorem mem_of_get? {key text : String} {s : Settings} (h : s.get? key = some text) :
    (key, text) ∈ s := by
  induction s with
  | nil => exact absurd h (by simp [get?])
  | cons entry s ih =>
    rcases entry with ⟨name, other⟩
    rw [get?_cons] at h
    split at h
    · next hkey =>
      obtain rfl := Option.some.inj h
      rw [hkey]
      exact List.mem_cons_self
    · exact List.mem_cons_of_mem _ (ih h)

theorem isSome_get? {key : String} {s : Settings} :
    (s.get? key).isSome = true ↔ ∃ entry ∈ s, entry.1 = key := by
  induction s with
  | nil => simp [get?]
  | cons entry s ih =>
    rcases entry with ⟨name, text⟩
    rw [get?_cons]
    by_cases hkey : key = name
    · simp [hkey]
    · simp [hkey, ih, Ne.symm hkey]

/-! ### Order -/

/-- The names are in ascending order. -/
def Sorted (s : Settings) : Prop :=
  s.Pairwise fun entry other => entry.1 < other.1

theorem sorted_nil : Sorted [] :=
  .nil

theorem mem_set {name text : String} {entry : String × String} {s : Settings}
    (h : entry ∈ s.set name text) : entry = (name, text) ∨ entry ∈ s := by
  induction s with
  | nil => simpa [set] using h
  | cons first rest ih =>
    rcases first with ⟨other, old⟩
    rw [set] at h
    split at h
    · simpa using h
    split at h
    · rcases List.mem_cons.1 h with h | h
      · exact .inl h
      · exact .inr (List.mem_cons_of_mem _ h)
    · rcases List.mem_cons.1 h with h | h
      · exact .inr (List.mem_cons.2 (.inl h))
      · exact (ih h).imp_right (List.mem_cons_of_mem _)

/-- Giving a name a text keeps the order. -/
theorem Sorted.set {s : Settings} (h : s.Sorted) (name text : String) :
    (s.set name text).Sorted := by
  induction s with
  | nil => exact List.pairwise_singleton _ _
  | cons entry rest ih =>
    rcases entry with ⟨other, old⟩
    obtain ⟨hfirst, hrest⟩ := List.pairwise_cons.1 h
    rw [Settings.set]
    split
    · next hlt =>
      refine List.pairwise_cons.2 ⟨fun entry hentry => ?_, h⟩
      rcases List.mem_cons.1 hentry with rfl | hentry
      · exact hlt
      · exact lt_trans hlt (hfirst entry hentry)
    split
    · next heq => exact List.pairwise_cons.2 ⟨fun entry hentry => heq ▸ hfirst entry hentry, hrest⟩
    · next hlt hne =>
      refine List.pairwise_cons.2 ⟨fun entry hentry => ?_, ih hrest⟩
      rcases mem_set hentry with rfl | hentry
      · exact lt_of_le_of_ne (not_lt.1 hlt) (Ne.symm hne)
      · exact hfirst entry hentry

theorem Sorted.unset {s : Settings} (h : s.Sorted) (name : String) : (s.unset name).Sorted :=
  List.Pairwise.filter _ h

theorem Sorted.overlay {lower : Settings} (h : lower.Sorted) (upper : Settings) :
    (lower.overlay upper).Sorted := by
  induction upper generalizing lower with
  | nil => exact h
  | cons entry upper ih => exact ih (h.set entry.1 entry.2)

theorem sorted_ofList (entries : List (String × String)) : (ofList entries).Sorted :=
  sorted_nil.overlay entries

/-- The name in front of sorted settings is none of the others. -/
theorem Sorted.get?_eq_none {name text key : String} {s : Settings}
    (h : Sorted ((name, text) :: s)) (hkey : key ≤ name) : s.get? key = none := by
  rw [← Option.not_isSome_iff_eq_none, isSome_get?]
  rintro ⟨entry, hentry, rfl⟩
  exact absurd ((List.pairwise_cons.1 h).1 entry hentry) (not_lt.2 hkey)

/-- Of sorted settings, each entry is the one of its name. -/
theorem Sorted.mem_iff {s : Settings} (h : s.Sorted) {name text : String} :
    (name, text) ∈ s ↔ s.get? name = some text := by
  refine ⟨fun hmem => ?_, mem_of_get?⟩
  induction s with
  | nil => exact absurd hmem List.not_mem_nil
  | cons entry s ih =>
    rcases entry with ⟨first, other⟩
    obtain ⟨hfirst, hrest⟩ := List.pairwise_cons.1 h
    rw [get?_cons]
    rcases List.mem_cons.1 hmem with heq | hmem
    · obtain ⟨rfl, rfl⟩ := Prod.mk.inj heq
      exact if_pos rfl
    · rw [if_neg (hfirst _ hmem).ne', ih hrest hmem]

/-- In sorted settings a name is found from both ends alike. -/
theorem Sorted.get?_reverse {s : Settings} (h : s.Sorted) (key : String) :
    get? key s.reverse = s.get? key := by
  cases hkey : get? key s.reverse with
  | some text => exact (h.mem_iff.1 (List.mem_reverse.1 (mem_of_get? hkey))).symm
  | none =>
    have hlacks : ¬ ∃ entry ∈ s.reverse, entry.1 = key := by
      rw [← isSome_get?, hkey]
      exact Bool.false_ne_true
    rw [eq_comm, ← Option.not_isSome_iff_eq_none, isSome_get?]
    simpa only [List.mem_reverse] using hlacks

/-- Settings in order are equal if their names have the same texts. -/
theorem Sorted.eq_of_get? {s t : Settings} (hs : s.Sorted) (ht : t.Sorted)
    (h : ∀ key, s.get? key = t.get? key) : s = t := by
  induction s generalizing t with
  | nil =>
    cases t with
    | nil => rfl
    | cons entry t =>
      have hfirst := h entry.1
      rw [get?_cons, if_pos rfl] at hfirst
      exact absurd hfirst (by simp [get?])
  | cons entry s ih =>
    rcases entry with ⟨name, text⟩
    cases t with
    | nil =>
      have hfirst := h name
      rw [get?_cons, if_pos rfl] at hfirst
      exact absurd hfirst (by simp [get?])
    | cons other t =>
      rcases other with ⟨name', text'⟩
      -- The lesser of the two first names would have a text in one of the settings only.
      rcases lt_trichotomy name name' with hlt | rfl | hlt
      · have hfirst := h name
        rw [get?_cons, if_pos rfl, get?_cons, if_neg hlt.ne, ht.get?_eq_none hlt.le] at hfirst
        exact absurd hfirst (by simp)
      · have hfirst := h name
        rw [get?_cons, if_pos rfl, get?_cons, if_pos rfl] at hfirst
        obtain rfl := Option.some.inj hfirst
        refine congrArg _ (ih (List.pairwise_cons.1 hs).2 (List.pairwise_cons.1 ht).2 fun key => ?_)
        by_cases hkey : key = name
        · rw [hkey, hs.get?_eq_none le_rfl, ht.get?_eq_none le_rfl]
        · have hrest := h key
          rwa [get?_cons, if_neg hkey, get?_cons, if_neg hkey] at hrest
      · have hfirst := h name'
        rw [get?_cons, if_neg hlt.ne, hs.get?_eq_none hlt.le, get?_cons, if_pos rfl] at hfirst
        exact absurd hfirst (by simp)

end Columnar.Settings
