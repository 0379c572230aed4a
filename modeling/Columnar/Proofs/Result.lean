import Columnar.ClientError
import Mathlib.Data.List.Perm.Basic

/-!
Lists of results.

A traversal of a list succeeds exactly if each item does, and then its answer is the list of the
answers (`mapM_eq_ok_iff`). Two lists that belong together item by item are related by
`List.Forall₂`; `exists_forall₂` chooses the second one. Results that differ at most in their errors
are related by `SameSuccess`, which sequences and traversals keep.
-/

namespace Columnar

variable {α β ε : Type}

@[simp] theorem ok_bind {γ : Type} (a : α) (f : α → Except ε γ) : (Except.ok a >>= f) = f a := rfl

@[simp] theorem error_bind {γ : Type} (e : ε) (f : α → Except ε γ) :
    ((Except.error e : Except ε α) >>= f) = .error e := rfl

@[simp] theorem map_ok (f : α → β) (a : α) : (Except.ok a : Except ε α).map f = .ok (f a) := rfl

@[simp] theorem orFail_some (a : α) (e : ClientError) : orFail (some a) e = .ok a := rfl

@[simp] theorem orFail_none (e : ClientError) : orFail (none : Option α) e = .error e := rfl

theorem orFail_eq_ok {value : Option α} {e : ClientError} {a : α} (h : orFail value e = .ok a) :
    value = some a := by
  cases value with
  | none => exact absurd h (by simp)
  | some b => exact congrArg some (Except.ok.inj h)

/-- A result whose answer is found is a success. -/
theorem ok_of_toOption {x : Except ε α} {a : α} (h : x.toOption = some a) : x = .ok a := by
  cases x with
  | error e => exact absurd h (by simp [Except.toOption])
  | ok b => exact congrArg Except.ok (Option.some.inj h)

/-- A sequence succeeds only if both of its parts do. -/
theorem bind_eq_ok {x : Except ε α} {f : α → Except ε β} {b : β} (h : (x >>= f) = .ok b) :
    ∃ a, x = .ok a ∧ f a = .ok b := by
  cases x with
  | error e => exact absurd h (by simp)
  | ok a => exact ⟨a, rfl, h⟩

/-- A mapped result is a success only if the result is one. -/
theorem map_eq_ok {x : Except ε α} {f : α → β} {b : β} (h : x.map f = .ok b) :
    ∃ a, x = .ok a ∧ f a = b := by
  cases x with
  | error e => exact absurd h (by simp [Except.map])
  | ok a => exact ⟨a, rfl, Except.ok.inj h⟩

/-- A sequence fails with its first part or, behind that, with its second. -/
theorem bind_eq_error {x : Except ε α} {f : α → Except ε β} {e : ε} (h : (x >>= f) = .error e) :
    x = .error e ∨ ∃ a, x = .ok a ∧ f a = .error e := by
  cases x with
  | error e' => exact .inl (congrArg Except.error (Except.error.inj h))
  | ok a => exact .inr ⟨a, rfl, h⟩

/-- A mapped result fails as the result does. -/
theorem map_eq_error {x : Except ε α} {f : α → β} {e : ε} (h : x.map f = .error e) :
    x = .error e := by
  cases x with
  | error e' => exact congrArg Except.error (Except.error.inj h)
  | ok a => exact absurd h (by simp)

/-- A traversal fails with the error of an item. -/
theorem mapM_eq_error {f : α → Except ε β} {e : ε} :
    ∀ {l : List α}, l.mapM f = .error e → ∃ a ∈ l, f a = .error e
  | [], h => absurd h (by rw [List.mapM_nil]; exact fun h => nomatch h)
  | a :: l, h => by
    rw [List.mapM_cons] at h
    rcases bind_eq_error h with ha | ⟨b, -, h⟩
    · exact ⟨a, List.mem_cons_self, ha⟩
    · rcases bind_eq_error h with hl | ⟨bs, -, h⟩
      · obtain ⟨x, hx, hfx⟩ := mapM_eq_error hl
        exact ⟨x, List.mem_cons_of_mem a hx, hfx⟩
      · exact nomatch h

/-- A traversal succeeds with the answers of the items, and with nothing else. -/
theorem mapM_eq_ok_iff {f : α → Except ε β} :
    ∀ {l : List α} {bs : List β}, l.mapM f = .ok bs ↔ List.Forall₂ (fun a b => f a = .ok b) l bs
  | [], bs => by
    rw [List.mapM_nil, List.forall₂_nil_left_iff]
    exact ⟨fun h => (Except.ok.inj h).symm, fun h => by rw [h]; rfl⟩
  | a :: l, bs => by
    rw [List.mapM_cons, List.forall₂_cons_left_iff]
    constructor
    · intro h
      obtain ⟨b, ha, h⟩ := bind_eq_ok h
      obtain ⟨rest, hl, h⟩ := bind_eq_ok h
      exact ⟨b, rest, ha, mapM_eq_ok_iff.1 hl, (Except.ok.inj h).symm⟩
    · rintro ⟨b, rest, ha, hl, rfl⟩
      rw [ha, mapM_eq_ok_iff.2 hl]
      rfl

/-- A traversal in another order has the same answers in that order. -/
theorem mapM_perm {f : α → Except ε β} {l l' : List α} {bs : List β} (h : l.Perm l')
    (hbs : l.mapM f = .ok bs) : ∃ bs', l'.mapM f = .ok bs' ∧ bs.Perm bs' := by
  obtain ⟨bs', hbs', hperm⟩ := List.perm_comp_forall₂ h.symm (mapM_eq_ok_iff.1 hbs)
  exact ⟨bs', mapM_eq_ok_iff.2 hbs', hperm.symm⟩

/-- Traversals of a list agree if they do on its items. -/
theorem mapM_congr {f g : α → Except ε β} :
    ∀ {l : List α}, (∀ a ∈ l, f a = g a) → l.mapM f = l.mapM g
  | [], _ => rfl
  | a :: l, h => by
    rw [List.mapM_cons, List.mapM_cons, h a List.mem_cons_self,
      mapM_congr fun x hx => h x (List.mem_cons_of_mem a hx)]

/-- What is made of each item and its answer can be made of all of them in the end. -/
theorem mapM_map_zipWith {γ : Type} (f : α → Except ε β) (g : α → β → γ) : ∀ l : List α,
    l.mapM (fun a => (f a).map (g a)) = (l.mapM f).map fun bs => List.zipWith g l bs
  | [] => rfl
  | a :: l => by
    rw [List.mapM_cons, List.mapM_cons, mapM_map_zipWith f g l]
    cases f a with
    | error e => rfl
    | ok b => cases l.mapM f <;> rfl

/-- Items that each have a partner have a list of partners. -/
theorem exists_forall₂ {R : α → β → Prop} :
    ∀ {l : List α}, (∀ a ∈ l, ∃ b, R a b) → ∃ bs, List.Forall₂ R l bs
  | [], _ => ⟨[], .nil⟩
  | a :: l, h => by
    obtain ⟨b, hb⟩ := h a List.mem_cons_self
    obtain ⟨bs, hbs⟩ := exists_forall₂ fun x hx => h x (List.mem_cons_of_mem a hx)
    exact ⟨b :: bs, .cons hb hbs⟩

/-- Each of the first items has a partner in the second list. -/
theorem exists_mem_of_forall₂ {R : α → β → Prop} {a : α} :
    ∀ {l : List α} {bs : List β}, List.Forall₂ R l bs → a ∈ l → ∃ b ∈ bs, R a b
  | _, _, .nil, h => absurd h List.not_mem_nil
  | _, _, .cons hab hrest, h => by
    rcases List.mem_cons.1 h with rfl | h
    · exact ⟨_, List.mem_cons_self, hab⟩
    · obtain ⟨b, hb, hR⟩ := exists_mem_of_forall₂ hrest h
      exact ⟨b, List.mem_cons_of_mem _ hb, hR⟩

/-- A traversal succeeds exactly if each item does. -/
theorem exists_mapM_eq_ok_iff {f : α → Except ε β} {l : List α} :
    (∃ bs, l.mapM f = .ok bs) ↔ ∀ a ∈ l, ∃ b, f a = .ok b := by
  constructor
  · rintro ⟨bs, hbs⟩ a ha
    obtain ⟨b, -, hb⟩ := exists_mem_of_forall₂ (mapM_eq_ok_iff.1 hbs) ha
    exact ⟨b, hb⟩
  · intro h
    obtain ⟨bs, hbs⟩ := exists_forall₂ h
    exact ⟨bs, mapM_eq_ok_iff.2 hbs⟩

/-- What the first items say about their partners holds for the whole list of partners. -/
theorem forall_mem_of_forall₂ {R : α → β → Prop} {P : β → Prop} (h : ∀ a b, R a b → P b) :
    ∀ {l : List α} {bs : List β}, List.Forall₂ R l bs → ∀ b ∈ bs, P b
  | _, _, .nil => by simp
  | _, _, .cons hab hrest => by
    intro b hb
    rcases List.mem_cons.1 hb with rfl | hb
    · exact h _ _ hab
    · exact forall_mem_of_forall₂ h hrest b hb

/-- A property of all items is one of all their partners, if it is for each pair. -/
theorem forall_mem_iff_of_forall₂ {R : α → β → Prop} {P : α → Prop} {Q : β → Prop}
    (h : ∀ a b, R a b → (P a ↔ Q b)) :
    ∀ {l : List α} {bs : List β}, List.Forall₂ R l bs → ((∀ a ∈ l, P a) ↔ ∀ b ∈ bs, Q b)
  | _, _, .nil => by simp
  | _, _, .cons hab hrest => by
    rw [List.forall_mem_cons, List.forall_mem_cons, h _ _ hab, forall_mem_iff_of_forall₂ h hrest]

/-- Lists are gathered from partners as from the items themselves. -/
theorem flatMap_eq_of_forall₂ {γ : Type} {R : α → β → Prop} {f : α → List γ} {g : β → List γ}
    (h : ∀ a b, R a b → g b = f a) :
    ∀ {l : List α} {bs : List β}, List.Forall₂ R l bs → bs.flatMap g = l.flatMap f
  | _, _, .nil => rfl
  | _, _, .cons hab hrest => by
    rw [List.flatMap_cons, List.flatMap_cons, h _ _ hab, flatMap_eq_of_forall₂ h hrest]

/-! ### Results with the same answer -/

/-- One result is a success exactly if the other is, and then with the same answer; what they say
when they fail may differ. -/
def SameSuccess (x y : Except ε α) : Prop :=
  ∀ a, x = .ok a ↔ y = .ok a

namespace SameSuccess

variable {x y : Except ε α}

theorem refl (x : Except ε α) : SameSuccess x x := fun _ => Iff.rfl

theorem error (e e' : ε) : SameSuccess (.error e : Except ε α) (.error e') :=
  fun _ => iff_of_false nofun nofun

theorem bind {f g : α → Except ε β} (h : SameSuccess x y) (hfg : ∀ a, SameSuccess (f a) (g a)) :
    SameSuccess (x >>= f) (y >>= g) := by
  intro b
  constructor
  · intro hb
    obtain ⟨a, ha, hb⟩ := bind_eq_ok hb
    rw [(h a).1 ha, ok_bind]
    exact (hfg a b).1 hb
  · intro hb
    obtain ⟨a, ha, hb⟩ := bind_eq_ok hb
    rw [(h a).2 ha, ok_bind]
    exact (hfg a b).2 hb

theorem map (h : SameSuccess x y) (f : α → β) : SameSuccess (x.map f) (y.map f) := by
  intro b
  constructor
  · intro hb
    obtain ⟨a, ha, rfl⟩ := map_eq_ok hb
    rw [(h a).1 ha, map_ok]
  · intro hb
    obtain ⟨a, ha, rfl⟩ := map_eq_ok hb
    rw [(h a).2 ha, map_ok]

/-- Traversals of a list have the same answer if each of its items does. -/
theorem mapM {f g : α → Except ε β} {l : List α} (h : ∀ a ∈ l, SameSuccess (f a) (g a)) :
    SameSuccess (l.mapM f) (l.mapM g) := by
  induction l with
  | nil => exact refl _
  | cons a l ih =>
    rw [List.mapM_cons, List.mapM_cons]
    refine (h a List.mem_cons_self).bind fun b => ?_
    exact (ih fun x hx => h x (List.mem_cons_of_mem a hx)).bind fun bs => refl _

end SameSuccess

end Columnar
