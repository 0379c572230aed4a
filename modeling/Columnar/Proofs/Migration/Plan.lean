import Columnar.Migration.Run
import Columnar.Proofs.Text.Numeral
import Columnar.Proofs.Text.Utf8
import Mathlib.Data.List.Duplicate

/-!
Which migrations a run takes, and in which order.

The pending migrations of a package are sorted by the bytes of their names, and since no two have
one name, their order does not depend on the order of registration. The plan of a run is the
shortest prefix that ends in a migration that reaches the bound, or all of them; the number that
reaches it stands in front of the name (`Migration.number?_eq_some_iff`).
-/

namespace Columnar

variable {p other : Package} {applied : List String} {bound : Nat} {pending plan : List Migration}

/-! ### Pending migrations -/

theorem firstRepeated?_eq_none : ∀ {names seen : List String}, names.Nodup →
    (∀ name ∈ names, name ∉ seen) → Package.firstRepeated? seen names = none
  | [], _, _, _ => rfl
  | name :: names, seen, hnodup, hseen => by
    obtain ⟨hname, hnames⟩ := List.nodup_cons.1 hnodup
    rw [Package.firstRepeated?, if_neg]
    · refine firstRepeated?_eq_none hnames fun x hx hmem => ?_
      rcases List.mem_cons.1 hmem with rfl | hmem
      · exact hname hx
      · exact hseen x (List.mem_cons_of_mem name hx) hmem
    · rw [List.contains_iff_mem]
      exact hseen name List.mem_cons_self

/-- A package whose migrations have different names is accepted. -/
theorem checkNames_eq_ok (h : (p.migrations.map Migration.name).Nodup) : p.checkNames = .ok () := by
  rw [Package.checkNames, firstRepeated?_eq_none h (by simp)]

theorem nodup_of_firstRepeated? : ∀ {names seen : List String},
    Package.firstRepeated? seen names = none → names.Nodup ∧ ∀ name ∈ names, name ∉ seen
  | [], _, _ => by simp
  | name :: names, seen, h => by
    rw [Package.firstRepeated?] at h
    split at h
    · exact absurd h (by simp)
    next hseen =>
    obtain ⟨hnodup, hnames⟩ := nodup_of_firstRepeated? h
    rw [List.contains_iff_mem] at hseen
    refine ⟨List.nodup_cons.2 ⟨fun hmem => hnames name hmem List.mem_cons_self, hnodup⟩, ?_⟩
    rintro x hx hmem
    rcases List.mem_cons.1 hx with rfl | hx
    · exact hseen hmem
    · exact hnames x hx (List.mem_cons_of_mem name hmem)

/-- Only a package whose migrations have different names is accepted. -/
theorem nodup_of_checkNames (h : p.checkNames = .ok ()) :
    (p.migrations.map Migration.name).Nodup := by
  rw [Package.checkNames] at h
  split at h
  · exact absurd h (by simp)
  · next hnone => exact (nodup_of_firstRepeated? hnone).1

theorem mem_of_firstRepeated? {name : String} : ∀ {names seen : List String},
    Package.firstRepeated? seen names = some name →
      name ∈ names ∧ (name ∈ seen ∨ names.Duplicate name)
  | [], _, h => absurd h (by simp [Package.firstRepeated?])
  | first :: names, seen, h => by
    rw [Package.firstRepeated?] at h
    split at h
    · next hseen =>
      obtain rfl := Option.some.inj h
      exact ⟨List.mem_cons_self, .inl (List.contains_iff_mem.1 hseen)⟩
    · obtain ⟨hname, hseen | htwice⟩ := mem_of_firstRepeated? h
      · refine ⟨List.mem_cons_of_mem first hname, ?_⟩
        rcases List.mem_cons.1 hseen with rfl | hseen
        · exact .inr (.cons_mem hname)
        · exact .inl hseen
      · exact ⟨List.mem_cons_of_mem first hname, .inr (.cons_duplicate htwice)⟩

/-- A package with a repeated name is refused with such a name. -/
theorem exists_checkNames_eq_error (h : ¬ (p.migrations.map Migration.name).Nodup) :
    ∃ name, (p.migrations.map Migration.name).Duplicate name ∧
      p.checkNames = .error (.config (.repeatedMigration name p.name)) := by
  rw [Package.checkNames]
  cases hfirst : Package.firstRepeated? [] (p.migrations.map Migration.name) with
  | none => exact absurd (nodup_of_firstRepeated? hfirst).1 h
  | some name =>
    obtain ⟨-, hseen | htwice⟩ := mem_of_firstRepeated? hfirst
    · exact absurd hseen List.not_mem_nil
    · exact ⟨name, htwice, rfl⟩

/-- The pending migrations are those that are not applied, in some order. -/
theorem pending_perm (p : Package) (applied : List String) :
    (p.pending applied).Perm (p.migrations.filter fun m => m.name ∉ applied) := by
  have hfilter : (p.migrations.filter fun m => !applied.contains m.name)
      = p.migrations.filter fun m => m.name ∉ applied :=
    List.filter_congr fun m _ => by simp
  rw [Package.pending, hfilter]
  exact List.mergeSort_perm _ _

/-- Migrations come one after another in the order of the bytes of their names. -/
def Before (a b : Migration) : Prop :=
  Text.encodeUtf8 a.name < Text.encodeUtf8 b.name

theorem before_iff {a b : Migration} : Before a b ↔ a.name < b.name :=
  Text.encodeUtf8_lt_iff

/-- There is one order of migrations, if no two have one name. -/
theorem eq_of_perm_of_before {front rest : List Migration} (hperm : front.Perm rest)
    (hfront : front.Pairwise Before) (hrest : rest.Pairwise Before) : front = rest :=
  hperm.eq_of_pairwise (fun _ _ _ _ hab hba => absurd hba (List.lt_asymm hab)) hfront hrest

/-- The pending migrations are sorted, and no two have one name. -/
theorem pending_pairwise (h : (p.migrations.map Migration.name).Nodup) (applied : List String) :
    (p.pending applied).Pairwise Before := by
  have hsorted : (p.pending applied).Pairwise fun a b => decide (a.name ≤ b.name) = true :=
    List.pairwise_mergeSort (fun a b c hab hbc => by
        simp only [decide_eq_true_eq] at hab hbc ⊢
        exact le_trans hab hbc)
      (fun a b => by
        simp only [Bool.or_eq_true, decide_eq_true_eq]
        exact le_total a.name b.name) _
  have hnames : (p.pending applied).Pairwise fun a b => a.name ≠ b.name := by
    rw [← List.pairwise_map (f := Migration.name) (R := (· ≠ ·))]
    have hfilter := (List.filter_sublist (p := fun m : Migration => decide (m.name ∉ applied))
      (l := p.migrations)).map Migration.name
    exact ((pending_perm p applied).map Migration.name).nodup_iff.2 (h.sublist hfilter)
  refine (hsorted.and hnames).imp fun hab => ?_
  simp only [decide_eq_true_eq] at hab
  exact before_iff.2 (lt_of_le_of_ne hab.1 hab.2)

/-- Where more has been applied, what is still pending keeps its order. -/
theorem pending_eq_filter (h : (p.migrations.map Migration.name).Nodup) {later : List String}
    (hsubset : applied ⊆ later) :
    p.pending later = (p.pending applied).filter fun m => m.name ∉ later := by
  have hfilter : ((p.migrations.filter fun m => m.name ∉ applied).filter fun m => m.name ∉ later)
      = p.migrations.filter fun m => m.name ∉ later := by
    rw [List.filter_filter]
    refine List.filter_congr fun m _ => ?_
    by_cases hm : m.name ∈ later
    · simp [hm]
    · have happlied : m.name ∉ applied := fun hmem => hm (hsubset hmem)
      simp [hm, happlied]
  have hperm : (p.pending later).Perm ((p.pending applied).filter fun m => m.name ∉ later) :=
    (pending_perm p later).trans (hfilter ▸ ((pending_perm p applied).filter _).symm)
  exact eq_of_perm_of_before hperm (pending_pairwise h later)
    ((pending_pairwise h applied).filter _)

/-- Packages with the same migrations have the same pending ones, in the same order. -/
theorem pending_eq_of_perm (h : (p.migrations.map Migration.name).Nodup)
    (hperm : other.migrations.Perm p.migrations) (applied : List String) :
    other.pending applied = p.pending applied := by
  have hother : (other.migrations.map Migration.name).Nodup :=
    (hperm.map Migration.name).nodup_iff.2 h
  have hpending : (other.pending applied).Perm (p.pending applied) :=
    (pending_perm other applied).trans ((hperm.filter _).trans (pending_perm p applied).symm)
  exact eq_of_perm_of_before hpending (pending_pairwise hother applied) (pending_pairwise h applied)

/-! ### Numbers of migrations -/

/-- The digits that a name begins with: all of them, or the first four. -/
theorem takeWhile_take_four_iff {name digits : List Char} :
    (name.take 4).takeWhile Char.isDigit = digits ↔
      ∃ rest, name = digits ++ rest ∧ digits.length ≤ 4 ∧ (∀ c ∈ digits, c.isDigit = true) ∧
        (digits.length = 4 ∨ ∀ c, rest.head? = some c → c.isDigit = false) := by
  constructor
  · rintro rfl
    obtain ⟨run, left, hname, hrun, hleft⟩ := Text.exists_span Char.isDigit (name.take 4)
    have hlength : run.length ≤ 4 := by
      have htake := List.length_take_le 4 name
      rw [hname, List.length_append] at htake
      omega
    rw [hname, (Text.span_append hrun hleft).1]
    refine ⟨left ++ name.drop 4, ?_, hlength, hrun, ?_⟩
    · rw [← List.append_assoc, ← hname, List.take_append_drop]
    · cases left with
      | cons c left => exact .inr fun d hd => hleft d hd
      | nil =>
        rw [List.append_nil] at hname
        by_cases hfour : run.length = 4
        · exact .inl hfour
        · have hshort : name.length ≤ 4 := by
            have htake := congrArg List.length hname
            rw [List.length_take] at htake
            omega
          refine .inr fun c hc => ?_
          rw [List.nil_append, List.drop_eq_nil_of_le hshort] at hc
          exact absurd hc (by simp)
  · rintro ⟨rest, rfl, hlength, hdigits, hend⟩
    rw [List.take_append, List.take_of_length_le hlength]
    refine (Text.span_append hdigits fun c hc => ?_).1
    rcases hend with hfour | hrest
    · rw [hfour] at hc
      exact absurd hc (by simp)
    · rw [List.head?_take] at hc
      split at hc
      · exact absurd hc (by simp)
      · exact hrest c hc

/-- The number of a migration is that of the digits its name begins with, of which there is at least
one, and the first four count. -/
theorem Migration.number?_eq_some_iff {m : Migration} {n : Nat} : m.number? = some n ↔
    ∃ digits rest, m.name.toList = digits ++ rest ∧ digits ≠ [] ∧ digits.length ≤ 4 ∧
      (∀ c ∈ digits, c.isDigit = true) ∧ Text.digitsValue digits = n ∧
      (digits.length = 4 ∨ ∀ c, rest.head? = some c → c.isDigit = false) := by
  rw [number?, Text.readDigits?_eq_some_iff]
  constructor
  · rintro ⟨hne, hall, hvalue⟩
    obtain ⟨rest, hname, hlength, -, hend⟩ := takeWhile_take_four_iff.1 rfl
    exact ⟨_, rest, hname, hne, hlength, hall, hvalue, hend⟩
  · rintro ⟨digits, rest, hname, hne, hlength, hall, hvalue, hend⟩
    rw [takeWhile_take_four_iff.2 ⟨rest, hname, hlength, hall, hend⟩]
    exact ⟨hne, hall, hvalue⟩

/-! ### The plan -/

/-- The prefixes of the pending migrations that end in one that reaches the bound. -/
structure Stops (bound : Nat) (pending front : List Migration) : Prop where
  isPrefix : front <+: pending
  reaches : ∃ m, front.getLast? = some m ∧ m.reaches bound = true

/-- The shortest prefix that ends in a migration that reaches the bound, or else all of them. -/
def IsPlan (bound : Nat) (pending plan : List Migration) : Prop :=
  (Stops bound pending plan ∧ ∀ front, Stops bound pending front → plan.length ≤ front.length) ∨
    plan = pending ∧ ∀ front, ¬ Stops bound pending front

theorem IsPlan.isPrefix (h : IsPlan bound pending plan) : plan <+: pending := by
  rcases h with ⟨hstops, -⟩ | ⟨rfl, -⟩
  · exact hstops.isPrefix
  · exact List.prefix_refl plan

/-- The migrations that a run takes from a list. -/
def upTo (bound : Nat) : List Migration → List Migration
  | [] => []
  | m :: rest => if m.reaches bound then [m] else m :: upTo bound rest

theorem not_stops_nil (front : List Migration) : ¬ Stops bound [] front := by
  rintro ⟨hpre, m, hlast, -⟩
  rw [List.prefix_nil.1 hpre] at hlast
  exact absurd hlast (by simp)

/-- Behind a migration that does not reach the bound, a prefix stops where the rest of it does. -/
theorem stops_cons_iff {m : Migration} {rest front : List Migration}
    (hm : m.reaches bound = false) :
    Stops bound (m :: rest) front ↔ ∃ tail, front = m :: tail ∧ Stops bound rest tail := by
  constructor
  · rintro ⟨hpre, last, hlast, hreaches⟩
    rcases List.prefix_cons_iff.1 hpre with rfl | ⟨tail, rfl, htail⟩
    · exact absurd hlast (by simp)
    · refine ⟨tail, rfl, htail, last, ?_, hreaches⟩
      cases tail with
      | nil =>
        obtain rfl : m = last := by simpa using hlast
        rw [hm] at hreaches
        exact absurd hreaches (by simp)
      | cons x tail => rwa [List.getLast?_cons_cons] at hlast
  · rintro ⟨tail, rfl, htail, last, hlast, hreaches⟩
    refine ⟨List.cons_prefix_cons.2 ⟨rfl, htail⟩, last, ?_, hreaches⟩
    cases tail with
    | nil => exact absurd hlast (by simp)
    | cons x tail => rwa [List.getLast?_cons_cons]

theorem isPlan_upTo (bound : Nat) : ∀ pending, IsPlan bound pending (upTo bound pending)
  | [] => .inr ⟨rfl, not_stops_nil⟩
  | m :: rest => by
    rw [upTo]
    cases hm : m.reaches bound with
    | true =>
      rw [if_pos rfl]
      refine .inl ⟨⟨⟨rest, rfl⟩, m, rfl, hm⟩, fun front hfront => ?_⟩
      obtain ⟨last, hlast, -⟩ := hfront.reaches
      cases front with
      | nil => exact absurd hlast (by simp)
      | cons x front => simp
    | false =>
      rw [if_neg Bool.false_ne_true]
      rcases isPlan_upTo bound rest with ⟨hstops, hleast⟩ | ⟨heq, hnone⟩
      · refine .inl ⟨(stops_cons_iff hm).2 ⟨_, rfl, hstops⟩, fun front hfront => ?_⟩
        obtain ⟨tail, rfl, htail⟩ := (stops_cons_iff hm).1 hfront
        simpa using hleast tail htail
      · refine .inr ⟨by rw [heq], fun front hfront => ?_⟩
        obtain ⟨tail, -, htail⟩ := (stops_cons_iff hm).1 hfront
        exact hnone tail htail

/-- No list of pending migrations has two plans. -/
theorem IsPlan.eq_upTo (h : IsPlan bound pending plan) : plan = upTo bound pending := by
  rcases h, isPlan_upTo bound pending with ⟨⟨hstops, hleast⟩ | ⟨rfl, hnone⟩,
    ⟨hstops', hleast'⟩ | ⟨heq, hnone'⟩⟩
  · have hlength := Nat.le_antisymm (hleast _ hstops') (hleast' _ hstops)
    exact (List.prefix_of_prefix_length_le hstops.isPrefix hstops'.isPrefix hlength.le).eq_of_length
      hlength
  · exact absurd hstops (hnone' plan)
  · exact absurd hstops' (hnone _)
  · exact heq.symm

end Columnar
