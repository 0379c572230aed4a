import Columnar.Proofs.Client.Page
import Columnar.Proofs.Condition.Writing
import Columnar.Proofs.Migration.Plan

/-!
Calls that are refused before anything is sent.

The checks of a call stand in front of its probe: a call that is refused by one of them leaves the
client as it is, whatever is known about the connection and whatever the server would answer
(`refuses_misuse`).
-/

namespace Columnar.Action

variable {α β : Type} {schema : Schema} {condition : Condition} {e : ClientError}

/-- The action fails with the error, sends nothing and leaves the connection as it is, on every
client and for every server. -/
def Refuses (action : Action α) (e : ClientError) : Prop :=
  ∀ transport client, action.run transport client = (.error e, client)

theorem refuses_ofResult_bind {r : Result α} (h : r = .error e) (next : α → Action β) :
    Refuses (ofResult r >>= next) e :=
  fun _ _ => run_ofResult_bind h next

/-! ### Tables -/

theorem refuses_createTable (h : schema.creatable = .error e) : Refuses (createTable schema) e :=
  refuses_ofResult_bind h _

theorem refuses_dropTable (h : schema.droppable = .error e) : Refuses (dropTable schema) e := by
  intro transport client
  have hstatement : schema.dropStatement client.connection.config.database = .error e := by
    rw [Schema.dropStatement, h]
    rfl
  rw [dropTable, run_bind_ok run_connection, run_ofResult_bind hstatement]

theorem refuses_alterTable (h : schema.droppable = .error e) : Refuses (alterTable schema) e :=
  refuses_ofResult_bind h _

/-! ### Rows -/

theorem refuses_insertWith {first : Row} {others : List Row} {size : Nat} {options : Options}
    (h : size = 0 ∨ first.schema.isReadOnly = true ∨ first.schema.isSystem = true) :
    Refuses (insertWith (first :: others) size options)
      (if size = 0 then .config .emptyBatch else .validation .insertProtected) := by
  intro transport client
  by_cases hsize : size = 0
  · rw [insertWith, dif_pos hsize, if_pos hsize]
    rfl
  · have hprotected : (first.schema.isReadOnly || first.schema.isSystem) = true := by
      rw [Bool.or_eq_true]
      exact h.resolve_left hsize
    rw [insertWith, dif_neg hsize, if_neg hsize]
    simp only [hprotected, if_true]
    rfl

theorem refuses_count {restriction : Option Condition}
    (h : Condition.whereClause schema restriction = .error e) :
    Refuses (count schema restriction) e :=
  refuses_ofResult_bind h _

theorem exists_whereClause_eq_error (h : ∃ name ∈ condition.fields, schema.field? name = none) :
    ∃ name ∈ condition.fields, schema.field? name = none ∧
      Condition.whereClause schema (some condition)
        = .error (.validation (.noField schema.table name)) := by
  obtain ⟨name, hname, hnone⟩ := h
  cases hmissing : Condition.missing? schema condition.fields with
  | none =>
    have hsome := Condition.missing?_eq_none_iff.1 hmissing name hname
    rw [hnone] at hsome
    exact absurd hsome (by simp)
  | some first =>
    obtain ⟨hmem, hfirst⟩ := Condition.of_missing?_eq_some hmissing
    refine ⟨first, hmem, hfirst, ?_⟩
    rw [Condition.whereClause, Condition.sql_eq, Condition.unlessMissing, hmissing]
    rfl

/-! ### The calls -/

/-- The calls that are refused before anything is sent, and with which error. -/
theorem refuses_misuse [Clocks] :
    (∀ (first : Row) (others : List Row) (size : Nat) (options : Options),
      size = 0 ∨ first.schema.isReadOnly = true ∨ first.schema.isSystem = true →
      Refuses (insertWith (first :: others) size options)
        (if size = 0 then .config .emptyBatch else .validation .insertProtected)) ∧
    (∀ schema : Schema, schema.isSystem = true ∨ schema.engine = none →
      Refuses (createTable schema)
        (if schema.isSystem then .validation .createSystem else .config (.noEngine schema.table))) ∧
    (∀ schema : Schema, schema.isSystem = true →
      Refuses (dropTable schema) (.validation .dropSystem) ∧
        Refuses (alterTable schema) (.validation .dropSystem)) ∧
    (∀ (schema : Schema) (condition : Condition),
      (∃ name ∈ condition.fields, schema.field? name = none) →
      ∃ name ∈ condition.fields, schema.field? name = none ∧
        Refuses (count schema (some condition)) (.validation (.noField schema.table name)) ∧
        ∀ (orderBy : String) (number : Int) (size : Nat) (options : Options),
          size ≠ 0 → 1 ≤ number ∨ number = -1 →
          Refuses (paginate schema orderBy number size (some condition) options)
            (.validation (.noField schema.table name))) ∧
    (∀ (schema : Schema) (orderBy : String) (number : Int) (size : Nat)
      (condition : Option Condition) (options : Options), size = 0 ∨ number < 1 ∧ number ≠ -1 →
      Refuses (paginate schema orderBy number size condition options)
        (.config (if size = 0 then .emptyPage else .pageNumber number))) ∧
    (∀ (package : Package) (today : Calendar.Date) (bound : Nat),
      ¬ (package.migrations.map Migration.name).Nodup →
      ∃ name, (package.migrations.map Migration.name).Duplicate name ∧
        Refuses (migrate package today bound)
          (.config (.repeatedMigration name package.name))) := by
  refine ⟨fun first others size options => refuses_insertWith, ?_, ?_, ?_, ?_, ?_⟩
  · intro schema h
    refine refuses_createTable ?_
    rw [Schema.creatable]
    split
    · rfl
    · next hsystem => rw [h.resolve_left hsystem, orFail_none]
  · intro schema h
    have hdroppable : schema.droppable = .error (.validation .dropSystem) := if_pos h
    exact ⟨refuses_dropTable hdroppable, refuses_alterTable hdroppable⟩
  · intro schema condition h
    obtain ⟨name, hname, hnone, hclause⟩ := exists_whereClause_eq_error h
    refine ⟨name, hname, hnone, refuses_count hclause, ?_⟩
    intro orderBy number size options hsize hnumber transport client
    refine run_paginate_refused ?_
    rw [Page.check_eq_ok hsize hnumber, ok_bind, hclause]
  · intro schema orderBy number size condition options h transport client
    refine run_paginate_refused ?_
    rw [Page.check_eq_error h, error_bind]
  · intro package today bound h
    obtain ⟨name, htwice, hcheck⟩ := exists_checkNames_eq_error h
    exact ⟨name, htwice, refuses_ofResult_bind hcheck _⟩

/-- Misuse of the table of migrations. -/
theorem refuses_misuse_history :
    Refuses (insertWith [HistoryRecord.row ⟨"app", "0001", ⟨2024, 5, 17, by decide⟩⟩] 0 {})
      (.config .emptyBatch) ∧
    Refuses (insertWith [⟨HistoryRecord.schema.asSystem, []⟩] 10 {})
      (.validation .insertProtected) ∧
    Refuses (createTable HistoryRecord.schema.asSystem) (.validation .createSystem) ∧
    Refuses (createTable { table := "log" }) (.config (.noEngine "log")) ∧
    Refuses (dropTable HistoryRecord.schema.asSystem) (.validation .dropSystem) ∧
    Refuses (alterTable HistoryRecord.schema.asSystem) (.validation .dropSystem) ∧
    (∃ name ∈ ["applied", "day"], HistoryRecord.schema.field? name = none ∧
      Refuses (count HistoryRecord.schema
          (some (.all [.compare "applied" .ne .null, .compare "day" .eq .null])))
        (.validation (.noField HistoryRecord.schema.table name))) ∧
    Refuses (paginate HistoryRecord.schema "applied" 0 10 none {}) (.config (.pageNumber 0)) ∧
    ∃ name, ["0001", "0001"].Duplicate name ∧
      Refuses (migrate ⟨"app", [{ name := "0001" }, { name := "0001" }]⟩
          ⟨2024, 5, 17, by decide⟩ lastMigration)
        (.config (.repeatedMigration name "app")) := by
  obtain ⟨hinsert, hcreate, hsystem, hcondition, hpage, hnames⟩ := refuses_misuse
  obtain ⟨hdrop, halter⟩ := hsystem HistoryRecord.schema.asSystem rfl
  obtain ⟨name, hname, hnone, hcount, -⟩ := hcondition HistoryRecord.schema
    (.all [.compare "applied" .ne .null, .compare "day" .eq .null]) ⟨"day", by decide, by rfl⟩
  exact ⟨hinsert _ [] 0 {} (.inl rfl), hinsert _ [] 10 {} (.inr (.inl rfl)), hcreate _ (.inl rfl),
    hcreate { table := "log" } (.inr rfl), hdrop, halter, ⟨name, hname, hnone, hcount⟩,
    hpage _ "applied" 0 10 none {} (.inr (by decide)),
    hnames ⟨"app", [{ name := "0001" }, { name := "0001" }]⟩ _ lastMigration (by decide)⟩

end Columnar.Action
