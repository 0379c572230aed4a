import Columnar.Proofs.Migration.History
import Columnar.Proofs.Migration.Plan

/-!
What a run of migrations does, under any failure.

A run takes the steps of its plan one after another: the operations of a migration in their order,
and then the record of it. It ends behind the last step, or at the first one that fails; by then the
migrations that it has finished are recorded, and no other (`Outcome`). The outcome and what the
client did up to it are the same however the migrations were registered (`run_migrate_eq_iff`).
-/

namespace Columnar

open Columnar.Action (shopClient silentServer)

/-! ### Steps -/

/-- The steps of a run: the operations of migrations and the records of those applied. -/
inductive RunStep where
  | operation (m : Migration) (o : Operation)
  | record (m : Migration)

/-- The steps for a migration. -/
def Migration.steps (m : Migration) : List RunStep :=
  m.operations.map (.operation m) ++ [.record m]

/-- The names of the migrations that steps record. -/
def recordedNames (steps : List RunStep) : List String :=
  steps.filterMap fun
    | .operation .. => none
    | .record m => some m.name

variable {package : String} {today : Calendar.Date} {transport : Transport} {start : Client}

/-- What a step does in a run for a package. -/
def RunStep.action (package : String) (today : Calendar.Date) : RunStep → Action Unit
  | operation _ o => o.apply
  | record m => Action.insertHistory [⟨package, m.name, today⟩]

/-- The error of a run whose step fails; that of an operation names the migration. -/
def RunStep.failure (e : ClientError) : RunStep → ClientError
  | operation m _ => .migration m.name e
  | record _ => e

/-- Takes steps one after another. -/
def takeSteps (package : String) (today : Calendar.Date) (steps : List RunStep) : Action Unit :=
  steps.forM (RunStep.action package today)

/-- Steps that succeed one after another, and the names that they record. -/
structure Taken (package : String) (today : Calendar.Date) (transport : Transport)
    (start : Client) (steps : List RunStep) (recorded : List String) (after : Client) : Prop where
  succeed : (takeSteps package today steps).run transport start = (.ok (), after)
  records : recordedNames steps = recorded

/-- The ways in which a run of a plan ends: its result, and the client after it. -/
inductive Outcome (package : String) (today : Calendar.Date) (transport : Transport)
    (plan : List Migration) (start : Client) : Result (List String) × Client → Prop
  /-- All steps succeed; the names recorded are those of the plan, and the result. -/
  | finished {after : Client}
      (htaken : Taken package today transport start (plan.flatMap Migration.steps)
        (plan.map Migration.name) after) :
      Outcome package today transport plan start (.ok (plan.map Migration.name), after)
  /-- An operation fails behind the operations in front of it; the migrations in front of its own
  have been recorded, and no other. -/
  | operationFailed {done later : List Migration} {m : Migration} {front rest : List Operation}
      {o : Operation} {between after : Client} {e : ClientError}
      (hplan : plan = done ++ m :: later) (hoperations : m.operations = front ++ o :: rest)
      (htaken : Taken package today transport start
        (done.flatMap Migration.steps ++ front.map (.operation m)) (done.map Migration.name)
        between)
      (hfails : o.apply.run transport between = (.error e, after)) :
      Outcome package today transport plan start (.error (.migration m.name e), after)
  /-- The record of a migration fails behind all its operations; those in front of it have been
  recorded, and no other. -/
  | recordFailed {done later : List Migration} {m : Migration} {between after : Client}
      {e : ClientError} (hplan : plan = done ++ m :: later)
      (htaken : Taken package today transport start
        (done.flatMap Migration.steps ++ m.operations.map (.operation m))
        (done.map Migration.name) between)
      (hfails : (Action.insertHistory [⟨package, m.name, today⟩]).run transport between
        = (.error e, after)) :
      Outcome package today transport plan start (.error e, after)

/-! ### The steps of a plan -/

theorem recordedNames_append (front rest : List RunStep) :
    recordedNames (front ++ rest) = recordedNames front ++ recordedNames rest :=
  List.filterMap_append

theorem recordedNames_operations (m : Migration) (operations : List Operation) :
    recordedNames (operations.map (.operation m)) = [] := by
  simp [recordedNames]

/-- The steps of a plan record its names, in their order. -/
theorem recordedNames_flatMap_steps (plan : List Migration) :
    recordedNames (plan.flatMap Migration.steps) = plan.map Migration.name := by
  induction plan with
  | nil => rfl
  | cons m plan ih =>
    rw [List.flatMap_cons, recordedNames_append, ih, Migration.steps, recordedNames_append,
      recordedNames_operations]
    rfl

/-- In front of an operation of a migration, the migrations in front of it have been recorded. -/
theorem recordedNames_front (done : List Migration) (m : Migration) (front : List Operation) :
    recordedNames (done.flatMap Migration.steps ++ front.map (.operation m))
      = done.map Migration.name := by
  rw [recordedNames_append, recordedNames_operations, List.append_nil,
    recordedNames_flatMap_steps]

/-- A step of a plan is an operation of one of its migrations, or the record of one. -/
theorem flatMap_steps_eq_append_cons : ∀ {plan : List Migration} {front rest : List RunStep}
    {step : RunStep}, plan.flatMap Migration.steps = front ++ step :: rest →
    (∃ done m later before o after, plan = done ++ m :: later ∧
      m.operations = before ++ o :: after ∧ step = .operation m o ∧
      front = done.flatMap Migration.steps ++ before.map (.operation m)) ∨
    (∃ done m later, plan = done ++ m :: later ∧ step = .record m ∧
      front = done.flatMap Migration.steps ++ m.operations.map (.operation m))
  | [], front, rest, step, h => absurd h (by simp)
  | m :: plan, front, rest, step, h => by
    rw [List.flatMap_cons, Migration.steps, List.append_assoc, List.singleton_append] at h
    rcases List.append_eq_append_iff.1 h with ⟨behind, rfl, hbehind⟩ | ⟨left, hleft, hbehind⟩
    · cases behind with
      | nil =>
        obtain rfl := (List.cons.inj hbehind).1
        exact .inr ⟨[], m, plan, rfl, rfl, by simp⟩
      | cons x behind =>
        obtain ⟨rfl, hplan⟩ := List.cons.inj hbehind
        rcases flatMap_steps_eq_append_cons hplan with
          ⟨done, m', later, before, o, after, rfl, hm', hstep, rfl⟩ |
            ⟨done, m', later, rfl, hstep, rfl⟩
        · exact .inl ⟨m :: done, m', later, before, o, after, rfl, hm', hstep,
            by simp [Migration.steps]⟩
        · exact .inr ⟨m :: done, m', later, rfl, hstep, by simp [Migration.steps]⟩
    · cases left with
      | nil =>
        obtain rfl := (List.cons.inj hbehind).1
        exact .inr ⟨[], m, plan, rfl, rfl, by simpa using hleft.symm⟩
      | cons x left =>
        obtain rfl := (List.cons.inj hbehind).1
        obtain ⟨before, tail, hm, rfl, htail⟩ := List.map_eq_append_iff.1 hleft
        obtain ⟨o, after, rfl, rfl, -⟩ := List.map_eq_cons_iff.1 htail
        exact .inl ⟨[], m, plan, before, o, after, rfl, hm, rfl, by simp⟩

/-! ### A run step by step -/

/-- A step as a run takes it: the error of an operation is wrapped. -/
def RunStep.guarded (package : String) (today : Calendar.Date) : RunStep → Action Unit
  | operation m o => tryCatch o.apply fun e => throw (.migration m.name e)
  | record m => Action.insertHistory [⟨package, m.name, today⟩]

theorem run_guarded (step : RunStep) (client : Client) :
    (step.guarded package today).run transport client
      = (((step.action package today).run transport client).1.mapError step.failure,
          ((step.action package today).run transport client).2) := by
  cases step with
  | operation m o =>
    rw [RunStep.guarded, Action.run_tryCatch, RunStep.action]
    rcases o.apply.run transport client with ⟨_ | _, _⟩ <;> rfl
  | record m =>
    rw [RunStep.guarded, RunStep.action]
    rcases (Action.insertHistory [⟨package, m.name, today⟩]).run transport client with
      ⟨_ | _, _⟩ <;> rfl

theorem run_guarded_ok_iff {step : RunStep} {client after : Client} :
    (step.guarded package today).run transport client = (.ok (), after) ↔
      (step.action package today).run transport client = (.ok (), after) := by
  rw [run_guarded]
  rcases (step.action package today).run transport client with ⟨_ | _, _⟩ <;>
    simp [Except.mapError]

theorem run_guarded_error_iff {step : RunStep} {client after : Client} {e : ClientError} :
    (step.guarded package today).run transport client = (.error e, after) ↔
      ∃ cause, (step.action package today).run transport client = (.error cause, after) ∧
        e = step.failure cause := by
  rw [run_guarded]
  rcases (step.action package today).run transport client with ⟨_ | _, _⟩ <;>
    simp [Except.mapError, and_comm, eq_comm]

/-- Guarded steps succeed where the steps do. -/
theorem run_forM_guarded_ok_iff {steps : List RunStep} {client after : Client} :
    (steps.forM (RunStep.guarded package today)).run transport client = (.ok (), after) ↔
      (takeSteps package today steps).run transport client = (.ok (), after) :=
  ⟨Action.run_forM_ok_of_forall fun _ _ _ h => run_guarded_ok_iff.1 h,
    Action.run_forM_ok_of_forall fun _ _ _ h => run_guarded_ok_iff.2 h⟩

theorem forM_guarded_steps (package : String) (today : Calendar.Date) (m : Migration) :
    m.steps.forM (RunStep.guarded package today) = (do
      Action.applyOperations m
      Action.insertHistory [⟨package, m.name, today⟩]) := by
  rw [Migration.steps, List.forM_eq_forM, List.forM_append, List.forM_map, Action.applyOperations]
  simp only [List.forM_eq_forM, List.forM_cons, List.forM_nil, RunStep.guarded, bind_pure_unit]

theorem applyMigrations_eq (package : String) (today : Calendar.Date) (bound : Nat) :
    ∀ pending, Action.applyMigrations package today bound pending =
      (do
        ((upTo bound pending).flatMap Migration.steps).forM (RunStep.guarded package today)
        pure ((upTo bound pending).map Migration.name))
  | [] => rfl
  | m :: rest => by
    have hsteps := forM_guarded_steps package today m
    rw [List.forM_eq_forM] at hsteps
    rw [Action.applyMigrations, upTo]
    cases m.reaches bound with
    | true =>
      simp only [if_true, List.flatMap_cons, List.flatMap_nil, List.append_nil, List.forM_eq_forM,
        hsteps, bind_assoc, List.map_cons, List.map_nil]
    | false =>
      simp only [Bool.false_eq_true, if_false, List.flatMap_cons, List.forM_eq_forM,
        List.forM_append, hsteps, bind_assoc, List.map_cons, pure_bind,
        applyMigrations_eq package today bound rest]

/-! ### Whole runs -/

variable {plan : List Migration}

/-- The steps of a plan, guarded, and then the names of the plan. -/
def runPlan (package : String) (today : Calendar.Date) (plan : List Migration) :
    Action (List String) := do
  (plan.flatMap Migration.steps).forM (RunStep.guarded package today)
  pure (plan.map Migration.name)

theorem outcome_runPlan (package : String) (today : Calendar.Date) (transport : Transport)
    (plan : List Migration) (start : Client) :
    Outcome package today transport plan start
      ((runPlan package today plan).run transport start) := by
  rcases Action.run_forM_cases (RunStep.guarded package today) transport
    (plan.flatMap Migration.steps) start with
    ⟨after, h⟩ | ⟨front, step, rest, between, e, after, hsteps, hfront, hstep, h⟩
  · rw [runPlan, Action.run_bind_ok h]
    exact .finished ⟨run_forM_guarded_ok_iff.1 h, recordedNames_flatMap_steps plan⟩
  · rw [runPlan, Action.run_bind_error h]
    obtain ⟨cause, hcause, rfl⟩ := run_guarded_error_iff.1 hstep
    have hdone := run_forM_guarded_ok_iff.1 hfront
    rcases flatMap_steps_eq_append_cons hsteps with
      ⟨done, m, later, before, o, left, hplan, hoperations, rfl, rfl⟩ |
        ⟨done, m, later, hplan, rfl, rfl⟩
    · exact .operationFailed hplan hoperations ⟨hdone, recordedNames_front done m before⟩ hcause
    · exact .recordFailed hplan ⟨hdone, recordedNames_front done m m.operations⟩ hcause

/-- A run fails at a step of its plan that fails behind the steps in front of it. -/
theorem run_runPlan_error {front rest : List RunStep} {step : RunStep} {between after : Client}
    {cause : ClientError} (hplan : plan.flatMap Migration.steps = front ++ step :: rest)
    (hfront : (takeSteps package today front).run transport start = (.ok (), between))
    (hstep : (step.action package today).run transport between = (.error cause, after)) :
    (runPlan package today plan).run transport start = (.error (step.failure cause), after) := by
  have hguarded := run_guarded_error_iff.2 ⟨cause, hstep, rfl⟩
  have hcons : ((step :: rest).forM (RunStep.guarded package today))
      = step.guarded package today >>= fun _ => rest.forM (RunStep.guarded package today) := rfl
  rw [runPlan, hplan]
  refine Action.run_bind_error ?_ _
  rw [Action.run_forM_append (run_forM_guarded_ok_iff.2 hfront), hcons,
    Action.run_bind_error hguarded]

theorem run_runPlan_of_outcome {r : Result (List String) × Client}
    (h : Outcome package today transport plan start r) :
    (runPlan package today plan).run transport start = r := by
  cases h with
  | finished htaken =>
    rw [runPlan, Action.run_bind_ok (run_forM_guarded_ok_iff.2 htaken.succeed)]
    rfl
  | @operationFailed done later m front rest o between after e hplan hoperations htaken hfails =>
    have hflat : plan.flatMap Migration.steps
        = (done.flatMap Migration.steps ++ front.map (.operation m)) ++ .operation m o ::
          (rest.map (.operation m) ++ .record m :: later.flatMap Migration.steps) := by
      simp [hplan, Migration.steps, hoperations]
    exact run_runPlan_error hflat htaken.succeed hfails
  | @recordFailed done later m between after e hplan htaken hfails =>
    have hflat : plan.flatMap Migration.steps
        = (done.flatMap Migration.steps ++ m.operations.map (.operation m)) ++ .record m ::
          later.flatMap Migration.steps := by
      simp [hplan, Migration.steps]
    exact run_runPlan_error hflat htaken.succeed hfails

theorem run_migrate [Clocks] {p : Package} {applied : List String} {client : Client}
    (hnames : (p.migrations.map Migration.name).Nodup)
    (happlied : (Action.appliedMigrations p.name).run transport client = (.ok applied, start))
    (today : Calendar.Date) (bound : Nat) :
    (Action.migrate p today bound).run transport client
      = (runPlan p.name today (upTo bound (p.pending applied))).run transport start := by
  rw [Action.migrate, checkNames_eq_ok hnames, Action.run_bind_ok (Action.run_ofResult _),
    Action.run_bind_ok happlied, applyMigrations_eq]
  rfl

/-- A run over migrations with different names takes the pending ones in the order of their names,
up to the first that reaches the bound, and ends as the steps of these do: with their names, all of
them recorded, or at the first step that fails, with those recorded that it has finished. How the
migrations were registered makes no difference. -/
theorem run_migrate_eq_iff [Clocks] {p : Package} {applied : List String} {client : Client}
    (hnames : (p.migrations.map Migration.name).Nodup)
    (happlied : (Action.appliedMigrations p.name).run transport client = (.ok applied, start))
    (today : Calendar.Date) (bound : Nat) :
    ∃ pending plan, pending.Perm (p.migrations.filter fun m => m.name ∉ applied) ∧
      pending.Pairwise Before ∧ IsPlan bound pending plan ∧
      (∀ r, (Action.migrate p today bound).run transport client = r ↔
        Outcome p.name today transport plan start r) ∧
      ∀ other : Package, other.name = p.name → other.migrations.Perm p.migrations →
        (Action.migrate other today bound).run transport client
          = (Action.migrate p today bound).run transport client := by
  refine ⟨p.pending applied, upTo bound (p.pending applied), pending_perm p applied,
    pending_pairwise hnames applied, isPlan_upTo bound _, fun r => ⟨?_, fun h => ?_⟩,
    fun other hname hperm => ?_⟩
  · rintro rfl
    rw [run_migrate hnames happlied]
    exact outcome_runPlan ..
  · rw [run_migrate hnames happlied, run_runPlan_of_outcome h]
  · have hother : (other.migrations.map Migration.name).Nodup :=
      (hperm.map Migration.name).nodup_iff.2 hnames
    rw [run_migrate hnames happlied, run_migrate hother (hname ▸ happlied), hname,
      pending_eq_of_perm hnames hperm]

/-- A package whose migrations are registered against their order. -/
def shopPackage : Package where
  name := "shop"
  migrations := [
    { name := "0010_prune" },
    { name := "0002_index", operations := [.runStatements ["OPTIMIZE TABLE goods"]] },
    { name := "0001_goods", operations := [.runStatements ["CREATE TABLE goods", "SELECT 1"]] }]

/-- The migrations of the package in the order of their names. -/
def shopOrder : List Migration := [
  { name := "0001_goods", operations := [.runStatements ["CREATE TABLE goods", "SELECT 1"]] },
  { name := "0002_index", operations := [.runStatements ["OPTIMIZE TABLE goods"]] },
  { name := "0010_prune" }]

/-- The client once the table is there. -/
def shopCreated : Client :=
  ((Action.createTable HistoryRecord.schema).run silentServer shopClient).2

/-- The client once it has asked for the records of the package. -/
def shopStart : Client :=
  { shopCreated with
    sent := shopCreated.sent ++ [HistoryQuery.request shopCreated.connection "shop"] }

theorem run_appliedMigrations_shop :
    (Action.appliedMigrations "shop").run silentServer shopClient = (.ok [], shopStart) := by
  have hcreate : (Action.createTable HistoryRecord.schema).run silentServer shopClient
      = (.ok (), shopCreated) := rfl
  have hknown : shopCreated.connection.capabilities = some .fallback := rfl
  have hnames : (([] : List (Result Row)).map (· >>= HistoryRecord.ofRow)).mapM
      (fun record => record.map (·.migration)) = .ok [] := rfl
  have hselect := Action.run_select_history silentServer "shop" hknown
  have hsort : ([] : List String).eraseDups.mergeSort (fun a b => a ≤ b) = [] := by
    rw [List.eraseDups_nil, List.mergeSort_nil]
  rw [Action.run_appliedMigrations_of_select hcreate hselect hnames, hsort, shopStart]

theorem run_insertHistory_silent {client : Client} {known : Capabilities}
    (hknown : client.connection.capabilities = some known) (r : HistoryRecord) :
    (Action.insertHistory [r]).run silentServer client = (.ok (), { client with
      sent := client.sent ++
        [Action.insertRequest client.connection r.row (r.line ++ "\n") {}] }) := by
  have hanswer : silentServer client.sent
      (Action.insertRequest client.connection r.row (r.line ++ "\n") {}) = .ok ⟨200, []⟩ := rfl
  exact Action.run_insertHistory hknown hanswer rfl rfl

/-- On the silent server the first two migrations are applied and recorded. -/
theorem exists_taken_shop : ∃ after, Taken "shop" .epoch silentServer shopStart
    ((shopOrder.take 2).flatMap Migration.steps) ["0001_goods", "0002_index"] after := by
  have hsteps : takeSteps "shop" .epoch ((shopOrder.take 2).flatMap Migration.steps) = (do
      (Operation.runStatements ["CREATE TABLE goods", "SELECT 1"]).apply
      Action.insertHistory [⟨"shop", "0001_goods", .epoch⟩]
      (Operation.runStatements ["OPTIMIZE TABLE goods"]).apply
      Action.insertHistory [⟨"shop", "0002_index", .epoch⟩]
      pure ()) := rfl
  obtain ⟨after, hrun⟩ : ∃ after, (takeSteps "shop" .epoch
      ((shopOrder.take 2).flatMap Migration.steps)).run silentServer shopStart
        = (.ok (), after) := by
    rw [hsteps, Action.run_bind_ok rfl, Action.run_bind_ok (run_insertHistory_silent rfl _),
      Action.run_bind_ok rfl, Action.run_bind_ok (run_insertHistory_silent rfl _)]
    exact ⟨_, rfl⟩
  exact ⟨after, hrun, rfl⟩

theorem pairwise_shopOrder : shopOrder.Pairwise Before := by
  have hnames : (shopOrder.map Migration.name).Pairwise (· < ·) := by decide
  exact (List.pairwise_map.1 hnames).imp before_iff.2

theorem perm_shopOrder : shopOrder.Perm (shopPackage.migrations.filter fun m => m.name ∉ []) := by
  have hall : (shopPackage.migrations.filter fun m => m.name ∉ []) = shopPackage.migrations := by
    simp
  rw [hall]
  exact shopPackage.migrations.reverse_perm

theorem run_migrate_eq_iff_shop :
    (shopPackage.migrations.map Migration.name).Nodup ∧
      (Action.appliedMigrations "shop").run silentServer shopClient = (.ok [], shopStart) ∧
      IsPlan 2 shopOrder (shopOrder.take 2) ∧
      (∀ r, (Action.migrate shopPackage .epoch 2).run silentServer shopClient = r ↔
        Outcome "shop" .epoch silentServer (shopOrder.take 2) shopStart r) ∧
      ((Action.migrate shopPackage .epoch 2).run silentServer shopClient).1
        = .ok ["0001_goods", "0002_index"] := by
  have hnames : (shopPackage.migrations.map Migration.name).Nodup := by decide
  obtain ⟨pending, plan, hperm, hsorted, hplan, hrun, -⟩ :=
    run_migrate_eq_iff hnames run_appliedMigrations_shop .epoch 2
  obtain rfl : pending = shopOrder :=
    eq_of_perm_of_before (hperm.trans perm_shopOrder.symm) hsorted pairwise_shopOrder
  have htaken : plan = shopOrder.take 2 := hplan.eq_upTo.trans rfl
  obtain ⟨after, hafter⟩ := exists_taken_shop
  rw [htaken] at hplan hrun
  refine ⟨hnames, run_appliedMigrations_shop, hplan, hrun, ?_⟩
  rw [(hrun _).2 (.finished hafter)]
  rfl

end Columnar
