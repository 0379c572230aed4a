import Columnar.Proofs.Migration.Calls

/-!
A run of migrations right behind one that has succeeded.

What the first run took is in the history, so the second one takes none of it again: it goes on with
what the first one left behind the migration that reached the bound (`migrate_again`). It takes
nothing exactly if nothing is left, or everything left has been recorded since. So two runs with one
bound are not always the same as one (`migrate_goes_on`).
-/

namespace Columnar

open Columnar.Action (shopClient)

variable {database : String} {transport : Transport} {client between : Client} {p : Package}
  {today : Calendar.Date} {bound : Nat} {applied names : List String}

/-! ### Names of letters, digits and underscores -/

theorem isBlank_of_isNameChar {c : Char} (h : Placeholder.isNameChar c = true) :
    Text.isBlank c = false := by
  simp only [Placeholder.isNameChar, Bool.or_eq_true, decide_eq_true_eq] at h
  rcases h with h | rfl
  · exact Text.isBlank_of_isAlphanum h
  · decide

/-- A name that begins with a character that is not blank is not written as a blank line. -/
theorem isFilled_escape {name : String} {c : Char} {rest : List Char}
    (hname : name.toList = c :: rest) (hc : Text.isBlank c = false) :
    isFilled (Tsv.escape name) = true := by
  rw [isFilled, Text.isBlankText, Tsv.toList_escape, hname, Tsv.escapeChars_cons]
  rcases Tsv.escapeChar_cases c with ⟨-, hw⟩ | ⟨mark, -, hw⟩
  · simp [hw, hc]
  · have hbackslash : Text.isBlank '\\' = false := by decide
    simp [hw, hbackslash]

/-- The name consists of letters, digits and underscores. -/
def IsPlainName (name : String) : Prop :=
  ∀ c ∈ name.toList, Placeholder.isNameChar c = true

theorem IsPlainName.occurs_eq_false {name : String} (h : IsPlainName name) :
    Placeholder.occurs name.toList = false := by
  have hdollar : ∀ {s : List Char}, '$' ∉ s → Placeholder.occurs s = false := by
    intro s
    induction s with
    | nil => exact fun _ => rfl
    | cons c s ih =>
      intro hs
      rw [List.mem_cons, not_or] at hs
      simp [Placeholder.occurs, Ne.symm hs.1, ih hs.2]
  refine hdollar fun hmem => ?_
  exact absurd (h '$' hmem) (by decide)

theorem IsPlainName.isFilled_escape {name : String} (h : IsPlainName name) (hne : name ≠ "") :
    isFilled (Tsv.escape name) = true := by
  cases hname : name.toList with
  | nil => exact absurd (String.toList_inj.1 hname) hne
  | cons c rest =>
    exact Columnar.isFilled_escape hname
      (isBlank_of_isNameChar (h c (hname ▸ List.mem_cons_self)))

/-! ### The first run -/

/-- A run that succeeds: the names it reads, and the steps of its plan, all of which it takes. -/
structure Finishes [Clocks] (transport : Transport) (p : Package) (today : Calendar.Date)
    (bound : Nat) (client : Client) (applied : List String) (started after : Client) : Prop where
  nodup : (p.migrations.map Migration.name).Nodup
  reads : (Action.appliedMigrations p.name).run transport client = (.ok applied, started)
  steps : (takeSteps p.name today
      ((upTo bound (p.pending applied)).flatMap Migration.steps)).run transport started
    = (.ok (), after)

/-- Every run that succeeds does so by all steps of its plan, and gives the names of the plan. -/
theorem finishes_of_migrate [Clocks]
    (h : (Action.migrate p today bound).run transport client = (.ok names, between)) :
    ∃ applied started, Finishes transport p today bound client applied started between ∧
      names = (upTo bound (p.pending applied)).map Migration.name := by
  obtain ⟨_, checked, hcheck, hrest⟩ := Action.run_bind_eq_ok h
  obtain ⟨hok, rfl⟩ := Action.ofResult_eq_ok hcheck
  have hnodup := nodup_of_checkNames hok
  obtain ⟨applied, started, happlied, -⟩ := Action.run_bind_eq_ok hrest
  have houtcome := outcome_runPlan p.name today transport (upTo bound (p.pending applied)) started
  rw [← run_migrate hnodup happlied, h] at houtcome
  cases houtcome with
  | finished htaken => exact ⟨applied, started, ⟨hnodup, happlied, htaken.succeed⟩, rfl⟩

namespace Finishes

variable [Clocks] {started : Client}

theorem run_migrate (h : Finishes transport p today bound client applied started between) :
    (Action.migrate p today bound).run transport client
      = (.ok ((upTo bound (p.pending applied)).map Migration.name), between) := by
  rw [Columnar.run_migrate h.nodup h.reads]
  exact run_runPlan_of_outcome (.finished ⟨h.steps, recordedNames_flatMap_steps _⟩)

/-- Each migration of the plan is recorded. -/
theorem records (h : Finishes transport p today bound client applied started between)
    {m : Migration} (hm : m ∈ upTo bound (p.pending applied)) :
    MigrationCall.Records ⟨p, today, bound⟩ transport client m.name := by
  obtain ⟨done, later, hplan⟩ := List.append_of_mem hm
  have hsplit : (upTo bound (p.pending applied)).flatMap Migration.steps
      = (done.flatMap Migration.steps ++ m.operations.map (.operation m)) ++ .record m ::
        later.flatMap Migration.steps := by
    simp [hplan, Migration.steps]
  have happend : ∀ front rest : List RunStep, takeSteps p.name today (front ++ rest)
      = takeSteps p.name today front >>= fun _ => takeSteps p.name today rest := by
    intro front rest
    rw [takeSteps, List.forM_eq_forM, List.forM_append]
    rfl
  have hsteps := h.steps
  rw [hsplit, List.append_cons, happend] at hsteps
  obtain ⟨_, recorded, hrecorded, -⟩ := Action.run_bind_eq_ok hsteps
  exact ⟨applied, started, _, m, _, recorded, h.nodup, h.reads, hsplit, rfl, hrecorded⟩

/-- The names that the run has read and those it has recorded are in the history behind it. -/
theorem subset_names (h : Finishes transport p today bound client applied started between)
    (server : HistoryServer database transport)
    (hdatabase : client.connection.config.database = database) (hhonest : p.IsHonest)
    (hpackage : IsPlainName p.name) {sent : List Request} (hgrows : server.Grows sent)
    (hsent : between.sent <+: sent) :
    (∀ name ∈ applied, name ∈ server.names sent p.name ∧ isFilled (Tsv.escape name) = true) ∧
      ∀ m ∈ upTo bound (p.pending applied), m.name ∈ server.names sent p.name := by
  obtain ⟨earlier, r, hstarted, -, hmem⟩ :=
    mem_applied_iff server hdatabase hpackage.occurs_eq_false h.reads
  have hsteps := (keeps_takeSteps (isHonest_of_mem_steps hhonest applied bound) p.name today
    transport started).1
  rw [h.steps, hstarted] at hsteps
  have hearlier : earlier <+: sent := (List.prefix_append _ _).trans (hsteps.trans hsent)
  refine ⟨fun name hname => ?_, fun m hm => ?_⟩
  · obtain ⟨hrecorded, hfilled⟩ := (hmem name).1 hname
    exact ⟨hgrows.names_subset hearlier p.name hrecorded, hfilled⟩
  · have hcall : (MigrationCall.mk p today bound).action.run transport client = _ := h.run_migrate
    exact (h.records hm).mem_names hdatabase hhonest hgrows (by rw [hcall]; exact hsent)

end Finishes

/-! ### What the first run leaves -/

theorem upTo_eq_nil_iff {pending : List Migration} : upTo bound pending = [] ↔ pending = [] := by
  cases pending with
  | nil => simp [upTo]
  | cons m rest =>
    rw [upTo]
    split <;> simp

/-- A run that gives no names has an empty plan, and takes no step. -/
theorem run_runPlan_eq_nil_iff {package : String} {plan : List Migration} :
    (runPlan package today plan).run transport client = (.ok [], client) ↔ plan = [] := by
  constructor
  · intro h
    have hnames : ∀ {result : Result (List String) × Client},
        Outcome package today transport plan client result → result.1 = .ok [] → plan = [] := by
      intro result houtcome hresult
      cases houtcome with
      | finished => exact List.map_eq_nil_iff.1 (Except.ok.inj hresult)
      | operationFailed | recordFailed => exact absurd hresult (by simp)
    exact hnames (outcome_runPlan package today transport plan client) (by rw [h])
  · rintro rfl
    rfl

/-- Behind a run that has succeeded, what is pending is what it left and is not recorded. -/
theorem Finishes.pending_eq [Clocks] {started : Client}
    (h : Finishes transport p today bound client applied started between)
    (server : HistoryServer database transport)
    (hdatabase : client.connection.config.database = database) (hhonest : p.IsHonest)
    (hpackage : IsPlainName p.name)
    (hmigrations : ∀ m ∈ p.migrations, m.name ≠ "" ∧ IsPlainName m.name)
    {left : List Migration} (hleft : p.pending applied = upTo bound (p.pending applied) ++ left)
    {sent : List Request} {later : List String} (hgrows : server.Grows sent)
    (hsent : between.sent <+: sent)
    (hlater : ∀ name, name ∈ later ↔
      name ∈ server.names sent p.name ∧ isFilled (Tsv.escape name) = true) :
    p.pending later = left.filter fun m => m.name ∉ server.names sent p.name := by
  obtain ⟨hread, hrecorded⟩ :=
    h.subset_names server hdatabase hhonest hpackage hgrows hsent
  have hmem : ∀ m ∈ p.pending applied,
      m.name ∈ later ↔ m.name ∈ server.names sent p.name := by
    intro m hm
    have hm' := List.mem_of_mem_filter ((pending_perm p applied).mem_iff.1 hm)
    have hfilled := (hmigrations m hm').2.isFilled_escape (hmigrations m hm').1
    rw [hlater, and_iff_left hfilled]
  have hsubset : applied ⊆ later := fun name hname => (hlater name).2 (hread name hname)
  rw [pending_eq_filter h.nodup hsubset]
  have hfilter : (p.pending applied).filter (fun m => m.name ∉ later)
      = (p.pending applied).filter fun m => m.name ∉ server.names sent p.name :=
    List.filter_congr fun m hm => decide_eq_decide.2 (not_congr (hmem m hm))
  have htaken : (upTo bound (p.pending applied)).filter
      (fun m => m.name ∉ server.names sent p.name) = [] := by
    rw [List.filter_eq_nil_iff]
    intro m hm
    simpa using hrecorded m hm
  rw [hfilter, hleft, List.filter_append, htaken, List.nil_append]

/-! ### Runs on a server that keeps a history -/

/-- Reading the history makes no record. -/
theorem keptPairs_of_reads [Clocks] {known : Capabilities} {before : List (String × String)}
    {package : String} {after : Client} (hknown : client.connection.capabilities = some known)
    (h : (Action.appliedMigrations package).run (keepingTransport database before) client
      = (.ok applied, after)) :
    keptPairs database before after.sent = keptPairs database before client.sent := by
  obtain ⟨created, response, hcreate, -, -, rfl⟩ := Action.appliedMigrations_eq_ok h
  obtain ⟨created', hcreate', -, hkept⟩ := run_createTable_keeping database before hknown
  rw [hcreate] at hcreate'
  obtain rfl := (Prod.ext_iff.1 hcreate').2
  have hhead : (HistoryQuery.statement created.connection.config.database
      package).toList.head? = some 'S' := by
    refine Placeholder.head?_fill ?_ (by decide)
    simp only [String.toList_append]
    rfl
  have hpairs : HistoryRecord.insertedPairs database
      (HistoryQuery.request created.connection package) = [] :=
    HistoryRecord.insertedPairs_eq_nil rfl hhead (by decide)
  rw [keptPairs_concat, hpairs, List.append_nil, hkept]

/-- Migrations without operations are recorded one after another. -/
theorem run_takeSteps_keeping {known : Capabilities} (before : List (String × String))
    (package : String) (today : Calendar.Date) {plan : List Migration}
    (hplan : ∀ m ∈ plan, m.operations = [])
    (hknown : client.connection.capabilities = some known)
    (hdatabase : client.connection.config.database = database) :
    ∃ after, (takeSteps package today (plan.flatMap Migration.steps)).run
        (keepingTransport database before) client = (.ok (), after) ∧
      after.connection = client.connection ∧
      keptPairs database before after.sent
        = keptPairs database before client.sent ++ plan.map fun m => (package, m.name) := by
  induction plan generalizing client with
  | nil => exact ⟨client, rfl, rfl, by simp⟩
  | cons m plan ih =>
    obtain ⟨between, hinsert, hconnection, hkept⟩ := run_insertHistory_keeping before hknown
      hdatabase ⟨package, m.name, today⟩
    have hknown' : between.connection.capabilities = some known := by rw [hconnection, hknown]
    obtain ⟨after, hrest, hafter, hmore⟩ := ih
      (fun x hx => hplan x (List.mem_cons_of_mem m hx)) hknown' (by rw [hconnection, hdatabase])
    have hcons : takeSteps package today ((m :: plan).flatMap Migration.steps)
        = Action.insertHistory [⟨package, m.name, today⟩] >>= fun _ =>
          takeSteps package today (plan.flatMap Migration.steps) := by
      rw [List.flatMap_cons, Migration.steps, hplan m List.mem_cons_self]
      rfl
    refine ⟨after, ?_, hafter.trans hconnection, ?_⟩
    · rw [hcons, Action.run_bind_ok hinsert, hrest]
    · rw [hmore, hkept]
      simp

/-- A package of migrations without operations, whose names have no placeholders, is applied. -/
theorem run_migrate_keeping [Clocks] {known : Capabilities} (before : List (String × String))
    (hoperations : ∀ m ∈ p.migrations, m.operations = [])
    (hnodup : (p.migrations.map Migration.name).Nodup) (hpackage : IsPlainName p.name)
    (hknown : client.connection.capabilities = some known)
    (hdatabase : client.connection.config.database = database) (today : Calendar.Date)
    (bound : Nat) : ∃ applied started after,
      Finishes (keepingTransport database before) p today bound client applied started after ∧
      (∀ name, name ∈ applied ↔ (p.name, name) ∈ keptPairs database before client.sent ∧
        isFilled (Tsv.escape name) = true) ∧
      after.connection = client.connection ∧
      keptPairs database before after.sent = keptPairs database before client.sent
        ++ (upTo bound (p.pending applied)).map fun m => (p.name, m.name) := by
  have hcompared :=
    (HistoryQuery.comparedName?_eq_some_iff database p.name).2 hpackage.occurs_eq_false
  obtain ⟨applied, started, happlied, hstarted, hmem⟩ :=
    exists_appliedMigrations_keeping before hknown hdatabase hcompared
  have hplan : ∀ m ∈ upTo bound (p.pending applied), m.operations = [] := by
    intro m hm
    have hpending := (pending_perm p applied).mem_iff.1 (upTo_subset bound _ hm)
    exact hoperations m (List.mem_of_mem_filter hpending)
  have hknown' : started.connection.capabilities = some known := by rw [hstarted, hknown]
  obtain ⟨after, hsteps, hafter, hkept⟩ := run_takeSteps_keeping before p.name today hplan hknown'
    (by rw [hstarted, hdatabase])
  rw [keptPairs_of_reads hknown happlied] at hkept
  exact ⟨applied, started, after, ⟨hnodup, happlied, hsteps⟩, hmem, hafter.trans hstarted, hkept⟩

/-- Two migrations without operations. -/
def growingPackage : Package where
  name := "app"
  migrations := [{ name := "0001_start" }, { name := "0002_more" }]

theorem growingPackage_isPlain : IsPlainName growingPackage.name ∧
    ∀ m ∈ growingPackage.migrations, m.name ≠ "" ∧ IsPlainName m.name := by
  have hplain : ∀ name : String, name.toList.all Placeholder.isNameChar = true → IsPlainName name :=
    fun name h => List.all_eq_true.1 h
  simp only [growingPackage, List.mem_cons, List.not_mem_nil, or_false]
  refine ⟨hplain "app" rfl, ?_⟩
  rintro m (rfl | rfl)
  · exact ⟨by decide, hplain "0001_start" rfl⟩
  · exact ⟨by decide, hplain "0002_more" rfl⟩

theorem pending_growingPackage : growingPackage.pending [] = growingPackage.migrations := by
  have hperm := pending_perm growingPackage []
  have hall : growingPackage.migrations.filter (fun m => m.name ∉ ([] : List String))
      = growingPackage.migrations := by simp
  have hnodup : (growingPackage.migrations.map Migration.name).Nodup := by decide
  have hsorted : growingPackage.migrations.Pairwise Before := by
    simp only [growingPackage, List.pairwise_cons, List.mem_singleton, forall_eq,
      List.not_mem_nil, false_implies, implies_true, List.Pairwise.nil, and_true, Before]
    decide
  rw [hall] at hperm
  refine hperm.eq_of_pairwise (fun a b _ _ hab hba => ?_) (pending_pairwise hnodup []) hsorted
  exact absurd hba (List.lt_asymm hab)

/-- Where no record of the package comes back, all its migrations are pending. -/
theorem run_migrate_of_none [Clocks] {known : Capabilities} (before : List (String × String))
    (hoperations : ∀ m ∈ p.migrations, m.operations = [])
    (hnodup : (p.migrations.map Migration.name).Nodup) (hpackage : IsPlainName p.name)
    (hknown : client.connection.capabilities = some known)
    (hdatabase : client.connection.config.database = database)
    (hnone : ∀ name, (p.name, name) ∈ keptPairs database before client.sent →
      isFilled (Tsv.escape name) = false)
    (today : Calendar.Date) (bound : Nat) :
    ∃ after, (Action.migrate p today bound).run (keepingTransport database before) client
        = (.ok ((upTo bound (p.pending [])).map Migration.name), after) ∧
      after.connection = client.connection ∧
      keptPairs database before after.sent = keptPairs database before client.sent
        ++ (upTo bound (p.pending [])).map fun m => (p.name, m.name) := by
  obtain ⟨applied, started, after, hfinishes, hmem, hafter, hkept⟩ :=
    run_migrate_keeping before hoperations hnodup hpackage hknown hdatabase today bound
  obtain rfl : applied = [] := by
    rw [List.eq_nil_iff_forall_not_mem]
    intro name hname
    obtain ⟨hpair, hfilled⟩ := (hmem name).1 hname
    rw [hnone name hpair] at hfilled
    exact Bool.false_ne_true hfilled
  exact ⟨after, hfinishes.run_migrate, hafter, hkept⟩

/-- In an empty history the first migration is recorded; it reaches the bound. -/
theorem run_growingPackage : ∃ between,
    (Action.migrate growingPackage .epoch 1).run (keepingTransport "shop" []) shopClient
        = (.ok ["0001_start"], between) ∧
      between.connection = shopClient.connection ∧
      keptPairs "shop" [] between.sent = [("app", "0001_start")] := by
  have hoperations : ∀ m ∈ growingPackage.migrations, m.operations = [] := by
    simp [growingPackage]
  have hnodup : (growingPackage.migrations.map Migration.name).Nodup := by decide
  have hknown : shopClient.connection.capabilities = some .fallback := rfl
  have hdatabase : shopClient.connection.config.database = "shop" := rfl
  have hrun := run_migrate_of_none [] hoperations hnodup growingPackage_isPlain.1 hknown hdatabase
    (by simp [keptPairs, shopClient]) .epoch 1
  have hplan : upTo 1 (growingPackage.pending []) = [{ name := "0001_start" }] := by
    rw [pending_growingPackage]
    rfl
  rwa [hplan] at hrun

/-- Right behind the run that recorded the first migration, one with its bound takes the second. -/
theorem run_growingPackage_again [Clocks] (hconnection : between.connection = shopClient.connection)
    (hkept : keptPairs "shop" [] between.sent = [("app", "0001_start")]) : ∃ after,
    (Action.migrate growingPackage .epoch 1).run (keepingTransport "shop" []) between
        = (.ok ["0002_more"], after) ∧
      keptPairs "shop" [] after.sent = [("app", "0001_start"), ("app", "0002_more")] := by
  have hoperations : ∀ m ∈ growingPackage.migrations, m.operations = [] := by
    simp [growingPackage]
  have hnodup : (growingPackage.migrations.map Migration.name).Nodup := by decide
  have hknown : between.connection.capabilities = some .fallback := by rw [hconnection]; rfl
  have hdatabase : between.connection.config.database = "shop" := by rw [hconnection]; rfl
  obtain ⟨again, restarted, after, hfinishes, hmem, -, hkept'⟩ := run_migrate_keeping []
    hoperations hnodup growingPackage_isPlain.1 hknown hdatabase .epoch 1
  have hagain : ∀ name, name ∈ again ↔ name = "0001_start" := by
    intro name
    rw [hmem, hkept]
    constructor
    · rintro ⟨hpair, -⟩
      simpa [growingPackage] using hpair
    · rintro rfl
      exact ⟨by simp [growingPackage], by decide⟩
  -- Of the two only the second is left, and it reaches the bound as well.
  have hplan : upTo 1 (growingPackage.pending again) = [{ name := "0002_more" }] := by
    have hleft : growingPackage.migrations.filter (fun m => m.name ∉ again)
        = [{ name := "0002_more" }] := by
      simp [growingPackage, hagain]
    rw [pending_eq_filter hnodup (List.nil_subset again), pending_growingPackage, hleft]
    rfl
  have hrun := hfinishes.run_migrate
  rw [hplan] at hrun
  rw [hplan, hkept] at hkept'
  exact ⟨after, hrun, hkept'⟩

/-- A migration without a name. -/
def namelessPackage : Package where
  name := "app"
  migrations := [{ name := "" }]

/-- The record of a name without characters is a blank line, which no run reads. -/
theorem run_namelessPackage [Clocks] (client : Client)
    (hconnection : client.connection = shopClient.connection)
    (hnone : ∀ name, ("app", name) ∈ keptPairs "shop" [] client.sent → name = "") :
    ∃ after, (Action.migrate namelessPackage .epoch 9999).run (keepingTransport "shop" []) client
        = (.ok [""], after) ∧
      after.connection = client.connection ∧
      keptPairs "shop" [] after.sent = keptPairs "shop" [] client.sent ++ [("app", "")] := by
  have hoperations : ∀ m ∈ namelessPackage.migrations, m.operations = [] := by
    simp [namelessPackage]
  have hnodup : (namelessPackage.migrations.map Migration.name).Nodup := by decide
  have hknown : client.connection.capabilities = some .fallback := by rw [hconnection]; rfl
  have hdatabase : client.connection.config.database = "shop" := by rw [hconnection]; rfl
  have hblank : ∀ name, (namelessPackage.name, name) ∈ keptPairs "shop" [] client.sent →
      isFilled (Tsv.escape name) = false := by
    intro name hname
    rw [hnone name hname]
    decide
  have hplan : upTo 9999 (namelessPackage.pending []) = [{ name := "" }] := by
    have hperm := pending_perm namelessPackage []
    rw [List.perm_singleton.1 hperm]
    rfl
  have hrun := run_migrate_of_none [] hoperations hnodup growingPackage_isPlain.1 hknown hdatabase
    hblank .epoch 9999
  rwa [hplan] at hrun

/-! ### A run right behind another -/

/-- Right behind a run that has succeeded, a run with the same bound takes what that one left and
what has not been recorded since, up to the first that reaches the bound, and nothing that the first
one took. It does nothing exactly if nothing is left; if it cannot read the history, it takes no
step either. -/
theorem migrate_again [Clocks] (server : HistoryServer database transport)
    (hdatabase : client.connection.config.database = database) (hhonest : p.IsHonest)
    (hpackage : IsPlainName p.name)
    (hmigrations : ∀ m ∈ p.migrations, m.name ≠ "" ∧ IsPlainName m.name)
    (hfirst : (Action.migrate p today bound).run transport client = (.ok names, between))
    (tomorrow : Calendar.Date) :
    ∃ applied started plan left,
      (Action.appliedMigrations p.name).run transport client = (.ok applied, started) ∧
      p.pending applied = plan ++ left ∧ IsPlan bound (plan ++ left) plan ∧
      names = plan.map Migration.name ∧
      (∀ {e after}, (Action.appliedMigrations p.name).run transport between = (.error e, after) →
        (Action.migrate p tomorrow bound).run transport between = (.error e, after)) ∧
      ∀ {later again}, (Action.appliedMigrations p.name).run transport between
          = (.ok later, again) →
        ∃ sent r, again.sent = sent ++ [r] ∧ between.sent <+: sent ∧
          (server.Grows sent →
            ∃ plan', IsPlan bound (left.filter fun m => m.name ∉ server.names sent p.name) plan' ∧
              (∀ result, (Action.migrate p tomorrow bound).run transport between = result ↔
                Outcome p.name tomorrow transport plan' again result) ∧
              (∀ m ∈ plan', m.name ∉ names) ∧
              ((Action.migrate p tomorrow bound).run transport between = (.ok [], again) ↔
                ∀ m ∈ left, m.name ∈ server.names sent p.name)) := by
  obtain ⟨applied, started, hfinishes, rfl⟩ := finishes_of_migrate hfirst
  obtain ⟨left, hleft⟩ := (isPlan_upTo bound (p.pending applied)).isPrefix
  have hplan := isPlan_upTo bound (p.pending applied)
  refine ⟨applied, started, upTo bound (p.pending applied), left, hfinishes.reads, hleft.symm,
    hleft.symm ▸ hplan, rfl, fun herror => run_migrate_error hfinishes.nodup herror tomorrow bound,
    fun {later again} hagain => ?_⟩
  have hconfig := (Action.keeps_migrate hhonest today bound transport client).2
  rw [hfirst] at hconfig
  obtain ⟨sent, r, hsent, hpre, hmem⟩ := mem_applied_iff server
    ((congrArg Config.database hconfig).trans hdatabase) hpackage.occurs_eq_false hagain
  refine ⟨sent, r, hsent, hpre, fun hgrows => ?_⟩
  have hpending := hfinishes.pending_eq server hdatabase hhonest hpackage hmigrations hleft.symm
    hgrows hpre hmem
  have hrun : (Action.migrate p tomorrow bound).run transport between
      = (runPlan p.name tomorrow (upTo bound (left.filter fun m =>
          m.name ∉ server.names sent p.name))).run transport again := by
    rw [run_migrate hfinishes.nodup hagain, hpending]
  refine ⟨_, isPlan_upTo bound _, fun result => ⟨?_, fun h => ?_⟩, fun m hm hname => ?_, ?_⟩
  · rintro rfl
    rw [hrun]
    exact outcome_runPlan ..
  · rw [hrun, run_runPlan_of_outcome h]
  · obtain ⟨taken, htaken, hsame⟩ := List.mem_map.1 hname
    have hrecorded := (hfinishes.subset_names server hdatabase hhonest hpackage hgrows hpre).2
    have hnew := List.of_mem_filter (upTo_subset bound _ hm)
    rw [← hsame] at hnew
    exact absurd (hrecorded taken htaken) (by simpa using hnew)
  · rw [hrun, run_runPlan_eq_nil_iff, upTo_eq_nil_iff, List.filter_eq_nil_iff]
    simp

/-- What the first run left is taken by the one right behind it. -/
theorem migrate_again_growingPackage :
    ∃ between, (Action.migrate growingPackage .epoch 1).run (keepingTransport "shop" []) shopClient
        = (.ok ["0001_start"], between) ∧
      growingPackage.IsHonest ∧ IsPlainName growingPackage.name ∧
      (∀ m ∈ growingPackage.migrations, m.name ≠ "" ∧ IsPlainName m.name) ∧
      ∃ later again sent r plan', (Action.appliedMigrations "app").run (keepingTransport "shop" [])
          between = (.ok later, again) ∧ again.sent = sent ++ [r] ∧
        (keepingServer "shop" []).Grows sent ∧
        (∀ result, (Action.migrate growingPackage .epoch 1).run (keepingTransport "shop" []) between
          = result ↔ Outcome "app" .epoch (keepingTransport "shop" []) plan' again result) ∧
        ∀ m ∈ plan', m.name ∉ ["0001_start"] := by
  have hhonest : growingPackage.IsHonest := by simp [growingPackage, Package.IsHonest]
  obtain ⟨hpackage, hmigrations⟩ := growingPackage_isPlain
  obtain ⟨between, hfirst, hbetween, -⟩ := run_growingPackage
  have hknown : between.connection.capabilities = some .fallback := by rw [hbetween]; rfl
  have hdatabase : between.connection.config.database = "shop" := by rw [hbetween]; rfl
  have hcompared := (HistoryQuery.comparedName?_eq_some_iff "shop" "app").2 (by decide)
  obtain ⟨later, again, hagain, -, -⟩ :=
    exists_appliedMigrations_keeping [] hknown hdatabase hcompared
  obtain ⟨-, -, plan, left, -, -, -, -, -, hsecond⟩ := migrate_again (keepingServer "shop" []) rfl
    hhonest hpackage hmigrations hfirst .epoch
  obtain ⟨sent, r, hsent, -, hgoes⟩ := hsecond hagain
  obtain ⟨plan', -, hrun, hnew, -⟩ := hgoes (grows_keepingServer [] sent)
  exact ⟨between, hfirst, hhonest, hpackage, hmigrations, later, again, sent, r, plan', hagain,
    hsent, grows_keepingServer [] sent, hrun, hnew⟩

/-- A first run stops behind its first migration, and one with the same bound right behind it takes
the second. A migration without a name is taken by both. -/
theorem migrate_goes_on :
    (IsPlainName growingPackage.name ∧
      (∀ m ∈ growingPackage.migrations, m.name ≠ "" ∧ IsPlainName m.name) ∧
      ∃ between after,
        (Action.migrate growingPackage .epoch 1).run (keepingTransport "shop" []) shopClient
          = (.ok ["0001_start"], between) ∧
        (Action.migrate growingPackage .epoch 1).run (keepingTransport "shop" []) between
          = (.ok ["0002_more"], after) ∧
        keptPairs "shop" [] after.sent = [("app", "0001_start"), ("app", "0002_more")]) ∧
    IsPlainName namelessPackage.name ∧ (∀ m ∈ namelessPackage.migrations, IsPlainName m.name) ∧
      ∃ between after,
        (Action.migrate namelessPackage .epoch 9999).run (keepingTransport "shop" []) shopClient
          = (.ok [""], between) ∧
        (Action.migrate namelessPackage .epoch 9999).run (keepingTransport "shop" []) between
          = (.ok [""], after) ∧
        keptPairs "shop" [] after.sent = [("app", ""), ("app", "")] := by
  obtain ⟨hpackage, hmigrations⟩ := growingPackage_isPlain
  have hempty : keptPairs "shop" [] shopClient.sent = [] := by simp [keptPairs, shopClient]
  constructor
  · obtain ⟨between, hfirst, hbetween, hkept⟩ := run_growingPackage
    obtain ⟨after, hsecond, hkept'⟩ := run_growingPackage_again hbetween hkept
    exact ⟨hpackage, hmigrations, between, after, hfirst, hsecond, hkept'⟩
  · obtain ⟨between, hfirst, hbetween, hkept⟩ :=
      run_namelessPackage shopClient rfl (by simp [hempty])
    rw [hempty, List.nil_append] at hkept
    obtain ⟨after, hsecond, -, hkept'⟩ := run_namelessPackage between hbetween (by simp [hkept])
    rw [hkept] at hkept'
    have hplain : ∀ m ∈ namelessPackage.migrations, IsPlainName m.name := by
      simp [namelessPackage, IsPlainName]
    exact ⟨hpackage, hplain, between, after, hfirst, hsecond, hkept'⟩

end Columnar
