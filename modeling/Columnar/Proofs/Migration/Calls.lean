import Columnar.Proofs.Client.Composed
import Columnar.Proofs.Migration.Run
import Mathlib.Data.List.Induction

/-!
Runs of migrations one after another, over one history.

A run reads the history once, before its first step. What is in the history by then is not applied
again: every record that a run before it has made is still there, unless a request takes records
out (`HistoryServer.Grows`). Records of other packages make no difference (`history_of_calls`).
-/

namespace Columnar

open Columnar.Action (shopClient)

variable {database : String} {transport : Transport} {start client after : Client}

/-! ### Histories that grow -/

/-- No request takes a record out of the history. -/
def HistoryServer.Grows (server : HistoryServer database transport) (sent : List Request) : Prop :=
  ∀ front r, front ++ [r] <+: sent → server.content front ⊆ server.content (front ++ [r])

theorem HistoryServer.Grows.of_prefix {server : HistoryServer database transport}
    {front sent : List Request} (h : server.Grows sent) (hfront : front <+: sent) :
    server.Grows front :=
  fun front' r h' => h front' r (h'.trans hfront)

/-- What was in the history is still there. -/
theorem HistoryServer.Grows.content_subset {server : HistoryServer database transport}
    {front sent : List Request} (h : server.Grows sent) (hfront : front <+: sent) :
    server.content front ⊆ server.content sent := by
  obtain ⟨more, rfl⟩ := hfront
  induction more using List.reverseRecOn with
  | nil => rw [List.append_nil]; exact List.Subset.refl _
  | append_singleton more r ih =>
    rw [← List.append_assoc] at h ⊢
    have hmore := ih (h.of_prefix (List.prefix_append _ _))
    exact List.Subset.trans hmore (h (front ++ more) r (List.prefix_refl _))

theorem HistoryServer.Grows.names_subset {server : HistoryServer database transport}
    {front sent : List Request} (h : server.Grows sent) (hfront : front <+: sent)
    (package : String) : server.names front package ⊆ server.names sent package := by
  intro name hname
  rw [HistoryServer.mem_names] at hname ⊢
  exact h.content_subset hfront hname

/-! ### Steps -/

/-- The action of the caller in a step, if it has one, keeps requests and configuration. -/
def Operation.IsHonest : Operation → Prop
  | runAction action => action.Keeps
  | _ => True

/-- All steps of the migrations are honest. -/
def Package.IsHonest (p : Package) : Prop :=
  ∀ m ∈ p.migrations, ∀ o ∈ m.operations, o.IsHonest

theorem Action.keeps_apply {o : Operation} (h : o.IsHonest) : o.apply.Keeps := by
  cases o with
  | createTable schema => exact Composed.keeps fun _ => composed_createTable schema
  | dropTable schema => exact Composed.keeps fun _ => composed_dropTable schema
  | alterTable schema => exact Composed.keeps fun _ => composed_alterTable schema
  | runStatements statements =>
    exact Composed.keeps fun _ => composed_forM fun _ _ =>
      (composed_raw {} fun _ => trivial).bind fun _ => .pure ()
  | runAction action => exact h

theorem Action.keeps_insertHistory (records : List HistoryRecord) :
    (insertHistory records).Keeps :=
  Composed.keeps fun _ => composed_insertHistory records

theorem Action.keeps_appliedMigrations [Clocks] (package : String) :
    (appliedMigrations package).Keeps :=
  Composed.keeps fun _ => composed_appliedMigrations package

/-- The operation of a step, if it has one, is honest. -/
def RunStep.IsHonest : RunStep → Prop
  | operation _ o => o.IsHonest
  | record _ => True

theorem keeps_stepAction {step : RunStep} (h : step.IsHonest) (package : String)
    (today : Calendar.Date) : (step.action package today).Keeps := by
  cases step with
  | operation m o => exact Action.keeps_apply h
  | record m => exact Action.keeps_insertHistory _

theorem keeps_guarded {step : RunStep} (h : step.IsHonest) (package : String)
    (today : Calendar.Date) : (step.guarded package today).Keeps := by
  cases step with
  | operation m o => exact (Action.keeps_apply h).tryCatch fun _ => Action.keeps_throw _
  | record m => exact Action.keeps_insertHistory _

theorem upTo_subset (bound : Nat) : ∀ pending, upTo bound pending ⊆ pending
  | [] => List.Subset.refl []
  | m :: rest => by
    rw [upTo]
    split
    · simp
    · exact List.cons_subset_cons m (upTo_subset bound rest)

/-- The steps of an honest package are honest. -/
theorem isHonest_of_mem_steps {p : Package} (h : p.IsHonest) (applied : List String) (bound : Nat) :
    ∀ step ∈ (upTo bound (p.pending applied)).flatMap Migration.steps, step.IsHonest := by
  intro step hstep
  obtain ⟨m, hm, hstep⟩ := List.mem_flatMap.1 hstep
  have hpending : m ∈ p.pending applied := upTo_subset bound _ hm
  rw [Package.pending, List.mem_mergeSort] at hpending
  rw [Migration.steps, List.mem_append, List.mem_map, List.mem_singleton] at hstep
  rcases hstep with ⟨o, ho, rfl⟩ | rfl
  · exact h m (List.mem_of_mem_filter hpending) o ho
  · trivial

theorem Action.keeps_migrate [Clocks] {p : Package} (h : p.IsHonest) (today : Calendar.Date)
    (bound : Nat) :
    (migrate p today bound).Keeps := by
  refine (keeps_ofResult _).bind fun _ => (keeps_appliedMigrations _).bind fun applied => ?_
  rw [applyMigrations_eq]
  exact (keeps_forM fun step hstep => keeps_guarded
    (isHonest_of_mem_steps h applied bound step hstep) p.name today).bind fun _ => keeps_pure _

/-! ### Sequences of calls -/

/-- A call to migrate a package. -/
structure MigrationCall where
  package : Package
  today : Calendar.Date
  bound : Nat

namespace MigrationCall

/-- What the call does. -/
def action [Clocks] (call : MigrationCall) : Action (List String) :=
  Action.migrate call.package call.today call.bound

/-- The steps of the call when the given migrations have been applied. -/
def steps (call : MigrationCall) (applied : List String) : List RunStep :=
  (upTo call.bound (call.package.pending applied)).flatMap Migration.steps

/-- The call gets through a record of a migration with the name. -/
def Records [Clocks] (call : MigrationCall) (transport : Transport) (client : Client)
    (name : String) :
    Prop :=
  ∃ applied started front m rest between,
    (call.package.migrations.map Migration.name).Nodup ∧
    (Action.appliedMigrations call.package.name).run transport client = (.ok applied, started) ∧
    call.steps applied = front ++ .record m :: rest ∧ m.name = name ∧
    (takeSteps call.package.name call.today (front ++ [.record m])).run transport started
      = (.ok (), between)

end MigrationCall

/-- The client after calls one after another, whatever their results are. -/
def afterCalls [Clocks] (transport : Transport) (calls : List MigrationCall) (start : Client) :
    Client :=
  calls.foldl (fun client call => (call.action.run transport client).2) start

theorem afterCalls_append [Clocks] (transport : Transport) (earlier later : List MigrationCall)
    (start : Client) : afterCalls transport (earlier ++ later) start
      = afterCalls transport later (afterCalls transport earlier start) :=
  List.foldl_append

/-- Calls of honest packages keep what was sent and the configuration. -/
theorem keeps_afterCalls [Clocks] (transport : Transport) : ∀ {calls : List MigrationCall}
    (start : Client), (∀ call ∈ calls, call.package.IsHonest) →
    start.sent <+: (afterCalls transport calls start).sent ∧
      (afterCalls transport calls start).connection.config = start.connection.config
  | [], start, _ => ⟨List.prefix_refl start.sent, rfl⟩
  | call :: calls, start, h => by
    obtain ⟨hcall, hcalls⟩ := List.forall_mem_cons.1 h
    have hfirst := Action.keeps_migrate hcall call.today call.bound transport start
    have hrest := keeps_afterCalls transport (call.action.run transport start).2 hcalls
    exact ⟨hfirst.1.trans hrest.1, hrest.2.trans hfirst.2⟩

theorem keeps_takeSteps {steps : List RunStep} (h : ∀ step ∈ steps, step.IsHonest)
    (package : String) (today : Calendar.Date) : (takeSteps package today steps).Keeps :=
  Action.keeps_forM fun step hstep => keeps_stepAction (h step hstep) package today

/-- A run keeps what its first steps have sent. -/
theorem sent_runPlan {package : String} {today : Calendar.Date} {plan : List Migration}
    {front rest : List RunStep} {between : Client}
    (hsteps : plan.flatMap Migration.steps = front ++ rest)
    (hrest : ∀ step ∈ rest, step.IsHonest)
    (hfront : (takeSteps package today front).run transport start = (.ok (), between)) :
    between.sent <+: ((runPlan package today plan).run transport start).2.sent := by
  have hkeeps := (Action.keeps_forM fun step hstep =>
    keeps_guarded (hrest step hstep) package today).bind fun _ =>
      Action.keeps_pure (plan.map Migration.name)
  have hrun : (runPlan package today plan).run transport start
      = (rest.forM (RunStep.guarded package today) >>= fun _ =>
          pure (plan.map Migration.name)).run transport between := by
    rw [runPlan, hsteps, Action.run_bind,
      Action.run_forM_append (run_forM_guarded_ok_iff.2 hfront), ← Action.run_bind]
  rw [hrun]
  exact (hkeeps transport between).1

/-- The record of a migration is in the history behind steps that end with it. -/
theorem mem_names_of_takeSteps (server : HistoryServer database transport) {package : String}
    {today : Calendar.Date} {front : List RunStep} {m : Migration}
    (hdatabase : start.connection.config.database = database)
    (hfront : ∀ step ∈ front, step.IsHonest)
    (h : (takeSteps package today (front ++ [.record m])).run transport start = (.ok (), after)) :
    m.name ∈ server.names after.sent package := by
  have hconcat : takeSteps package today (front ++ [.record m])
      = takeSteps package today front >>= fun _ => takeSteps package today [.record m] := by
    rw [takeSteps, List.forM_eq_forM, List.forM_append]
    rfl
  rw [hconcat] at h
  obtain ⟨_, between, hrun, h⟩ := Action.run_bind_eq_ok h
  obtain ⟨_, recorded, hrecord, h⟩ := Action.run_bind_eq_ok h
  obtain ⟨-, rfl⟩ := Prod.ext_iff.1 h
  have hconfig := (keeps_takeSteps hfront package today transport start).2
  rw [hrun] at hconfig
  exact Action.mem_names_of_insertHistory server
    ((congrArg Config.database hconfig).trans hdatabase) hrecord

/-- What a call records is in the history, and stays there as long as no request takes it out. -/
theorem MigrationCall.Records.mem_names [Clocks] {server : HistoryServer database transport}
    {call : MigrationCall} {name : String} (h : call.Records transport client name)
    (hdatabase : client.connection.config.database = database) (hcall : call.package.IsHonest)
    {sent : List Request} (hgrows : server.Grows sent)
    (hsent : (call.action.run transport client).2.sent <+: sent) :
    name ∈ server.names sent call.package.name := by
  obtain ⟨applied, started, front, m, rest, between, hnames, happlied, hsteps, rfl, hrun⟩ := h
  have hhonest := isHonest_of_mem_steps hcall applied call.bound
  rw [← MigrationCall.steps, hsteps, List.forall_mem_append, List.forall_mem_cons] at hhonest
  -- The record is made at `between`; the steps behind it and all later requests only add to it.
  have hconfig := (Action.keeps_appliedMigrations call.package.name transport client).2
  rw [happlied] at hconfig
  have hrecorded := mem_names_of_takeSteps server
    ((congrArg Config.database hconfig).trans hdatabase) hhonest.1 hrun
  have hsplit : (upTo call.bound (call.package.pending applied)).flatMap Migration.steps
      = (front ++ [.record m]) ++ rest := by
    rw [← MigrationCall.steps, hsteps, List.append_assoc, List.singleton_append]
  have hbetween := sent_runPlan hsplit hhonest.2.2 hrun
  rw [← run_migrate hnames happlied] at hbetween
  exact hgrows.names_subset (hbetween.trans hsent) _ hrecorded

/-- A call that comes after another one finds what that one has recorded. -/
theorem mem_names_of_earlier [Clocks] (server : HistoryServer database transport)
    {earlier later : List MigrationCall} {call : MigrationCall} {name : String}
    (hdatabase : start.connection.config.database = database)
    (hcalls : ∀ call' ∈ earlier ++ call :: later, call'.package.IsHonest)
    (h : call.Records transport (afterCalls transport earlier start) name)
    {sent : List Request} (hgrows : server.Grows sent)
    (hsent : (afterCalls transport (earlier ++ call :: later) start).sent <+: sent) :
    name ∈ server.names sent call.package.name := by
  rw [List.forall_mem_append, List.forall_mem_cons] at hcalls
  obtain ⟨hearlier, hcall, hlater⟩ := hcalls
  have hconfig := (keeps_afterCalls transport start hearlier).2
  refine h.mem_names ((congrArg Config.database hconfig).trans hdatabase) hcall hgrows ?_
  rw [afterCalls_append] at hsent
  exact (keeps_afterCalls transport _ hlater).1.trans hsent

/-! ### Reading the history after calls -/

/-- A run whose reading of the history fails takes no step. -/
theorem run_migrate_error [Clocks] {p : Package} {e : ClientError}
    (hnames : (p.migrations.map Migration.name).Nodup)
    (happlied : (Action.appliedMigrations p.name).run transport client = (.error e, after))
    (today : Calendar.Date) (bound : Nat) :
    (Action.migrate p today bound).run transport client = (.error e, after) := by
  rw [Action.migrate, checkNames_eq_ok hnames, Action.run_bind_ok (Action.run_ofResult _),
    Action.run_bind_error happlied]

/-- Names that have been read are those recorded before the query, unless they are blank. -/
theorem mem_applied_iff [Clocks] (server : HistoryServer database transport) {package : String}
    {applied : List String} {started : Client}
    (hdatabase : client.connection.config.database = database)
    (hplain : Placeholder.occurs package.toList = false)
    (happlied : (Action.appliedMigrations package).run transport client
      = (.ok applied, started)) :
    ∃ sent r, started.sent = sent ++ [r] ∧ client.sent <+: sent ∧
      ∀ name, name ∈ applied ↔
        name ∈ server.names sent package ∧ isFilled (Tsv.escape name) = true := by
  obtain ⟨created, response, hcreate, hanswer, hsuccess, rfl⟩ :=
    Action.appliedMigrations_eq_ok happlied
  obtain ⟨hsent, -⟩ := Action.Composed.keeps
    (fun _ => Action.composed_createTable HistoryRecord.schema) transport client
  rw [hcreate] at hsent
  have hcompared := (HistoryQuery.comparedName?_eq_some_iff database package).2 hplain
  obtain ⟨applied', hrun, hmem⟩ :=
    Action.run_appliedMigrations server hdatabase hcreate hcompared hanswer hsuccess
  rw [happlied] at hrun
  obtain rfl := Except.ok.inj (Prod.ext_iff.1 hrun).1
  exact ⟨created.sent, _, rfl, hsent, hmem⟩

/-- After any calls, the names read for a package are those recorded for the package that the server
reads from the query, except those that are written as blank lines; this is the package asked for
exactly if no placeholder occurs in its name. For such a package the next run takes the migrations
that are not recorded for it, and none that a call before has recorded, unless its name is blank. -/
theorem history_of_calls [Clocks] (server : HistoryServer database transport)
    {calls : List MigrationCall} (hdatabase : start.connection.config.database = database)
    (hcalls : ∀ call ∈ calls, call.package.IsHonest)
    (hclient : afterCalls transport calls start = client) (p : Package) (today : Calendar.Date)
    (bound : Nat) :
    (∀ {created response compared},
      (Action.createTable HistoryRecord.schema).run transport client = (.ok (), created) →
      transport created.sent (HistoryQuery.request created.connection p.name) = .ok response →
      response.isSuccess = true →
      HistoryQuery.comparedName? database (HistoryQuery.statement database p.name)
        = some compared →
      ∃ applied after, (Action.appliedMigrations p.name).run transport client
          = (.ok applied, after) ∧
        (∀ name, name ∈ applied ↔
          name ∈ server.names created.sent compared ∧ isFilled (Tsv.escape name) = true) ∧
        ((∀ name, name ∈ applied ↔ name ∈ server.names created.sent compared) ↔
          ∀ name ∈ server.names created.sent compared, isFilled (Tsv.escape name) = true)) ∧
    (HistoryQuery.comparedName? database (HistoryQuery.statement database p.name) = some p.name ↔
      Placeholder.occurs p.name.toList = false) ∧
    ((p.migrations.map Migration.name).Nodup →
      (∀ {e after},
        (Action.appliedMigrations p.name).run transport client = (.error e, after) →
        (Action.migrate p today bound).run transport client = (.error e, after)) ∧
      ∀ {applied started}, Placeholder.occurs p.name.toList = false →
        (Action.appliedMigrations p.name).run transport client = (.ok applied, started) →
        ∃ sent r pending plan, started.sent = sent ++ [r] ∧ client.sent <+: sent ∧
          pending.Perm (p.migrations.filter fun m =>
            ¬(m.name ∈ server.names sent p.name ∧ isFilled (Tsv.escape m.name) = true)) ∧
          pending.Pairwise Before ∧ IsPlan bound pending plan ∧
          (∀ result, (Action.migrate p today bound).run transport client = result ↔
            Outcome p.name today transport plan started result) ∧
          (server.Grows sent → ∀ {earlier call later name}, calls = earlier ++ call :: later →
            call.package.name = p.name →
            call.Records transport (afterCalls transport earlier start) name →
            isFilled (Tsv.escape name) = true → ∀ m ∈ plan, m.name ≠ name)) := by
  have hconfig := (keeps_afterCalls transport start hcalls).2
  rw [hclient] at hconfig
  have hdatabase' := (congrArg Config.database hconfig).trans hdatabase
  refine ⟨fun {created response compared} hcreate hanswer hsuccess hcompared => ?_,
    HistoryQuery.comparedName?_eq_some_iff database p.name, fun hnames =>
    ⟨fun herror => run_migrate_error hnames herror today bound,
      fun {applied started} hplain happlied => ?_⟩⟩
  · obtain ⟨applied, hrun, hmem⟩ :=
      Action.run_appliedMigrations server hdatabase' hcreate hcompared hanswer hsuccess
    refine ⟨applied, _, hrun, hmem, fun hexact name hname => ?_, fun hfilled name => ?_⟩
    · exact ((hmem name).1 ((hexact name).2 hname)).2
    · rw [hmem name, and_iff_left_of_imp (hfilled name)]
  · obtain ⟨sent, r, hsent, hpre, hmem⟩ := mem_applied_iff server hdatabase' hplain happlied
    obtain ⟨pending, plan, hperm, hpairwise, hplan, hrun, -⟩ :=
      run_migrate_eq_iff hnames happlied today bound
    refine ⟨sent, r, pending, plan, hsent, hpre, ?_, hpairwise, hplan, hrun, ?_⟩
    · rwa [List.filter_congr fun m _ => decide_eq_decide.2 (not_congr (hmem m.name))] at hperm
    · rintro hgrows earlier call later name rfl hname hrecords hfilled m hm rfl
      have hpending := hperm.mem_iff.1 (hplan.isPrefix.subset hm)
      have hnew : m.name ∉ applied := by simpa using (List.mem_filter.1 hpending).2
      have hrecorded := mem_names_of_earlier server hdatabase hcalls hrecords hgrows
        (hclient ▸ hpre)
      exact hnew ((hmem m.name).2 ⟨hname ▸ hrecorded, hfilled⟩)

/-! ### A server that keeps a history -/

/-- The answer to a query of the names recorded for a package. -/
def historyAnswer (pairs : List (String × String)) (package : String) : String :=
  Text.terminated ("module_name" :: "String" ::
    ((pairs.filter fun pair => pair.1 = package).map Prod.snd).map Tsv.escape)

/-- The pairs that are recorded after some requests, when there were some before them. -/
def keptPairs (database : String) (before : List (String × String)) (sent : List Request) :
    List (String × String) :=
  before ++ sent.flatMap (HistoryRecord.insertedPairs database)

theorem keptPairs_concat (database : String) (before : List (String × String))
    (sent : List Request) (r : Request) :
    keptPairs database before (sent ++ [r])
      = keptPairs database before sent ++ HistoryRecord.insertedPairs database r := by
  simp [keptPairs]

/-- A statement that does not begin like an insert makes no record. -/
theorem HistoryRecord.insertedPairs_eq_nil {r : Request} {statement : String} {c : Char}
    (hbody : r.body = .ofText statement) (hhead : statement.toList.head? = some c) (hc : c ≠ 'I') :
    insertedPairs database r = [] := by
  have hfront : (insertFront database).toList = 'I' :: (insertFront database).toList.tail := by
    simp only [insertFront, String.toList_append]
    rfl
  obtain ⟨rest, hrest⟩ := List.head?_eq_some_iff.1 hhead
  have hdrop : statement.toList.dropPrefix? (insertFront database).toList = none := by
    rw [hrest, hfront]
    simp [List.dropPrefix?, hc]
  rw [insertedPairs, hbody, Body.read_ofText, Text.decodeUtf8?_encodeUtf8, Option.bind_some, hdrop]

/-- A transport that does nothing but keep a history. -/
def keepingTransport (database : String) (before : List (String × String)) : Transport where
  answer sent r :=
    match (Text.decodeUtf8? r.body.read.1).bind (HistoryQuery.comparedName? database) with
    | some package => .ok ⟨200, .ofText (historyAnswer (keptPairs database before sent) package)⟩
    | none => .ok ⟨200, []⟩

theorem keepingTransport_query {statement package : String}
    (h : HistoryQuery.comparedName? database statement = some package)
    (before : List (String × String)) (sent : List Request) (params : Settings) :
    keepingTransport database before sent ⟨params, .ofText statement⟩
      = .ok ⟨200, .ofText (historyAnswer (keptPairs database before sent) package)⟩ := by
  simp only [keepingTransport, Body.read_ofText, Text.decodeUtf8?_encodeUtf8, Option.bind_some, h]

/-- A server that keeps a history and does nothing else. -/
def keepingServer (database : String) (before : List (String × String)) :
    HistoryServer database (keepingTransport database before) where
  content := keptPairs database before
  stores {sent r _} _ _ := by
    rw [keptPairs, List.flatMap_append, List.flatMap_singleton]
    exact fun pair hpair => by simp [hpair]
  answers {sent params statement package response} hcompared hanswer _ := by
    rw [keepingTransport_query hcompared] at hanswer
    obtain rfl := Except.ok.inj hanswer
    exact ⟨_, List.Perm.refl _, Body.read_ofText _⟩

theorem grows_keepingServer (before : List (String × String)) (sent : List Request) :
    (keepingServer database before).Grows sent := by
  intro front r _
  have hcontent : (keepingServer database before).content = keptPairs database before := rfl
  rw [hcontent, keptPairs, keptPairs, List.flatMap_append, ← List.append_assoc]
  exact List.subset_append_left _ _

/-- Every text is answered with success and a whole body. -/
theorem keepingTransport_ofText (database : String) (before : List (String × String))
    (sent : List Request) (params : Settings) (text : String) :
    ∃ response bytes, keepingTransport database before sent ⟨params, .ofText text⟩
        = .ok response ∧ response.isSuccess = true ∧ response.body.drain = .ok bytes := by
  cases h : HistoryQuery.comparedName? database text with
  | some package =>
    rw [keepingTransport_query h]
    exact ⟨_, _, rfl, rfl, rfl⟩
  | none =>
    simp only [keepingTransport, Body.read_ofText, Text.decodeUtf8?_encodeUtf8, Option.bind_some, h]
    exact ⟨_, _, rfl, rfl, rfl⟩

/-- The table is created for any client that knows the server, and no record is made. -/
theorem run_createTable_keeping {known : Capabilities} (database : String)
    (before : List (String × String)) (hknown : client.connection.capabilities = some known) :
    ∃ created, (Action.createTable HistoryRecord.schema).run (keepingTransport database before)
        client = (.ok (), created) ∧
      created.connection = client.connection ∧
      keptPairs database before created.sent = keptPairs database before client.sent := by
  obtain ⟨engine, hcreatable⟩ : ∃ engine, HistoryRecord.schema.creatable = .ok engine := ⟨_, rfl⟩
  obtain ⟨statement, hstatement, hhead⟩ : ∃ statement,
      HistoryRecord.schema.createStatement client.connection.config.database known
        = .ok statement ∧ statement.toList.head? = some 'C' :=
    ⟨_, rfl, by simp only [String.toList_append]; rfl⟩
  obtain ⟨response, bytes, hanswer, hsuccess, hdrain⟩ := keepingTransport_ofText database before
    client.sent (client.connection.params {}) statement
  have hpairs : HistoryRecord.insertedPairs database
      (Action.request client.connection (.ofText statement) {}) = [] :=
    HistoryRecord.insertedPairs_eq_nil rfl hhead (by decide)
  refine ⟨{ client with
    sent := client.sent ++ [Action.request client.connection (.ofText statement) {}] }, ?_, rfl, ?_⟩
  · have hrun : (Action.dispatchText statement {}).run (keepingTransport database before) client
        = _ := Action.run_dispatchText statement {}
    rw [Action.request, hanswer, Action.replyText, ok_bind, Action.accepted, if_pos hsuccess,
      ok_bind, Body.text, hdrain] at hrun
    rw [Action.createTable, hcreatable, Action.run_bind_ok (Action.run_ofResult _),
      Action.run_bind_ok (Action.run_capabilities hknown),
      Action.run_bind_ok Action.run_connection, hstatement,
      Action.run_bind_ok (Action.run_ofResult _), Action.run_bind_ok hrun]
    rfl
  · rw [keptPairs_concat, hpairs, List.append_nil]

/-- A client that knows the server reads what is recorded. -/
theorem exists_appliedMigrations_keeping [Clocks] {known : Capabilities} {package compared : String}
    (before : List (String × String)) (hknown : client.connection.capabilities = some known)
    (hdatabase : client.connection.config.database = database)
    (hcompared : HistoryQuery.comparedName? database (HistoryQuery.statement database package)
      = some compared) :
    ∃ applied after, (Action.appliedMigrations package).run (keepingTransport database before)
        client = (.ok applied, after) ∧ after.connection = client.connection ∧
      ∀ name, name ∈ applied ↔ (compared, name) ∈ keptPairs database before client.sent ∧
        isFilled (Tsv.escape name) = true := by
  obtain ⟨created, hcreate, hconnection, hkept⟩ := run_createTable_keeping database before hknown
  have hcreated : created.connection.config.database = database := by rw [hconnection, hdatabase]
  have hanswer := keepingTransport_query hcompared before created.sent
    (created.connection.params {})
  rw [← HistoryQuery.request_eq hcreated] at hanswer
  obtain ⟨applied, hrun, hmem⟩ := Action.run_appliedMigrations (keepingServer database before)
    hdatabase hcreate hcompared hanswer rfl
  refine ⟨applied, _, hrun, hconnection, fun name => ?_⟩
  rw [hmem name, HistoryServer.mem_names, ← hkept]
  rfl

/-- A client that knows the server records what it asks for. -/
theorem run_insertHistory_keeping {known : Capabilities} {database : String}
    (before : List (String × String)) (hknown : client.connection.capabilities = some known)
    (hdatabase : client.connection.config.database = database) (r : HistoryRecord) :
    ∃ after, (Action.insertHistory [r]).run (keepingTransport database before) client
        = (.ok (), after) ∧ after.connection = client.connection ∧
      keptPairs database before after.sent
        = keptPairs database before client.sent ++ [(r.package, r.migration)] := by
  obtain ⟨response, bytes, hanswer, hsuccess, hdrain⟩ := keepingTransport_ofText database before
    client.sent (client.connection.params {}) (client.connection.fill (some HistoryRecord.schema)
      HistoryRecord.schema.insertHeader ++ (r.line ++ "\n"))
  refine ⟨_, Action.run_insertHistory hknown hanswer hsuccess hdrain, rfl, ?_⟩
  rw [keptPairs_concat, HistoryRecord.insertedPairs_line]
  rw [← hdatabase, ← HistoryRecord.fill_insertHeader]
  rfl

/-! ### Examples -/

/-- A call to apply one migration that has no operations. -/
def startCall : MigrationCall where
  package := { name := "app", migrations := [{ name := "0001_start" }] }
  today := .epoch
  bound := Action.lastMigration

theorem plan_startCall :
    upTo startCall.bound (startCall.package.pending []) = [{ name := "0001_start" }] := by
  have hpending : startCall.package.pending [] = [{ name := "0001_start" }] := by
    simp [startCall, Package.pending]
  rw [hpending, upTo]
  split <;> rfl

/-- In an empty history the call finds nothing and records its migration. -/
theorem records_startCall :
    ∃ after, startCall.Records (keepingTransport "shop" []) shopClient "0001_start" ∧
      startCall.action.run (keepingTransport "shop" []) shopClient = (.ok ["0001_start"], after) ∧
      after.connection = shopClient.connection := by
  have hnames : (startCall.package.migrations.map Migration.name).Nodup := by decide
  have hcompared : HistoryQuery.comparedName? "shop" (HistoryQuery.statement "shop" "app")
      = some "app" := (HistoryQuery.comparedName?_eq_some_iff "shop" "app").2 (by decide)
  obtain ⟨applied, started, happlied, hstarted, hmem⟩ :
      ∃ applied started, (Action.appliedMigrations startCall.package.name).run
        (keepingTransport "shop" []) shopClient = (.ok applied, started) ∧ _ :=
    exists_appliedMigrations_keeping [] rfl rfl hcompared
  obtain rfl : applied = [] := by
    rw [List.eq_nil_iff_forall_not_mem]
    exact fun name hname => absurd ((hmem name).1 hname).1 (by simp [keptPairs, shopClient])
  have hknown : started.connection.capabilities = some .fallback := by rw [hstarted]; rfl
  have hdatabase : started.connection.config.database = "shop" := by rw [hstarted]; rfl
  obtain ⟨after, hinsert, hafter, -⟩ := run_insertHistory_keeping [] hknown hdatabase
    ⟨"app", "0001_start", .epoch⟩
  have hsteps : (takeSteps "app" .epoch [.record { name := "0001_start" }]).run
      (keepingTransport "shop" []) started = (.ok (), after) := by
    have hcons : takeSteps "app" .epoch [.record { name := "0001_start" }]
        = Action.insertHistory [⟨"app", "0001_start", .epoch⟩] >>= fun _ => pure () := rfl
    rw [hcons, Action.run_bind_ok hinsert]
    rfl
  refine ⟨after, ⟨[], started, [], _, [], after, hnames, happlied, ?_, rfl, hsteps⟩, ?_, ?_⟩
  · rw [MigrationCall.steps, plan_startCall]
    rfl
  · rw [MigrationCall.action, run_migrate hnames happlied, plan_startCall]
    exact run_runPlan_of_outcome (.finished ⟨hsteps, rfl⟩)
  · rw [hafter, hstarted]

theorem history_of_calls_app :
    shopClient.connection.config.database = "shop" ∧ startCall.package.IsHonest ∧
      startCall.Records (keepingTransport "shop" []) shopClient "0001_start" ∧
      ∃ applied started plan, (Action.appliedMigrations "app").run (keepingTransport "shop" [])
          (afterCalls (keepingTransport "shop" []) [startCall] shopClient)
        = (.ok applied, started) ∧
      (∀ result, (Action.migrate startCall.package .epoch 9999).run (keepingTransport "shop" [])
          (afterCalls (keepingTransport "shop" []) [startCall] shopClient) = result ↔
        Outcome "app" .epoch (keepingTransport "shop" []) plan started result) ∧
      ∀ m ∈ plan, m.name ≠ "0001_start" := by
  have hhonest : startCall.package.IsHonest := by simp [startCall, Package.IsHonest]
  have hcalls : ∀ call ∈ [startCall], call.package.IsHonest := by simpa using hhonest
  have hplain : Placeholder.occurs startCall.package.name.toList = false := by decide
  have hnames : (startCall.package.migrations.map Migration.name).Nodup := by decide
  have hcompared := (HistoryQuery.comparedName?_eq_some_iff "shop" "app").2 hplain
  obtain ⟨after, hrecords, hrun, hafter⟩ := records_startCall
  have hclient : afterCalls (keepingTransport "shop" []) [startCall] shopClient = after := by
    rw [afterCalls, List.foldl_cons, List.foldl_nil, hrun]
  obtain ⟨applied, started, happlied, -⟩ := exists_appliedMigrations_keeping []
    (by rw [hafter]; rfl) (by rw [hafter]; rfl) hcompared
  obtain ⟨-, -, hruns⟩ := history_of_calls (keepingServer "shop" []) rfl hcalls hclient
    startCall.package .epoch 9999
  obtain ⟨sent, r, pending, plan, -, -, -, -, -, hmigrate, hnew⟩ := (hruns hnames).2 hplain happlied
  rw [hclient]
  exact ⟨rfl, hhonest, hrecords, applied, started, plan, happlied, hmigrate,
    hnew (grows_keepingServer [] sent) (List.nil_append [startCall]).symm rfl hrecords (by decide)⟩

/-- A server with records of two packages. -/
def mixedPairs : List (String × String) := [("a$$b", "0001_start"), ("app", " ")]

/-- Of two dollar signs in the name of a package one is lost, and a blank name is passed over. -/
theorem history_not_read_back :
    (∃ applied after, (Action.appliedMigrations "a$$b").run (keepingTransport "shop" mixedPairs)
        shopClient = (.ok applied, after) ∧ "0001_start" ∉ applied) ∧
      ∃ applied after, (Action.appliedMigrations "app").run (keepingTransport "shop" mixedPairs)
        shopClient = (.ok applied, after) ∧ " " ∉ applied := by
  have hknown : shopClient.connection.capabilities = some .fallback := rfl
  have hdatabase : shopClient.connection.config.database = "shop" := rfl
  have hdoubled : HistoryQuery.comparedName? "shop" (HistoryQuery.statement "shop" "a$$b")
      = some "a$b" := by
    have hescaped : Tsv.escapeChars "a$$b".toList ++ '\'' :: HistoryQuery.back
        = 'a' :: '$' :: '$' :: ('b' :: '\'' :: HistoryQuery.back) := rfl
    rw [HistoryQuery.comparedName?, HistoryQuery.dropPrefix?_statement, hescaped,
      Placeholder.fillChars_cons (by decide), Placeholder.fillChars_dollar_dollar,
      Placeholder.fillChars_eq_self (by decide)]
    rfl
  have happ := (HistoryQuery.comparedName?_eq_some_iff "shop" "app").2 (by decide)
  obtain ⟨names, after, hrun, -, hmem⟩ :=
    exists_appliedMigrations_keeping mixedPairs hknown hdatabase hdoubled
  obtain ⟨names', after', hrun', -, hmem'⟩ :=
    exists_appliedMigrations_keeping mixedPairs hknown hdatabase happ
  refine ⟨⟨names, after, hrun, fun h => ?_⟩, names', after', hrun', fun h => ?_⟩
  · exact absurd ((hmem _).1 h).1 (by simp [keptPairs, mixedPairs, shopClient])
  · exact absurd ((hmem' _).1 h).2 (by decide)

end Columnar
