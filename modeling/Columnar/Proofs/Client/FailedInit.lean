import Columnar.Proofs.Client.ReadOnly

/-!
What a failed attempt leaves behind.

An attempt takes in what it is told as it goes on: whether the database exists, and whether the
server lets the connection only read. An error further on takes nothing of it back, and the next
attempt asks with the parameters that follow from it (`Action.connection_of_failed_init`). Its first
question names the database then, and where the server has let the connection write, the question
about that goes out with the wish to read only (`Action.asked_with_another_state`).
-/

namespace Columnar

/-! ### What is learnt -/

/-- What an attempt has been told before it ended. -/
structure Learnt where
  databaseExists : Option Bool := none
  isServerReadOnly : Option Bool := none
  deriving DecidableEq, Repr

/-- The connection with what has been learnt; a client that is told whether it may only read wishes
to read only from then on. -/
def Connection.learning (c : Connection) (l : Learnt) : Connection :=
  { c with
    databaseExists := l.databaseExists.getD c.databaseExists
    isReadOnly := c.isReadOnly || l.isServerReadOnly.isSome
    isServerReadOnly := l.isServerReadOnly.getD c.isServerReadOnly }

/-- The connection has taken in before what is learnt. -/
structure Connection.Agrees (c : Connection) (l : Learnt) : Prop where
  databaseExists : ∀ b, l.databaseExists = some b → c.databaseExists = b
  isReadOnly : l.isServerReadOnly.isSome = true → c.isReadOnly = true
  isServerReadOnly : ∀ b, l.isServerReadOnly = some b → c.isServerReadOnly = b

/-- What an attempt learns once it has been told whether the database exists. -/
def Client.learntOfAccess (client : Client) (transport : Transport) : Bool → Learnt
  | true =>
    if client.connection.config.isReadOnly then
      match (client.informed true).reply transport Question.readOnly with
      | .error _ => { databaseExists := some true }
      | .ok word =>
        { databaseExists := some true, isServerReadOnly := some (Text.trimText word != "0") }
    else { databaseExists := some true }
  | false =>
    if client.connection.config.autoCreate && !client.connection.config.isReadOnly then
      match (client.informed false).reply transport
          (Question.creation client.connection.config) with
      | .error _ => { databaseExists := some false }
      | .ok _ => { databaseExists := some true }
    else { databaseExists := some false }

/-- What an attempt learns from the replies to its questions. -/
def Client.learnt (client : Client) (transport : Transport) : Learnt :=
  match client.reply transport (Question.existence client.connection.config.database) with
  | .error _ => {}
  | .ok text => client.learntOfAccess transport (Text.trimText text = "1")

theorem Connection.learning_eq_self_iff (c : Connection) (l : Learnt) :
    c.learning l = c ↔ c.Agrees l := by
  constructor
  · intro h
    have hexists := congrArg Connection.databaseExists h
    have hread := congrArg Connection.isReadOnly h
    have hserver := congrArg Connection.isServerReadOnly h
    simp only [learning] at hexists hread hserver
    refine ⟨fun b hb => ?_, fun hsome => ?_, fun b hb => ?_⟩
    · rw [← hexists, hb, Option.getD_some]
    · rw [← hread, hsome, Bool.or_true]
    · rw [← hserver, hb, Option.getD_some]
  · rintro ⟨hexists, hread, hserver⟩
    obtain ⟨config, settings, found, wish, word, capabilities⟩ := c
    rcases l with ⟨_ | b, _ | w⟩ <;> simp_all [learning]

/-- Of a new connection nothing is left to learn unless the database exists. -/
theorem Client.agrees_new_iff {client : Client} (transport : Transport)
    (hnew : client.connection = { config := client.connection.config }) :
    client.connection.Agrees (client.learnt transport) ↔
      (client.learnt transport).databaseExists ≠ some true := by
  have hword : (client.learnt transport).isServerReadOnly ≠ none →
      (client.learnt transport).databaseExists = some true := by
    rw [learnt]
    split
    · simp
    · rw [learntOfAccess.eq_def]
      repeat' split
      all_goals simp
  have hexists : client.connection.databaseExists = false := by rw [hnew]
  constructor
  · intro h htrue
    have hold := h.databaseExists true htrue
    rw [hexists] at hold
    exact Bool.false_ne_true hold
  · intro h
    have hnone : (client.learnt transport).isServerReadOnly = none := by
      by_contra hsome
      exact h (hword hsome)
    refine ⟨fun b hb => ?_, fun hsome => ?_, fun b hb => ?_⟩
    · cases b with
      | true => exact absurd hb h
      | false => exact hexists
    · rw [hnone] at hsome
      exact absurd hsome Bool.false_ne_true
    · rw [hnone] at hb
      exact absurd hb (by simp)

namespace Action

variable {transport : Transport} {client after : Client}

/-! ### What the probe takes in -/

theorem connection_inquire (transport : Transport) (client : Client) :
    (inquire.run transport client).2.connection = client.connection := by
  obtain ⟨asked, result, hrun, -⟩ := inquiry_inquire transport client
  rw [hrun]

/-- What is asked behind the settling of access leaves the connection as it is by then. -/
theorem connection_bind_inquire (m : Action Unit) (transport : Transport) (client : Client) :
    ((m >>= fun _ => inquire).run transport client).2.connection
      = (m.run transport client).2.connection := by
  rw [run_bind]
  rcases m.run transport client with ⟨_ | _, between⟩
  · rfl
  · exact connection_inquire transport between

/-- The settling of access takes in what it learns. -/
theorem connection_settleAccess (transport : Transport) (client : Client) (databaseExists : Bool) :
    ((settleAccess databaseExists).run transport (client.informed databaseExists)).2.connection
      = client.connection.learning (client.learntOfAccess transport databaseExists) := by
  cases databaseExists with
  | true =>
    rw [Client.learntOfAccess, ← client.config_informed true]
    cases hread : (client.informed true).connection.config.isReadOnly with
    | true =>
      rw [run_settleAccess_readOnly hread]
      cases (client.informed true).reply transport Question.readOnly <;>
        simp [Connection.learning, Client.sending, Client.informed, settled]
    | false =>
      rw [run_settleAccess_untouched hread (.inl rfl)]
      simp [Connection.learning, Client.informed]
  | false =>
    rw [Client.learntOfAccess, ← client.config_informed false]
    cases hread : (client.informed false).connection.config.isReadOnly with
    | true =>
      rw [run_settleAccess_missing hread]
      simp [Connection.learning, Client.informed]
    | false =>
      cases hauto : (client.informed false).connection.config.autoCreate with
      | true =>
        rw [run_settleAccess_created hread hauto, run_createDatabaseUnprobed]
        cases (client.informed false).reply transport
            (Question.creation (client.informed false).connection.config) <;>
          simp [Connection.learning, Client.sending, Client.informed]
      | false =>
        rw [run_settleAccess_untouched hread (.inr hauto)]
        simp [Connection.learning, Client.informed]

/-- The probe takes in what it learns, whether it succeeds or fails. -/
theorem connection_probe (transport : Transport) (client : Client) :
    (probe.run transport client).2.connection
      = client.connection.learning (client.learnt transport) := by
  cases hreply : client.reply transport (Question.existence client.connection.config.database) with
  | error e =>
    rw [run_probe_of_error hreply, Client.learnt, hreply]
    simp [Connection.learning, Client.sending]
  | ok text =>
    rw [run_probe_of_ok hreply, connection_bind_inquire, connection_settleAccess, Client.learnt,
      hreply]

/-! ### Failed attempts -/

/-- A client that does not know its server probes it, and knows it if the probe succeeds. -/
theorem run_init_unknown (hunknown : client.connection.capabilities = none) :
    init.run transport client =
      match probe.run transport client with
      | (.ok server, between) => (.ok (), { between with
          connection := { between.connection with capabilities := some server } })
      | (.error e, between) => (.error e, between) := by
  have hmap : init = (fun _ => ()) <$> capabilities := rfl
  rw [hmap, run_map, capabilities, run_bind_ok run_connection, hunknown]
  simp only [run_bind]
  rcases probe.run transport client with ⟨_ | _, _⟩ <;> rfl

theorem run_probe_of_failed {e : ClientError} (hunknown : client.connection.capabilities = none)
    (hfail : init.run transport client = (.error e, after)) :
    probe.run transport client = (.error e, after) := by
  rw [run_init_unknown hunknown] at hfail
  split at hfail
  · exact absurd (Prod.ext_iff.1 hfail).1 (by simp)
  · next hprobe =>
    obtain ⟨hcause, rfl⟩ := Prod.ext_iff.1 hfail
    rw [hprobe, Except.error.inj hcause]

/-- An attempt begins with the question whether the database exists. -/
theorem exists_sent_probe (transport : Transport) (client : Client) :
    ∃ rest, (probe.run transport client).2.sent = client.sent ++ request client.connection
      (.ofText (Question.existence client.connection.config.database)) {} :: rest := by
  cases hreply : client.reply transport (Question.existence client.connection.config.database) with
  | error e =>
    refine ⟨[], ?_⟩
    rw [run_probe_of_error hreply, Client.sent_sending]
  | ok text =>
    obtain ⟨asked, access, between, hsettle, hsent, -⟩ := access_settleAccess transport
      (client.informed (Text.trimText text = "1")) (Text.trimText text = "1")
    rw [Client.sent_informed, List.append_assoc, List.singleton_append] at hsent
    rw [run_probe_of_ok hreply]
    cases access with
    | error e =>
      rw [run_bind_error hsettle]
      exact ⟨asked, hsent⟩
    | ok _ =>
      obtain ⟨more, result, hinquire, -⟩ := inquiry_inquire transport between
      refine ⟨asked ++ more, ?_⟩
      rw [run_bind_ok hsettle, hinquire]
      simp [hsent]

theorem exists_sent_init (transport : Transport)
    (hunknown : client.connection.capabilities = none) :
    ∃ rest, (init.run transport client).2.sent = client.sent ++ request client.connection
      (.ofText (Question.existence client.connection.config.database)) {} :: rest := by
  obtain ⟨rest, hrest⟩ := exists_sent_probe transport client
  refine ⟨rest, ?_⟩
  rw [run_init_unknown hunknown, ← hrest]
  rcases probe.run transport client with ⟨_ | _, _⟩ <;> rfl

/-- What a failed attempt has learnt stays, and so the connection is as it was before exactly if the
attempt has learnt nothing new: for a new connection, if it has not found the database. The next
attempt asks with the parameters of the connection that is left. -/
theorem connection_of_failed_init {e : ClientError}
    (hunknown : client.connection.capabilities = none)
    (hfail : init.run transport client = (.error e, after)) :
    let learnt := client.learnt transport
    let left := client.connection.learning learnt
    after.connection = left ∧
      (after.connection = client.connection ↔ client.connection.Agrees learnt) ∧
      (client.connection = { config := client.connection.config } →
        (after.connection = client.connection ↔ learnt.databaseExists ≠ some true)) ∧
      ∃ rest, (init.run transport after).2.sent = after.sent ++
        request left (.ofText (Question.existence left.config.database)) {} :: rest := by
  intro learnt left
  have hprobe := run_probe_of_failed hunknown hfail
  have hleft : after.connection = left := by
    have hconnection := connection_probe transport client
    rwa [hprobe] at hconnection
  have hagrees : after.connection = client.connection ↔ client.connection.Agrees learnt := by
    rw [hleft]
    exact client.connection.learning_eq_self_iff learnt
  have hleftUnknown : after.connection.capabilities = none := by
    rw [hleft]
    exact hunknown
  refine ⟨hleft, hagrees, fun hnew => hagrees.trans (Client.agrees_new_iff transport hnew), ?_⟩
  obtain ⟨rest, hrest⟩ := exists_sent_init transport hleftUnknown
  rw [hleft] at hrest
  exact ⟨rest, hrest⟩

/-- A server that cannot be reached for the question whether it lets the connection only read. -/
def unreachedWord : Transport where
  answer _ r :=
    if r.body.read.1 = Text.encodeUtf8 Question.readOnly then .error (.connection "reset")
    else .ok ⟨200, .ofText "1\n"⟩

theorem connection_of_failed_init_reading :
    ∃ after, init.run unreachedWord ⟨{ config := readingConfig }, []⟩
        = (.error (.connection "reset"), after) ∧
      after.connection = { config := readingConfig, databaseExists := true } ∧
      ∃ rest, (init.run unreachedWord after).2.sent = after.sent ++
        request { config := readingConfig, databaseExists := true }
          (.ofText (Question.existence "shop")) {} :: rest := by
  obtain ⟨after, hfail⟩ : ∃ after, init.run unreachedWord ⟨{ config := readingConfig }, []⟩
      = (.error (.connection "reset"), after) := ⟨_, rfl⟩
  obtain ⟨hleft, -, -, hnext⟩ := connection_of_failed_init rfl hfail
  exact ⟨after, hfail, hleft, hnext⟩

/-- A server that lets the connection write, and does not tell its version. -/
def brokenVersion : Transport where
  answer _ r :=
    if r.body.read.1 = Text.encodeUtf8 Question.readOnly then .ok ⟨200, .ofText "0\n"⟩
    else if r.body.read.1 = Text.encodeUtf8 Question.version then .error (.parse (.count ""))
    else .ok ⟨200, .ofText "1\n"⟩

/-- The first question of a second attempt names the database, and the second one goes out with the
wish to read only. -/
theorem asked_with_another_state :
    (∃ after q r, init.run unreachedWord ⟨{ config := readingConfig }, []⟩
        = (.error (.connection "reset"), after) ∧
      after.connection.databaseExists = true ∧
      after.sent[0]? = some q ∧ q.body = .ofText (Question.existence "shop") ∧ q.params = [] ∧
      (init.run unreachedWord after).2.sent[2]? = some r ∧ r.body = q.body ∧
      r.params = [("database", "shop")]) ∧
    ∃ after q r, init.run brokenVersion ⟨{ config := readingConfig }, []⟩
        = (.error (.parse (.count "")), after) ∧
      after.connection.isReadOnly = true ∧
      after.sent[1]? = some q ∧ q.body = .ofText Question.readOnly ∧
      q.params = [("database", "shop")] ∧
      (init.run brokenVersion after).2.sent[4]? = some r ∧ r.body = q.body ∧
      r.params = [("database", "shop"), ("readonly", "1")] :=
  ⟨⟨_, _, _, rfl, rfl, rfl, rfl, rfl, rfl, rfl, rfl⟩,
    _, _, _, rfl, rfl, rfl, rfl, rfl, rfl, rfl, rfl⟩

end Action

end Columnar
