import Columnar.Proofs.Client.Step
import Columnar.Proofs.Text.Numeral
import Columnar.Proofs.Tsv.Line

/-!
Attempts of the probe.

What one attempt asks depends on the configuration and on the replies: first whether the database
exists, then about access (`Access`), then about the version and the time zone (`Inquiry`). The
version is that of the first numbers of a reply (`Version.read?_eq_some_iff`). An attempt ends with
the first failure that it cannot do without (`Attempt`). Every run of the probe is such an attempt
(`attempt_probe`).
-/

namespace Columnar

/-! ### Versions -/

/-- The version comes after another one: by its major, then its minor, then its patch number. -/
def Version.IsAbove (v w : Version) : Prop :=
  w.major < v.major ∨ v.major = w.major ∧
    (w.minor < v.minor ∨ v.minor = w.minor ∧ w.patch < v.patch)

theorem Version.newerThan_iff (v w : Version) : v.newerThan w = true ↔ v.IsAbove w := by
  rcases v with ⟨a, b, c⟩
  rcases w with ⟨a', b', c'⟩
  simp only [newerThan, atLeast, IsAbove, Bool.and_eq_true, bne_iff_ne, ne_eq, mk.injEq]
  split
  · simp only [decide_eq_true_eq]
    omega
  split
  · simp only [decide_eq_true_eq]
    omega
  · simp only [decide_eq_true_eq]
    omega

/-- A part is a number if it consists of digits and fits into 32 bits. -/
theorem Version.number?_eq_some_iff {part : List Char} {n : Nat} : number? part = some n ↔
    part ≠ [] ∧ (∀ c ∈ part, c.isDigit = true) ∧ Text.digitsValue part = n ∧ n < 2 ^ 32 := by
  have hmax : n ≤ Text.wordMax 32 ↔ n < 2 ^ 32 := Nat.lt_iff_le_pred (by decide) |>.symm
  simp only [number?, Option.filter_eq_some_iff, Text.readDigits?_eq_some_iff, decide_eq_true_eq,
    hmax, and_assoc]

/-- The version is that of the first three numbers among the parts of a text between points, with
zeros where there are fewer; parts that are no numbers are passed over. -/
theorem Version.read?_eq_some_iff {text : String} {v : Version} : read? text = some v ↔
    ∃ parts first rest, parts ≠ [] ∧ (∀ part ∈ parts, '.' ∉ part) ∧
      ['.'].intercalate parts = Text.trim text.toList ∧
      parts.filterMap number? = first :: rest ∧ v = ⟨first, rest.getD 0 0, rest.getD 1 0⟩ := by
  have hread : ∀ parts, (Text.trim text.toList).splitOn '.' = parts →
      (read? text = some v ↔ ∃ first rest, parts.filterMap number? = first :: rest ∧
        v = ⟨first, rest.getD 0 0, rest.getD 1 0⟩) := by
    intro parts hparts
    rw [read?, hparts]
    rcases parts.filterMap number? with _ | ⟨major, _ | ⟨minor, _ | ⟨patch, rest⟩⟩⟩ <;>
      simp [eq_comm]
  constructor
  · intro h
    obtain ⟨first, rest, hnumbers, hv⟩ := (hread _ rfl).1 h
    exact ⟨_, first, rest, List.splitOn_ne_nil _ _, fun part hpart hpoint =>
      (Tsv.mem_of_mem_splitOn hpart hpoint).2 rfl, List.intercalate_splitOn _, hnumbers, hv⟩
  · rintro ⟨parts, first, rest, hne, hpoints, htext, hnumbers, hv⟩
    have hparts : (Text.trim text.toList).splitOn '.' = parts := by
      rw [← htext, List.splitOn_intercalate _ hpoints hne]
    exact (hread parts hparts).2 ⟨first, rest, hnumbers, hv⟩

/-! ### Statements and replies -/

/-- The statement that creates the database of a configuration. -/
def Question.creation (config : Config) : String :=
  "CREATE DATABASE IF NOT EXISTS " ++ backquoted config.database ++ " ENGINE = "
    ++ config.engine.sql

/-- A request with a statement that goes out behind some others, and the reply to it. -/
structure Asked (transport : Transport) (before : List Request) (statement : String) (r : Request)
    (reply : Result String) : Prop where
  body : r.body = .ofText statement
  reply : Action.replyText (transport before r) = reply

/-- What the probe makes of a reply that it can do without. -/
inductive Found {α : Type} (read? : String → Option α) (otherwise : α) :
    Result String → Result α → Prop
  /-- The reply can be read. -/
  | read {text : String} {a : α} (h : read? (Text.trimText text) = some a) :
      Found read? otherwise (.ok text) (.ok a)
  /-- The reply cannot be read. -/
  | unreadable {text : String} (h : read? (Text.trimText text) = none) :
      Found read? otherwise (.ok text) (.ok otherwise)
  /-- The server sent an error, or could not be reached. -/
  | unanswered {e : ClientError} (h : e.serverError?.isSome = true ∨ e.isConnectivity = true) :
      Found read? otherwise (.error e) (.ok otherwise)
  /-- Any other error ends the attempt. -/
  | failed {e : ClientError} (h : ¬ (e.serverError?.isSome = true ∨ e.isConnectivity = true)) :
      Found read? otherwise (.error e) (.error e)

/-! ### Attempts -/

section Attempts

variable (transport : Transport) (config : Config) (before : List Request)

/-- How access is settled once it is known whether the database exists. -/
inductive Access : Bool → List Request → Result Unit → Prop
  /-- There is nothing to read. -/
  | missing (hread : config.isReadOnly = true) :
      Access false [] (.error (.config .databaseMissing))
  /-- The server is asked whether it lets the connection only read. -/
  | readOnly {r : Request} {reply : Result String} (hread : config.isReadOnly = true)
      (hasked : Asked transport before Question.readOnly r reply) :
      Access true [r] (reply.map fun _ => ())
  /-- A missing database is created. -/
  | created {r : Request} {reply : Result String} (hread : config.isReadOnly = false)
      (hcreate : config.autoCreate = true)
      (hasked : Asked transport before (Question.creation config) r reply) :
      Access false [r] (reply.map fun _ => ())
  /-- The database exists, or is not to be created. -/
  | untouched {databaseExists : Bool} (hread : config.isReadOnly = false)
      (h : databaseExists = true ∨ config.autoCreate = false) :
      Access databaseExists [] (.ok ())

/-- How the version is found out, and the time zone of a server that can tell it. -/
inductive Inquiry : List Request → Result Capabilities → Prop
  | noVersion {r : Request} {reply : Result String} {e : ClientError}
      (hasked : Asked transport before Question.version r reply)
      (hfound : Found Version.read? .fallback reply (.error e)) :
      Inquiry [r] (.error e)
  | old {r : Request} {reply : Result String} {version : Version}
      (hasked : Asked transport before Question.version r reply)
      (hfound : Found Version.read? .fallback reply (.ok version))
      (hold : ¬ version.IsAbove .withoutTimeZone) :
      Inquiry [r] (.ok (.of version .utc))
  | zone {r q : Request} {reply answer : Result String} {version : Version}
      {zone : Result Calendar.Zone} (hasked : Asked transport before Question.version r reply)
      (hfound : Found Version.read? .fallback reply (.ok version))
      (hnew : version.IsAbove .withoutTimeZone)
      (hzone : Asked transport (before ++ [r]) Question.zone q answer)
      (hfoundZone : Found Calendar.Zone.ofName? .utc answer zone) :
      Inquiry [r, q] (zone.map (.of version))

/-- An attempt of the probe behind some requests: what it asks, and how it ends. -/
inductive Attempt : List Request → Result Capabilities → Prop
  | unanswered {r : Request} {e : ClientError}
      (hasked : Asked transport before (Question.existence config.database) r (.error e)) :
      Attempt [r] (.error e)
  | denied {r : Request} {text : String} {asked : List Request} {e : ClientError}
      (hasked : Asked transport before (Question.existence config.database) r (.ok text))
      (haccess : Access transport config (before ++ [r]) (Text.trimText text = "1") asked
        (.error e)) :
      Attempt (r :: asked) (.error e)
  | inquired {r : Request} {text : String} {asked more : List Request}
      {result : Result Capabilities}
      (hasked : Asked transport before (Question.existence config.database) r (.ok text))
      (haccess : Access transport config (before ++ [r]) (Text.trimText text = "1") asked (.ok ()))
      (hinquiry : Inquiry transport (before ++ r :: asked) more result) :
      Attempt (r :: asked ++ more) result

end Attempts

/-! ### Runs of the parts of the probe -/

/-- The client once it has sent a statement. -/
def Client.sending (client : Client) (statement : String) : Client :=
  { client with sent := client.sent ++ [Action.request client.connection (.ofText statement) {}] }

/-- What a client gets in reply to a statement. -/
def Client.reply (client : Client) (transport : Transport) (statement : String) : Result String :=
  Action.replyText
    (transport client.sent (Action.request client.connection (.ofText statement) {}))

/-- The client once it has asked whether the database exists, and knows the answer. -/
def Client.informed (client : Client) (databaseExists : Bool) : Client :=
  { client.sending (Question.existence client.connection.config.database) with
    connection := { client.connection with databaseExists } }

@[simp] theorem Client.sent_sending (client : Client) (statement : String) :
    (client.sending statement).sent
      = client.sent ++ [Action.request client.connection (.ofText statement) {}] := rfl

@[simp] theorem Client.sent_informed (client : Client) (databaseExists : Bool) :
    (client.informed databaseExists).sent = client.sent ++ [Action.request client.connection
      (.ofText (Question.existence client.connection.config.database)) {}] := rfl

@[simp] theorem Client.config_informed (client : Client) (databaseExists : Bool) :
    (client.informed databaseExists).connection.config = client.connection.config := rfl

@[simp] theorem Client.capabilities_informed (client : Client) (databaseExists : Bool) :
    (client.informed databaseExists).connection.capabilities
      = client.connection.capabilities := rfl

variable {transport : Transport} {client : Client}

theorem Client.asked_reply (transport : Transport) (client : Client) (statement : String) :
    Asked transport client.sent statement
      (Action.request client.connection (.ofText statement) {})
      (client.reply transport statement) :=
  ⟨rfl, rfl⟩

namespace Action

theorem run_ask (question : String) :
    (ask question).run transport client
      = ((client.reply transport question).map Text.trimText, client.sending question) := by
  have hask : ask question = Text.trimText <$> dispatchText question {} := rfl
  rw [hask, run_map, run_dispatchText]
  rfl

theorem run_askDatabaseExists :
    askDatabaseExists.run transport client
      = ((client.reply transport (Question.existence client.connection.config.database)).map
          fun text => decide (Text.trimText text = "1"),
        client.sending (Question.existence client.connection.config.database)) := by
  have hask : askDatabaseExists.run transport client
      = ((fun reply => decide (reply = "1")) <$> ask (Question.existence
          client.connection.config.database)).run transport client := rfl
  rw [hask, run_map, run_ask]
  cases client.reply transport (Question.existence client.connection.config.database) <;>
    simp [Except.map]

/-- A question that the probe can do without. -/
theorem found_ask? {α : Type} (transport : Transport) (client : Client)
    (read? : String → Option α) (otherwise : α) (question : String) :
    ∃ result, (do pure (((← ask? question).bind read?).getD otherwise) : Action α).run transport
        client = (result, client.sending question) ∧
      Found read? otherwise (client.reply transport question) result := by
  rw [run_bind, ask?, run_tryCatch, run_map, run_ask]
  cases client.reply transport question with
  | ok text =>
    refine ⟨.ok ((read? (Text.trimText text)).getD otherwise), rfl, ?_⟩
    cases hread : read? (Text.trimText text) with
    | some a => exact .read hread
    | none => exact .unreadable hread
  | error e =>
    by_cases hrecoverable : isRecoverable e = true
    · refine ⟨.ok otherwise, by simp [Except.map, hrecoverable], .unanswered ?_⟩
      simpa [isRecoverable] using hrecoverable
    · refine ⟨.error e, by simp [Except.map, hrecoverable], .failed ?_⟩
      simpa [isRecoverable] using hrecoverable

/-- What the probe asks once access is settled. -/
def inquire : Action Capabilities := do
  let version ← askVersion
  let zone ← if version.newerThan .withoutTimeZone then askZone else pure .utc
  pure (.of version zone)

theorem inquiry_inquire (transport : Transport) (client : Client) :
    ∃ asked result, inquire.run transport client
        = (result, { client with sent := client.sent ++ asked }) ∧
      Inquiry transport client.sent asked result := by
  obtain ⟨found, hrun, hfound⟩ := found_ask? transport client Version.read? .fallback
    Question.version
  have hasked := client.asked_reply transport Question.version
  have hversion : askVersion.run transport client = (found, client.sending Question.version) := hrun
  cases found with
  | error e =>
    exact ⟨_, _, run_bind_error hversion _, .noVersion hasked hfound⟩
  | ok version =>
    rw [inquire, run_bind_ok hversion]
    by_cases hnew : version.newerThan .withoutTimeZone = true
    · obtain ⟨zone, hzone, hfoundZone⟩ := found_ask? transport (client.sending Question.version)
        Calendar.Zone.ofName? .utc Question.zone
      have haskedZone := (client.sending Question.version).asked_reply transport Question.zone
      have hask : askZone.run transport (client.sending Question.version)
          = (zone, (client.sending Question.version).sending Question.zone) := hzone
      refine ⟨_, _, ?_, .zone hasked hfound ((Version.newerThan_iff _ _).1 hnew) haskedZone
        hfoundZone⟩
      simp only [hnew, if_true, run_bind, hask]
      cases zone <;> simp [Except.map, Client.sending]
    · refine ⟨_, _, ?_, .old hasked hfound fun h => hnew ((Version.newerThan_iff _ _).2 h)⟩
      simp [hnew, Client.sending]

/-- Without leave to write, a database that does not exist ends the attempt. -/
theorem run_settleAccess_missing (hread : client.connection.config.isReadOnly = true) :
    (settleAccess false).run transport client = (.error (.config .databaseMissing), client) := by
  rw [settleAccess, run_bind_ok run_connection]
  simp [hread, run_bind]

/-- What is known after the server has told whether it lets the connection only read. -/
def settled (c : Connection) (text : String) : Connection :=
  { c with isServerReadOnly := Text.trimText text != "0", isReadOnly := true }

/-- Without leave to write, the server is asked whether it lets the connection write. -/
theorem run_settleAccess_readOnly (hread : client.connection.config.isReadOnly = true) :
    (settleAccess true).run transport client =
      match client.reply transport Question.readOnly with
      | .ok text => (.ok (), { client.sending Question.readOnly with
          connection := settled client.connection text })
      | .error e => (.error e, client.sending Question.readOnly) := by
  have hask : askServerReadOnly.run transport client
      = ((· != "0") <$> ask Question.readOnly).run transport client := rfl
  rw [settleAccess, run_bind_ok run_connection]
  simp only [hread, if_true, Bool.not_true, Bool.false_eq_true, if_false]
  rw [run_bind, hask, run_map, run_ask]
  cases client.reply transport Question.readOnly <;> rfl

theorem run_createDatabaseUnprobed :
    createDatabaseUnprobed.run transport client =
      match client.reply transport (Question.creation client.connection.config) with
      | .ok _ => (.ok (), { client.sending (Question.creation client.connection.config) with
          connection := { client.connection with databaseExists := true } })
      | .error e => (.error e, client.sending (Question.creation client.connection.config)) := by
  have hcreate : createDatabaseUnprobed.run transport client
      = (dispatchText (Question.creation client.connection.config) {} >>= fun _ =>
          changeConnection fun c => { c with databaseExists := true }).run transport client := rfl
  rw [hcreate, run_bind, run_dispatchText, Client.reply]
  cases replyText (transport client.sent (request client.connection
    (.ofText (Question.creation client.connection.config)) {})) <;> rfl

/-- Where it may be written, a database that does not exist is created. -/
theorem run_settleAccess_created (hread : client.connection.config.isReadOnly = false)
    (hauto : client.connection.config.autoCreate = true) :
    (settleAccess false).run transport client = createDatabaseUnprobed.run transport client := by
  rw [settleAccess, run_bind_ok run_connection]
  simp [hread, hauto]

/-- A database that exists, or is not to be created, is left alone. -/
theorem run_settleAccess_untouched {databaseExists : Bool}
    (hread : client.connection.config.isReadOnly = false)
    (h : databaseExists = true ∨ client.connection.config.autoCreate = false) :
    (settleAccess databaseExists).run transport client = (.ok (), client) := by
  rw [settleAccess, run_bind_ok run_connection]
  rcases h with rfl | hauto
  · simp [hread]
  · simp [hread, hauto]

theorem access_settleAccess (transport : Transport) (client : Client) (databaseExists : Bool) :
    ∃ asked result after, (settleAccess databaseExists).run transport client = (result, after) ∧
      after.sent = client.sent ++ asked ∧
      after.connection.capabilities = client.connection.capabilities ∧
      Access transport client.connection.config client.sent databaseExists asked result := by
  cases hread : client.connection.config.isReadOnly with
  | true =>
    cases databaseExists with
    | false =>
      exact ⟨[], _, client, run_settleAccess_missing hread, by simp, rfl, .missing hread⟩
    | true =>
      have hasked := client.asked_reply transport Question.readOnly
      have haccess := Access.readOnly hread hasked
      rw [run_settleAccess_readOnly hread]
      cases hreply : client.reply transport Question.readOnly with
      | ok text =>
        rw [hreply] at haccess
        exact ⟨_, _, _, rfl, rfl, rfl, haccess⟩
      | error e =>
        rw [hreply] at haccess
        exact ⟨_, _, _, rfl, rfl, rfl, haccess⟩
  | false =>
    by_cases hcreate : client.connection.config.autoCreate = true ∧ databaseExists = false
    · obtain ⟨hauto, rfl⟩ := hcreate
      have hasked := client.asked_reply transport (Question.creation client.connection.config)
      have haccess := Access.created hread hauto hasked
      rw [run_settleAccess_created hread hauto, run_createDatabaseUnprobed]
      cases hreply : client.reply transport (Question.creation client.connection.config) with
      | ok text =>
        rw [hreply] at haccess
        exact ⟨_, _, _, rfl, rfl, rfl, haccess⟩
      | error e =>
        rw [hreply] at haccess
        exact ⟨_, _, _, rfl, rfl, rfl, haccess⟩
    · have huntouched : databaseExists = true ∨ client.connection.config.autoCreate = false := by
        cases databaseExists <;> simp_all
      exact ⟨[], .ok (), client, run_settleAccess_untouched hread huntouched, by simp, rfl,
        .untouched hread huntouched⟩

/-! ### Runs of the probe -/

theorem probe_eq : probe = askDatabaseExists >>= fun databaseExists =>
    (changeConnection fun c => { c with databaseExists }) >>= fun _ =>
      settleAccess databaseExists >>= fun _ => inquire := rfl

/-- Without a reply to the first question the attempt is over. -/
theorem run_probe_of_error {e : ClientError}
    (h : client.reply transport (Question.existence client.connection.config.database) = .error e) :
    probe.run transport client
      = (.error e, client.sending (Question.existence client.connection.config.database)) := by
  rw [probe_eq, run_bind, run_askDatabaseExists, h]
  rfl

/-- The reply to the first question tells whether the database exists. -/
theorem run_probe_of_ok {text : String}
    (h : client.reply transport (Question.existence client.connection.config.database) = .ok text) :
    probe.run transport client
      = (settleAccess (Text.trimText text = "1") >>= fun _ => inquire).run transport
          (client.informed (Text.trimText text = "1")) := by
  rw [probe_eq, run_bind, run_askDatabaseExists, h]
  rfl

/-- A run of the probe is an attempt, and it does not yet say what the server can do. -/
theorem attempt_probe {after : Client} {result : Result Capabilities}
    (h : probe.run transport client = (result, after)) :
    ∃ asked, after.sent = client.sent ++ asked ∧
      after.connection.capabilities = client.connection.capabilities ∧
      Attempt transport client.connection.config client.sent asked result := by
  have hasked := client.asked_reply transport
    (Question.existence client.connection.config.database)
  cases hreply : client.reply transport (Question.existence client.connection.config.database) with
  | error e =>
    rw [run_probe_of_error hreply] at h
    rw [hreply] at hasked
    obtain ⟨rfl, rfl⟩ := Prod.ext_iff.1 h
    exact ⟨_, rfl, rfl, .unanswered hasked⟩
  | ok text =>
    rw [run_probe_of_ok hreply] at h
    rw [hreply] at hasked
    obtain ⟨asked, access, between, hsettle, hsent, hcapabilities, haccess⟩ :=
      access_settleAccess transport (client.informed (Text.trimText text = "1"))
        (Text.trimText text = "1")
    simp only [Client.sent_informed, Client.config_informed, Client.capabilities_informed,
      List.append_assoc, List.singleton_append] at hsent hcapabilities haccess
    cases access with
    | error e =>
      rw [run_bind_error hsettle] at h
      obtain ⟨rfl, rfl⟩ := Prod.ext_iff.1 h
      exact ⟨_, hsent, hcapabilities, .denied hasked haccess⟩
    | ok _ =>
      obtain ⟨more, found, hinquire, hinquiry⟩ := inquiry_inquire transport between
      rw [run_bind_ok hsettle, hinquire] at h
      obtain ⟨rfl, rfl⟩ := Prod.ext_iff.1 h
      rw [hsent] at hinquiry
      exact ⟨_, by simp [hsent], hcapabilities, .inquired hasked haccess hinquiry⟩

end Action

end Columnar
