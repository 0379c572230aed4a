import Columnar.Proofs.Client.Trace
import Columnar.Proofs.Settings

/-!
What a client that only reads believes of its server.

The server's word is the reply to a question of the probe, and every reply but a zero counts as
"only read". The question itself goes out with the wish to read only if the caller has asked for it,
or if an earlier attempt was told that the server lets it write (`serverReadOnly_of_public`). A
server that answers with what the request wishes is then taken at its word, and the client gives up
its wish (`wish_given_up`).
-/

namespace Columnar

variable {caller : Caller} {transport : Transport} {client after start : Client}

/-! ### The wish in the parameters -/

/-- Without settings of that name, the wish is in the parameters exactly while the client has it and
does not believe that the server sees to it. -/
theorem Connection.get?_params_readonly {c : Connection} {options : Options}
    (hsettings : c.settings.Lacks "readonly") (hoptions : options.settings.Lacks "readonly") :
    (c.params options).get? "readonly"
      = if c.isReadOnly && !c.isServerReadOnly then some "1" else none := by
  have hsession : Settings.Lacks (sessionParams options.session) "readonly" := by
    cases options.session <;> simp [sessionParams, Settings.Lacks]
  have hlist : Settings.ofList options.settings = Settings.overlay [] options.settings := rfl
  have hdatabase : Settings.Lacks
      (if c.databaseExists then [("database", c.config.database)] else []) "readonly" := by
    split <;> simp [Settings.Lacks]
  rw [params, stateParams, Settings.overlay_append]
  by_cases hwish : (c.isReadOnly && !c.isServerReadOnly) = true
  · rw [if_pos hwish, if_pos hwish, Settings.get?_overlay_singleton]
  · rw [if_neg hwish, if_neg hwish, Settings.get?_overlay_of_lacks (Settings.lacks_nil _),
      Settings.get?_overlay_of_lacks hdatabase, Settings.get?_overlay_of_lacks hsession,
      Settings.get?_overlay_of_lacks hsettings, hlist, Settings.get?_overlay_of_lacks hoptions]
    rfl

/-! ### Attempts -/

/-- Among the requests is the question whether the server lets the connection only read, and it was
told that it can write. -/
def ToldWritable (transport : Transport) (sent : List Request) : Prop :=
  ∃ front q back text, sent = front ++ q :: back ∧
    Asked transport front Question.readOnly q (.ok text) ∧ Text.trimText text = "0"

theorem ToldWritable.of_prefix {sent sent' : List Request} (h : ToldWritable transport sent)
    (hpre : sent <+: sent') : ToldWritable transport sent' := by
  rcases h with ⟨front, q, back, text, rfl, hasked, htext⟩
  rcases hpre with ⟨more, rfl⟩
  exact ⟨front, q, back ++ more, text, by simp, hasked, htext⟩

/-- An attempt from one client to the other in which the server has told whether it lets the
connection only read. -/
structure Told (transport : Transport) (client after : Client) (q : Request) (text : String) :
    Prop where
  sent : ∃ r rest, after.sent = client.sent ++ r :: q :: rest ∧
    Asked transport (client.sent ++ [r]) Question.readOnly q (.ok text)
  params : q.params = ({ client.connection with databaseExists := true } : Connection).params {}
  isReadOnly : after.connection.isReadOnly = true
  isServerReadOnly : after.connection.isServerReadOnly = (Text.trimText text != "0")

/-- An attempt from one client to the other in which the server has not told it. -/
structure Untold (client after : Client) : Prop where
  isReadOnly : after.connection.isReadOnly = client.connection.isReadOnly
  isServerReadOnly : after.connection.isServerReadOnly = client.connection.isServerReadOnly

/-- Without leave to write, the server tells in every attempt that succeeds. -/
theorem told_probe {result : Result Capabilities}
    (hread : client.connection.config.isReadOnly = true)
    (h : Action.probe.run transport client = (result, after)) :
    after.connection.settings = client.connection.settings ∧
      ((∃ e, result = .error e ∧ Untold client after) ∨
        ∃ q text, Told transport client after q text) := by
  cases hreply : client.reply transport (Question.existence client.connection.config.database) with
  | error e =>
    rw [Action.run_probe_of_error hreply] at h
    obtain ⟨rfl, rfl⟩ := Prod.ext_iff.1 h
    exact ⟨rfl, .inl ⟨e, rfl, rfl, rfl⟩⟩
  | ok text =>
    rw [Action.run_probe_of_ok hreply] at h
    by_cases hexists : Text.trimText text = "1"
    · have hread' : (client.informed true).connection.config.isReadOnly = true := hread
      have hasked := (client.informed true).asked_reply transport Question.readOnly
      simp only [hexists, decide_true] at h
      rw [Action.run_bind, Action.run_settleAccess_readOnly hread'] at h
      cases hword : (client.informed true).reply transport Question.readOnly with
      | error e =>
        rw [hword] at h
        obtain ⟨rfl, rfl⟩ := Prod.ext_iff.1 h
        exact ⟨rfl, .inl ⟨e, rfl, rfl, rfl⟩⟩
      | ok word =>
        rw [hword] at h hasked
        obtain ⟨more, found, hinquire, -⟩ := Action.inquiry_inquire transport
          { (client.informed true).sending Question.readOnly with
            connection := Action.settled (client.informed true).connection word }
        obtain ⟨rfl, rfl⟩ := Prod.ext_iff.1 (hinquire.symm.trans h)
        refine ⟨rfl, .inr ⟨_, word, ⟨_, more, ?_, hasked⟩, rfl, rfl, rfl⟩⟩
        simp
    · have hread' : (client.informed false).connection.config.isReadOnly = true := hread
      simp only [hexists, decide_false] at h
      rw [Action.run_bind_error (Action.run_settleAccess_missing hread')] at h
      obtain ⟨rfl, rfl⟩ := Prod.ext_iff.1 h
      exact ⟨rfl, .inl ⟨_, rfl, rfl, rfl⟩⟩

/-! ### Where the wish comes from -/

/-- The settings do not speak for the caller, and the wish to read only comes from the caller, or
from an attempt that was told that the server lets it write. -/
structure Grounded (caller : Caller) (transport : Transport) (client : Client) : Prop where
  settings : client.connection.settings.Lacks "readonly"
  wish : client.connection.isReadOnly = true → client.connection.isServerReadOnly = false →
    caller.asks true ∨ ToldWritable transport client.sent

theorem Grounded.probe {result : Result Capabilities} (hgrounded : Grounded caller transport client)
    (hread : client.connection.config.isReadOnly = true)
    (h : Action.probe.run transport client = (result, after)) :
    Grounded caller transport after := by
  have hpre := (Action.keeps_probe transport client).1
  rw [h] at hpre
  obtain ⟨hsettings, ⟨e, -, huntold⟩ | ⟨q, text, htold⟩⟩ := told_probe hread h
  · refine ⟨hsettings ▸ hgrounded.settings, fun hwish hserver => ?_⟩
    rw [huntold.isReadOnly] at hwish
    rw [huntold.isServerReadOnly] at hserver
    exact (hgrounded.wish hwish hserver).imp_right fun h => h.of_prefix hpre
  · refine ⟨hsettings ▸ hgrounded.settings, fun _ hserver => .inr ?_⟩
    obtain ⟨r, rest, hsent, hasked⟩ := htold.sent
    rw [htold.isServerReadOnly, bne_eq_false_iff_eq] at hserver
    exact ⟨client.sent ++ [r], q, rest, text, by rw [hsent]; simp, hasked, hserver⟩

theorem Step.grounded (hchanges : ¬ caller.changes "readonly")
    (hread : client.connection.config.isReadOnly = true) (h : Step caller transport client after)
    (hgrounded : Grounded caller transport client) : Grounded caller transport after := by
  cases h with
  | @setting name text hname =>
    have hne : name ≠ "readonly" := by
      rintro rfl
      exact hchanges hname
    refine ⟨?_, hgrounded.wish⟩
    cases text with
    | some text => exact hgrounded.settings.set hne text
    | none => exact hgrounded.settings.unset name
  | mode hasks =>
    refine ⟨hgrounded.settings, fun hwish _ => .inl ?_⟩
    obtain rfl : _ = true := hwish
    exact hasks
  | failed _ hprobe => exact hgrounded.probe hread hprobe
  | probed _ hprobe =>
    obtain ⟨hsettings, hwish⟩ := hgrounded.probe hread hprobe
    exact ⟨hsettings, hwish⟩
  | statement =>
    refine ⟨hgrounded.settings, fun hwish hserver => ?_⟩
    exact (hgrounded.wish hwish hserver).imp_right fun h => h.of_prefix (List.prefix_append _ _)
  | existence => exact ⟨hgrounded.settings, hgrounded.wish⟩

theorem Path.grounded (hchanges : ¬ caller.changes "readonly")
    (hread : start.connection.config.isReadOnly = true) (h : Path caller transport start after)
    (hgrounded : Grounded caller transport start) : Grounded caller transport after := by
  induction h with
  | refl => exact hgrounded
  | tail hpath hstep ih =>
    exact hstep.grounded hchanges (by rw [Path.config_eq hpath, hread]) ih

/-! ### Where the belief comes from -/

/-- The attempt that succeeded, from a client reached before, and the reply by which the client
believes what it does of its server. -/
structure Settles (caller : Caller) (transport : Transport) (start pre after : Client)
    (server : Capabilities) (q : Request) (text : String) : Prop where
  path : Path caller transport start pre
  unknown : pre.connection.capabilities = none
  succeeds : (Action.probe.run transport pre).1 = .ok server
  sent : ∃ r rest, after.sent = pre.sent ++ r :: q :: rest ∧
    Asked transport (pre.sent ++ [r]) Question.readOnly q (.ok text)
  params : q.params = ({ pre.connection with databaseExists := true } : Connection).params {}
  isServerReadOnly : after.connection.isServerReadOnly = (Text.trimText text != "0")

/-- Where the server is known, a step leaves what the client believes of it. -/
theorem Step.keeps_of_known {server : Capabilities} (h : Step caller transport client after)
    (hknown : client.connection.capabilities = some server) : client.sent <+: after.sent ∧
      after.connection.isServerReadOnly = client.connection.isServerReadOnly := by
  cases h with
  | setting | mode | existence => exact ⟨List.prefix_refl _, rfl⟩
  | failed hunknown | probed hunknown => simp [hknown] at hunknown
  | statement => exact ⟨List.prefix_append _ _, rfl⟩

theorem Settles.step {pre : Client} {server : Capabilities} {q : Request} {text : String}
    (hsettles : Settles caller transport start pre client server q text)
    (h : Step caller transport client after)
    (hknown : client.connection.capabilities = some server) :
    Settles caller transport start pre after server q text := by
  obtain ⟨⟨more, hmore⟩, hserver⟩ := h.keeps_of_known hknown
  obtain ⟨r, rest, hsent, hasked⟩ := hsettles.sent
  refine { hsettles with
    sent := ⟨r, rest ++ more, ?_, hasked⟩
    isServerReadOnly := hserver.trans hsettles.isServerReadOnly }
  rw [← hmore, hsent]
  simp

/-- Wherever the server is known, an attempt has settled what the client believes of it. -/
theorem Path.settles (hread : start.connection.config.isReadOnly = true)
    (hstart : start.connection.capabilities = none) (h : Path caller transport start after)
    {server : Capabilities} (hknown : after.connection.capabilities = some server) :
    ∃ pre q text, Settles caller transport start pre after server q text := by
  induction h with
  | refl => simp [hstart] at hknown
  | @tail between after hpath hstep ih =>
    cases hbetween : between.connection.capabilities with
    | some server' =>
      obtain rfl : server' = server := by
        simpa [hstep.known hbetween] using hknown
      obtain ⟨pre, q, text, hsettles⟩ := ih hbetween
      exact ⟨pre, q, text, hsettles.step hstep hbetween⟩
    | none =>
      cases hstep with
      | setting | mode => simp [Connection.withSetting, hbetween] at hknown
      | statement hknown' | existence hknown' => simp [hbetween] at hknown'
      | failed _ hprobe =>
        obtain ⟨-, -, hcapabilities, -⟩ := Action.attempt_probe hprobe
        simp [hcapabilities, hbetween] at hknown
      | @probed probed server' _ hprobe =>
        obtain rfl : server' = server := Option.some.inj hknown
        have hreadBetween : between.connection.config.isReadOnly = true := by
          rw [Path.config_eq hpath, hread]
        obtain ⟨-, ⟨e, hfailed, -⟩ | ⟨q, text, htold⟩⟩ := told_probe hreadBetween hprobe
        · exact absurd hfailed (by simp)
        · exact ⟨between, q, text, hpath, hbetween, by rw [hprobe], htold.sent, htold.params,
            htold.isServerReadOnly⟩

/-! ### The server's word -/

/-- What a client that was not given leave to write believes of a known server goes back to the
reply in the attempt that succeeded, whatever a caller has run who changes no setting of that name.
The question went out with the wish to read only exactly if the client had it then; if it had, the
caller had asked for it, or an attempt before was told that the server lets it write. -/
theorem serverReadOnly_of_public [Clocks] {config : Config} {c : Connection}
    (hconfig : Connection.ofConfig config = .ok c) (hread : config.isReadOnly = true)
    (hdatabase : caller.database = config.database) (hchanges : ¬ caller.changes "readonly")
    {α : Type} {action : Action α} (h : Action.Public caller action) {result : Result α}
    (hrun : action.run transport ⟨c, []⟩ = (result, after)) {server : Capabilities}
    (hknown : after.connection.capabilities = some server) :
    (∀ options : Options, options.settings.Lacks "readonly" →
      (after.connection.params options).get? "readonly"
        = if after.connection.isReadOnly && !after.connection.isServerReadOnly then some "1"
          else none) ∧
      ∃ pre q text, Settles caller transport ⟨c, []⟩ pre after server q text ∧
        q.params.get? "readonly"
          = (if pre.connection.isReadOnly && !pre.connection.isServerReadOnly then some "1"
            else none) ∧
        (q.params.get? "readonly" ≠ none →
          caller.asks true ∨ ToldWritable transport pre.sent) := by
  obtain rfl := Connection.ofConfig_eq_ok hconfig
  have hpath := h.walks transport ⟨{ config }, []⟩ hdatabase.symm
  rw [hrun] at hpath
  have hstart : Grounded caller transport ⟨{ config }, []⟩ :=
    ⟨Settings.lacks_nil _, fun hwish => absurd hwish Bool.false_ne_true⟩
  have hafter := hpath.grounded hchanges hread hstart
  obtain ⟨pre, q, text, hsettles⟩ := hpath.settles hread rfl hknown
  have hpre := hsettles.path.grounded hchanges hread hstart
  have hwish : q.params.get? "readonly"
      = if pre.connection.isReadOnly && !pre.connection.isServerReadOnly then some "1"
        else none := by
    rw [hsettles.params]
    exact Connection.get?_params_readonly hpre.settings (Settings.lacks_nil _)
  refine ⟨fun options hoptions => Connection.get?_params_readonly hafter.settings hoptions,
    pre, q, text, hsettles, hwish, fun hasked => ?_⟩
  rw [hwish] at hasked
  by_cases h : (pre.connection.isReadOnly && !pre.connection.isServerReadOnly) = true
  · rw [Bool.and_eq_true, Bool.not_eq_true'] at h
    exact hpre.wish h.1 h.2
  · exact absurd (if_neg h) hasked

/-- A configuration without leave to write. -/
def readingConfig : Config :=
  shopConfig.withReadOnly true

set_option maxRecDepth 20000 in
theorem ofConfig_readingConfig :
    Connection.ofConfig readingConfig = .ok { config := readingConfig } := rfl

/-- A caller of the database who changes no settings. -/
def readingCaller : Caller :=
  { database := "shop", changes := fun _ => False }

/-- A server that answers the question whether it lets the connection only read by a reply to the
wish in the parameters, and everything else with one number. -/
def wordTransport (word : Option String → String) : Transport where
  answer _ r :=
    if r.body.read.1 = Text.encodeUtf8 Question.readOnly then
      .ok ⟨200, .ofText (word (r.params.get? "readonly"))⟩
    else .ok ⟨200, .ofText "1\n"⟩

/-- A reply that gives the wish back, and a zero without one. -/
def echo (wish : Option String) : String :=
  wish.getD "0" ++ "\n"

/-- The caller asks to read only before anything is sent. -/
def askFirst : Action Unit := do
  Action.setReadOnly true
  Action.init

theorem public_askFirst : Action.Public readingCaller askFirst :=
  .bind (.setReadOnly trivial) fun _ => .init

/-- A server that gives the wish back. -/
theorem serverReadOnly_of_public_echo :
    ∃ after, askFirst.run (wordTransport echo) ⟨{ config := readingConfig }, []⟩
        = (.ok (), after) ∧
      after.connection.capabilities = some (.of ⟨1, 0, 0⟩ .utc) ∧
      ∃ pre q text, Settles readingCaller (wordTransport echo) ⟨{ config := readingConfig }, []⟩
          pre after (.of ⟨1, 0, 0⟩ .utc) q text ∧
        (q.params.get? "readonly" ≠ none →
          readingCaller.asks true ∨ ToldWritable (wordTransport echo) pre.sent) := by
  obtain ⟨after, hrun, hknown⟩ : ∃ after, askFirst.run (wordTransport echo)
        ⟨{ config := readingConfig }, []⟩ = (.ok (), after) ∧
      after.connection.capabilities = some (.of ⟨1, 0, 0⟩ .utc) := ⟨_, rfl, rfl⟩
  obtain ⟨-, pre, q, text, hsettles, -, hasked⟩ := serverReadOnly_of_public ofConfig_readingConfig
    rfl rfl not_false public_askFirst hrun hknown
  exact ⟨after, hrun, hknown, pre, q, text, hsettles, hasked⟩

/-- The wish is given up on a server that only gives it back, and on one that says nothing. -/
theorem wish_given_up :
    (∃ after q, askFirst.run (wordTransport echo) ⟨{ config := readingConfig }, []⟩
        = (.ok (), after) ∧
      after.sent[1]? = some q ∧ q.body = .ofText Question.readOnly ∧
      q.params.get? "readonly" = some "1" ∧ after.connection.isServerReadOnly = true ∧
      (after.connection.params {}).get? "readonly" = none) ∧
    ∃ after q, Action.init.run (wordTransport fun _ => "") ⟨{ config := readingConfig }, []⟩
        = (.ok (), after) ∧
      after.sent[1]? = some q ∧ q.body = .ofText Question.readOnly ∧
      Action.replyText (wordTransport (fun _ => "") (after.sent.take 1) q) = .ok "" ∧
      after.connection.isServerReadOnly = true ∧
      (after.connection.params {}).get? "readonly" = none :=
  ⟨⟨_, _, rfl, rfl, rfl, rfl, rfl, rfl⟩, _, _, rfl, rfl, rfl, rfl, rfl, rfl⟩

end Columnar
