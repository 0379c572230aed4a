import Columnar.Proofs.Client.Probe
import Columnar.Proofs.Client.Public
import Columnar.Server.Script

/-!
The requests of a client, from the first one on.

Whatever a caller does, the requests are those of failed attempts of the probe, then those of at
most one attempt that succeeds, and only behind it all others (`trace_of_public`). Among these there
is no question of the probe, unless the caller hands one over. What the attempt found out stays
known.
-/

namespace Columnar

variable {caller : Caller} {transport : Transport} {config : Config}

/-- Requests of failed attempts, one attempt behind the other. -/
inductive Failures (transport : Transport) (config : Config) : List Request → Prop
  | start : Failures transport config []
  | attempt {before asked : List Request} {e : ClientError} (h : Failures transport config before)
      (hattempt : Attempt transport config before asked (.error e)) :
      Failures transport config (before ++ asked)

/-- All the requests of a client, and what it knows of the server. -/
inductive Trace (caller : Caller) (transport : Transport) (config : Config) :
    List Request → Option Capabilities → Prop
  /-- No attempt has succeeded. -/
  | unknown {sent : List Request} (h : Failures transport config sent) :
      Trace caller transport config sent none
  /-- An attempt has succeeded, and every request that is not part of an attempt came behind it. -/
  | known {sent before asked statements : List Request} {server : Capabilities}
      (hsent : sent = before ++ asked ++ statements) (h : Failures transport config before)
      (hattempt : Attempt transport config before asked (.ok server))
      (hstatements : ∀ r ∈ statements, caller.Allows r.body) :
      Trace caller transport config sent (some server)

/-- A step adds a failed attempt, the one that succeeds, a statement behind it, or nothing. -/
theorem Step.trace {client after : Client} (h : Step caller transport client after)
    (htrace : Trace caller transport client.connection.config client.sent
      client.connection.capabilities) :
    Trace caller transport client.connection.config after.sent after.connection.capabilities := by
  cases h with
  | setting | mode | existence => exact htrace
  | failed hunknown hprobe =>
    obtain ⟨asked, hsent, hcapabilities, hattempt⟩ := Action.attempt_probe hprobe
    rw [hunknown] at htrace hcapabilities
    cases htrace with
    | unknown hfailures =>
      rw [hsent, hcapabilities]
      exact .unknown (hfailures.attempt hattempt)
  | probed hunknown hprobe =>
    obtain ⟨asked, hsent, -, hattempt⟩ := Action.attempt_probe hprobe
    rw [hunknown] at htrace
    cases htrace with
    | unknown hfailures =>
      exact .known (by rw [hsent, List.append_nil]) hfailures hattempt (by simp)
  | @statement server hknown body options hallows =>
    dsimp only
    rw [hknown] at htrace ⊢
    cases htrace with
    | known hsent hfailures hattempt hstatements =>
      refine .known (by rw [hsent, List.append_assoc]) hfailures hattempt fun r hr => ?_
      rcases List.mem_append.1 hr with hr | hr
      · exact hstatements r hr
      · obtain rfl := List.mem_singleton.1 hr
        exact hallows

theorem Path.trace {client after : Client} (h : Path caller transport client after)
    (htrace : Trace caller transport client.connection.config client.sent
      client.connection.capabilities) :
    Trace caller transport client.connection.config after.sent after.connection.capabilities := by
  induction h with
  | refl => exact htrace
  | tail hpath hstep ih =>
    rw [← Path.config_eq hpath] at ih ⊢
    exact hstep.trace ih

/-- A new connection knows its configuration and nothing else. -/
theorem Connection.ofConfig_eq_ok {c : Connection} (h : ofConfig config = .ok c) :
    c = { config } := by
  obtain ⟨_, -, hc⟩ := bind_eq_ok h
  exact (Except.ok.inj hc).symm

/-- Whatever a caller runs with a new client, the requests are those of failed attempts of the
probe, then those of one that succeeds if any does, and behind it the statements. -/
theorem trace_of_public [Clocks] {c : Connection} (hconfig : Connection.ofConfig config = .ok c)
    (hdatabase : caller.database = config.database) {α : Type} {action : Action α}
    (h : Action.Public caller action) (transport : Transport) :
    Trace caller transport config (action.run transport ⟨c, []⟩).2.sent
      (action.run transport ⟨c, []⟩).2.connection.capabilities := by
  obtain rfl := Connection.ofConfig_eq_ok hconfig
  exact (h.walks transport ⟨{ config }, []⟩ hdatabase.symm).trace (.unknown .start)

/-- A configuration with a short URL. -/
def shopConfig : Config :=
  { database := "shop", url := "http://h" }

set_option maxRecDepth 20000 in
theorem ofConfig_shopConfig : Connection.ofConfig shopConfig = .ok { config := shopConfig } := rfl

/-- A caller who hands over nothing to be sent as it is. -/
def shopCaller : Caller :=
  { database := "shop", sends := fun _ => False }

/-- A healthy server, where the database exists. -/
def healthyTransport : Transport :=
  (⟨.healthy, []⟩ : Server.Script).transport

set_option maxRecDepth 20000 in
/-- The version of a healthy server is new enough for the time zone to be asked for; behind the
question the database is created. -/
theorem trace_of_public_shop :
    Connection.ofConfig shopConfig = .ok { config := shopConfig } ∧
      Action.Public shopCaller Action.createDatabase ∧
      (Action.createDatabase.run healthyTransport ⟨{ config := shopConfig }, []⟩).2.sent.map
          Request.body
        = [.ofText "SELECT count() FROM system.databases WHERE name = 'shop'",
          .ofText "SELECT version();", .ofText "SELECT timezone()",
          .ofText "CREATE DATABASE IF NOT EXISTS `shop` ENGINE = Atomic"] ∧
      Trace shopCaller healthyTransport shopConfig
        (Action.createDatabase.run healthyTransport ⟨{ config := shopConfig }, []⟩).2.sent
        (some (.of ⟨22, 8, 1⟩ .utc)) :=
  ⟨ofConfig_shopConfig, .createDatabase, rfl,
    trace_of_public ofConfig_shopConfig rfl .createDatabase healthyTransport⟩

end Columnar
