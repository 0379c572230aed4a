import Columnar.Proofs.Client.Context
import Columnar.Proofs.Client.Events
import Columnar.Proofs.Client.Trace

/-!
The parameters of requests, layer by layer.

Whatever a caller does with a new client, the parameters of its next request are in ascending order,
and the text of each name is that of the uppermost layer that has one (`params_of_public`). The
layers follow from the options of the call, from the events of all that has been done, and from the
two flags about reading only. So no setting of a caller stands in place of the session, of the
database or of the wish to read only.
-/

namespace Columnar

open Event (databaseAfter settingAfter)

/-! ### Layers -/

namespace Layer

/-- What the call says: the last entry with the name. -/
def call (options : Options) (name : String) : Option String :=
  Settings.get? name options.settings.reverse

/-- What the connection has been told: the last change of the setting. -/
def setting (events : List Event) (name : String) : Option String :=
  settingAfter name events none

/-- What the session of the call says. -/
def session : Option Session → String → Option String
  | none, _ => none
  | some session, name =>
    if name = "session_id" then some session.id
    else if name = "session_timeout" then some (toString session.timeoutSeconds)
    else none

/-- The database, while it is known to exist. -/
def database (config : Config) (events : List Event) (name : String) : Option String :=
  if name = "database" ∧ databaseAfter events false = true then some config.database else none

/-- The wish to read only, unless the server sees to it. -/
def readOnly (c : Connection) (name : String) : Option String :=
  if name = "readonly" ∧ c.isReadOnly = true ∧ c.isServerReadOnly = false then some "1" else none

/-- The layers, the lowest first. -/
def all (c : Connection) (events : List Event) (options : Options) :
    List (String → Option String) :=
  [call options, setting events, session options.session, database c.config events, readOnly c]

/-- What the uppermost layer says that has a text for the name. -/
def uppermost (layers : List (String → Option String)) (name : String) : Option String :=
  layers.reverse.findSome? fun layer => layer name

theorem uppermost_concat (layers : List (String → Option String)) (layer : String → Option String)
    (name : String) :
    uppermost (layers ++ [layer]) name = (layer name).or (uppermost layers name) := by
  rw [uppermost, List.reverse_append, List.findSome?_append, List.reverse_singleton, uppermost]
  cases h : layer name <;> simp [h]

theorem uppermost_all (c : Connection) (events : List Event) (options : Options) (name : String) :
    uppermost (all c events options) name = (readOnly c name).or ((database c.config events name).or
      ((session options.session name).or ((setting events name).or (call options name)))) := by
  have hall : all c events options = ((([] ++ [call options]) ++ [setting events])
      ++ [session options.session] ++ [database c.config events]) ++ [readOnly c] := rfl
  rw [hall, uppermost_concat, uppermost_concat, uppermost_concat, uppermost_concat,
    uppermost_concat, uppermost, List.reverse_nil, List.findSome?_nil, Option.or_none]

end Layer

namespace Connection

variable {c : Connection}

theorem get?_sessionParams (session : Option Session) (name : String) :
    Settings.get? name (sessionParams session).reverse = Layer.session session name := by
  cases session with
  | none => rfl
  | some session =>
    have hreverse : (sessionParams (some session)).reverse
        = [("session_timeout", toString session.timeoutSeconds), ("session_id", session.id)] := rfl
    rw [hreverse, Settings.get?_cons, Settings.get?_cons, Layer.session]
    by_cases hid : name = "session_id"
    · subst hid
      rfl
    · rw [if_neg hid, if_neg hid]
      rfl

theorem get?_stateParams {events : List Event}
    (hdatabase : c.databaseExists = databaseAfter events false) (name : String) :
    Settings.get? name c.stateParams.reverse
      = (Layer.readOnly c name).or (Layer.database c.config events name) := by
  have hone : ∀ key text : String,
      Settings.get? name [(key, text)] = if name = key then some text else none :=
    fun key text => Settings.get?_cons name key text []
  have hnil : Settings.get? name [] = none := rfl
  rw [stateParams, List.reverse_append, Settings.get?_append, Layer.readOnly, Layer.database,
    ← hdatabase]
  congr 1
  · cases c.isReadOnly <;> cases c.isServerReadOnly <;> simp [hone, hnil]
  · cases c.databaseExists <;> simp [hone, hnil]

/-- The text of a parameter, where the settings and what is known of the database follow from
events. -/
theorem get?_params_of_records {events : List Event} {config : Config}
    (h : Records events { config } c) (options : Options) (name : String) :
    (c.params options).get? name = Layer.uppermost (Layer.all c events options) name := by
  have hsorted : c.settings.Sorted := h.sorted Settings.sorted_nil
  rw [get?_params, get?_stateParams h.databaseExists, get?_sessionParams, hsorted.get?_reverse,
    h.settings, Layer.uppermost_all, Option.or_assoc]
  rfl

end Connection

/-! ### Programs of callers -/

namespace Action

variable {α : Type}

/-- Behind any program of a caller the parameters of a request are strictly ascending in their
names, and the text of each is that of the uppermost layer that says something about the name.
Whether the database is known to exist is what the latest of these has left: an answer whether it
exists, its creation and its drop. -/
theorem params_of_public [Clocks] {caller : Caller} {config : Config} {c : Connection}
    (hconfig : Connection.ofConfig config = .ok c) {action : Action α}
    (hpublic : Public caller action) (transport : Transport) :
    (∃ events, Logs transport action ⟨c, []⟩ events) ∧
      ∀ events, Logs transport action ⟨c, []⟩ events →
        let after := (action.run transport ⟨c, []⟩).2.connection
        after.config = config ∧ after.databaseExists = databaseAfter events false ∧
        ∀ options, (after.params options).Sorted ∧
          ∀ name text, (name, text) ∈ after.params options ↔
            Layer.uppermost (Layer.all after events options) name = some text := by
  obtain ⟨-, -, hnew⟩ := bind_eq_ok hconfig
  obtain rfl : { config } = c := Except.ok.inj hnew
  refine ⟨(hpublic.composed (.free caller config.database)).exists_logs transport rfl,
    fun events hevents => ?_⟩
  intro after
  have hrecords : Connection.Records events { config } after := hevents.records
  refine ⟨hrecords.config, hrecords.databaseExists, fun options => ?_⟩
  have hsorted := after.sorted_params options
  refine ⟨hsorted, fun name text => ?_⟩
  rw [hsorted.mem_iff, Connection.get?_params_of_records hrecords]

/-- Settings are given and taken out, and the database is created. -/
def settingUp : Action Unit := do
  changeSetting "max_threads" (some "2")
  changeSetting "max_memory_usage" (some "1000000")
  changeSetting "max_memory_usage" none
  createDatabase

/-- Options with names of other layers. -/
def overlaid : Options where
  settings := [("max_threads", "8"), ("max_block_size", "100"), ("database", "elsewhere")]
  session := some { id := "abc123", timeoutSeconds := 30 }

theorem public_settingUp : Public shopCaller settingUp :=
  .bind (.changeSetting _ trivial) fun _ => .bind (.changeSetting _ trivial) fun _ =>
    .bind (.changeSetting _ trivial) fun _ => .createDatabase

theorem params_of_public_shop :
    let after := (settingUp.run onesServer ⟨{ config := shopConfig }, []⟩).2.connection
    after.params overlaid = [("database", "shop"), ("max_block_size", "100"),
        ("max_threads", "2"), ("session_id", "abc123"), ("session_timeout", "30")] ∧
      ∃ events, Logs onesServer settingUp ⟨{ config := shopConfig }, []⟩ events ∧
        databaseAfter events false = true ∧
        Layer.uppermost (Layer.all after events overlaid) "database" = some "shop" ∧
        Layer.uppermost (Layer.all after events overlaid) "max_memory_usage" = none := by
  intro after
  have hparams : after.params overlaid = [("database", "shop"), ("max_block_size", "100"),
      ("max_threads", "2"), ("session_id", "abc123"), ("session_timeout", "30")] := by decide
  obtain ⟨⟨events, hevents⟩, hall⟩ := params_of_public ofConfig_shopConfig public_settingUp
    onesServer
  obtain ⟨-, hdatabase, hlayers⟩ := hall events hevents
  have huppermost := (hlayers overlaid).2
  rw [hparams] at huppermost
  refine ⟨hparams, events, hevents, hdatabase.symm, (huppermost _ _).1 (by decide), ?_⟩
  cases htext : Layer.uppermost (Layer.all after events overlaid) "max_memory_usage" with
  | none => rfl
  | some text => exact absurd ((huppermost _ _).2 htext) (by simp)

end Action

end Columnar
