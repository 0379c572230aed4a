import Columnar.Proofs.Client.Bytes

/-!
What no action undoes.

An action keeps the requests that were sent before it and the configuration of the client: it only
adds requests. What is built of such actions does (`Keeps.bind`), and so does the probe
(`keeps_probe`).
-/

namespace Columnar.Action

variable {α β : Type}

/-- The action sends more requests, if any, and leaves the configuration as it is. -/
def Keeps (action : Action α) : Prop :=
  ∀ transport client, client.sent <+: (action.run transport client).2.sent ∧
    (action.run transport client).2.connection.config = client.connection.config

/-! ### Ways to build actions -/

theorem keeps_pure (a : α) : (pure a : Action α).Keeps :=
  fun _ client => ⟨List.prefix_refl client.sent, rfl⟩

theorem keeps_throw (e : ClientError) : (throw e : Action α).Keeps :=
  fun _ client => ⟨List.prefix_refl client.sent, rfl⟩

theorem keeps_ofResult (r : Result α) : (ofResult r).Keeps := by
  cases r with
  | ok a => exact keeps_pure a
  | error e => exact keeps_throw e

theorem keeps_connection : connection.Keeps :=
  fun _ client => ⟨List.prefix_refl client.sent, rfl⟩

theorem keeps_changeConnection {change : Connection → Connection}
    (h : ∀ c, (change c).config = c.config) : (changeConnection change).Keeps :=
  fun _ client => ⟨List.prefix_refl client.sent, h client.connection⟩

theorem Keeps.bind {action : Action α} {next : α → Action β} (h : action.Keeps)
    (hnext : ∀ a, (next a).Keeps) : (action >>= next).Keeps := by
  intro transport client
  have haction := h transport client
  rw [run_bind]
  cases hrun : action.run transport client with
  | mk r between =>
    rw [hrun] at haction
    cases r with
    | error e => exact haction
    | ok a =>
      have hafter := hnext a transport between
      exact ⟨haction.1.trans hafter.1, hafter.2.trans haction.2⟩

theorem Keeps.tryCatch {action : Action α} {handler : ClientError → Action α} (h : action.Keeps)
    (hhandler : ∀ e, (handler e).Keeps) :
    (MonadExcept.tryCatch action handler : Action α).Keeps := by
  intro transport client
  have haction := h transport client
  have hrun : (MonadExcept.tryCatch action handler : Action α).run transport client = _ :=
    run_tryCatch action handler
  rw [hrun]
  cases hcases : action.run transport client with
  | mk r between =>
    rw [hcases] at haction
    cases r with
    | ok a => exact haction
    | error e =>
      have hafter := hhandler e transport between
      exact ⟨haction.1.trans hafter.1, hafter.2.trans haction.2⟩

theorem keeps_forM {f : α → Action Unit} {l : List α} (h : ∀ a ∈ l, (f a).Keeps) :
    (l.forM f).Keeps := by
  induction l with
  | nil => exact keeps_pure ()
  | cons a l ih =>
    exact Keeps.bind (h a List.mem_cons_self) fun _ =>
      ih fun x hx => h x (List.mem_cons_of_mem a hx)

/-! ### Requests -/

theorem keeps_dispatch (body : Body) (options : Options) : (dispatch body options).Keeps := by
  intro transport client
  rw [run_dispatch]
  exact ⟨List.prefix_append _ _, rfl⟩

/-- Actions that only read bytes keep requests and configuration. -/
theorem ReadsBytes.keeps {action : Action α} (h : ReadsBytes action) : action.Keeps := by
  induction h with
  | pure a => exact keeps_pure a
  | throw e => exact keeps_throw e
  | bind _ _ ih ihnext => exact ih.bind ihnext
  | tryCatch _ _ ih ihhandler => exact ih.tryCatch ihhandler
  | connection => exact keeps_connection
  | changeConnection h => exact keeps_changeConnection h
  | reply body options _ => exact (keeps_dispatch body options).bind fun _ => keeps_ofResult _

theorem keeps_probe : probe.Keeps :=
  readsBytes_probe.keeps

theorem keeps_init : init.Keeps :=
  (readsBytes_capabilities.map _).keeps

end Columnar.Action
