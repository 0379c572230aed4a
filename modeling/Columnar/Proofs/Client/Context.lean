import Columnar.Proofs.Client.Page
import Columnar.Proofs.Settings

/-!
The parameters of the two requests of a page.

The count of a page goes out with the parameters of a call without options, and the query for the
rows with those of the call. Both have the same parameters exactly if the options say nothing that
the connection does not say already (`Connection.params_eq_iff`).
-/

namespace Columnar

/-! ### Parameters in layers -/

namespace Connection

open Settings (get?_overlay isSome_get? mem_of_get?)

variable {c : Connection} {options : Options}

theorem sorted_params (c : Connection) (options : Options) : (c.params options).Sorted :=
  (((Settings.sorted_ofList _).overlay _).overlay _).overlay _

/-- A parameter comes from the uppermost layer that has it. -/
theorem get?_params (c : Connection) (options : Options) (key : String) :
    (c.params options).get? key = (Settings.get? key c.stateParams.reverse).or
      ((Settings.get? key (sessionParams options.session).reverse).or
        ((Settings.get? key c.settings.reverse).or
          (Settings.get? key options.settings.reverse))) := by
  have hbottom : (Settings.ofList options.settings).get? key
      = (Settings.get? key options.settings.reverse).or none := get?_overlay key [] options.settings
  rw [params, get?_overlay, get?_overlay, get?_overlay, hbottom, Option.or_none]

theorem mem_sessionParams {p : String × String} {session : Option Session}
    (h : p ∈ sessionParams session) : p.1 = "session_id" ∨ p.1 = "session_timeout" := by
  cases session with
  | none => exact absurd h (by simp [sessionParams])
  | some session =>
    simp only [sessionParams, List.mem_cons, List.not_mem_nil, or_false] at h
    rcases h with rfl | rfl
    · exact .inl rfl
    · exact .inr rfl

theorem mem_stateParams {p : String × String} (h : p ∈ c.stateParams) :
    p.1 = "database" ∨ p.1 = "readonly" := by
  simp only [stateParams, List.mem_append, List.mem_ite_nil_right, List.mem_singleton] at h
  rcases h with ⟨-, rfl⟩ | ⟨-, rfl⟩
  · exact .inl rfl
  · exact .inr rfl

/-- The session of a call is given to its requests, whatever the connection says. -/
theorem get?_params_of_session {p : String × String} (h : p ∈ sessionParams options.session) :
    (c.params options).get? p.1 = some p.2 := by
  have hstate : Settings.get? p.1 c.stateParams.reverse = none := by
    rw [← Option.not_isSome_iff_eq_none, isSome_get?]
    rintro ⟨entry, hentry, hname⟩
    rcases mem_stateParams (List.mem_reverse.1 hentry) with hstate | hstate <;>
      rcases mem_sessionParams h with hsession | hsession <;>
      exact absurd ((hstate.symm.trans hname).trans hsession) (by decide)
  have hsession : Settings.get? p.1 (sessionParams options.session).reverse = some p.2 := by
    cases hoptions : options.session with
    | none => rw [hoptions] at h; exact absurd h (by simp [sessionParams])
    | some session =>
      rw [hoptions] at h
      simp only [sessionParams, List.mem_cons, List.not_mem_nil, or_false] at h
      rcases h with rfl | rfl <;> rfl
  rw [get?_params, hstate, hsession]
  rfl

/-- A setting of a call is a parameter of its requests, with its own text or that of an upper
layer. -/
theorem isSome_get?_params {p : String × String} (h : p ∈ options.settings) :
    ((c.params options).get? p.1).isSome = true := by
  have hbottom : (Settings.get? p.1 options.settings.reverse).isSome = true :=
    isSome_get?.2 ⟨p, List.mem_reverse.2 h, rfl⟩
  simp [get?_params, hbottom]

/-- The options of a call say nothing that requests without options do not say. -/
def Covers (c : Connection) (options : Options) : Prop :=
  (∀ p ∈ sessionParams options.session, (c.params {}).get? p.1 = some p.2) ∧
    ∀ p ∈ options.settings, ((c.params {}).get? p.1).isSome = true

/-- Options make no difference exactly if the connection says all that they say: the session, and a
text for each of their settings. -/
theorem params_eq_iff : c.params {} = c.params options ↔ c.Covers options := by
  constructor
  · intro h
    rw [Covers, h]
    exact ⟨fun p hp => get?_params_of_session hp, fun p hp => isSome_get?_params hp⟩
  · rintro ⟨hsession, hsettings⟩
    refine (sorted_params c {}).eq_of_get? (sorted_params c options) fun key => ?_
    have hplain : (c.params {}).get? key = (Settings.get? key c.stateParams.reverse).or
        (Settings.get? key c.settings.reverse) := by
      rw [get?_params]
      exact congrArg _ (Option.or_none)
    rw [get?_params c options]
    cases hx : Settings.get? key (sessionParams options.session).reverse with
    | some text =>
      have htext := hsession (key, text) (List.mem_reverse.1 (mem_of_get? hx))
      rw [htext]
      rw [hplain] at htext
      cases hstate : Settings.get? key c.stateParams.reverse with
      | none => rfl
      | some other => rw [hstate] at htext; exact htext.symm
    | none =>
      rw [hplain, Option.none_or]
      cases hbottom : Settings.get? key options.settings.reverse with
      | none => rw [Option.or_none]
      | some text =>
        have hsome := hsettings (key, text) (List.mem_reverse.1 (mem_of_get? hbottom))
        rw [hplain] at hsome
        cases hstate : Settings.get? key c.stateParams.reverse with
        | some other => rfl
        | none =>
          cases hown : Settings.get? key c.settings.reverse with
          | some other => rfl
          | none => rw [hstate, hown] at hsome; exact absurd hsome Bool.false_ne_true

end Connection

/-! ### The requests of a page -/

namespace Action

variable {transport : Transport} {client : Client}

/-- A page on a known server that is not refused sends the count with the parameters of a call
without options and, unless that is zero or fails, the query for the rows with those of the call.
All requests have the parameters of the call exactly if its options say nothing that the connection
does not. -/
theorem params_of_paginate [Clocks] {server : Capabilities}
    (hknown : client.connection.capabilities = some server) (schema : Schema) (orderBy : String)
    (number : Int) (size : Nat) (condition : Option Condition) (options : Options) :
    let c := client.connection
    let page := paginate schema orderBy number size condition options
    let sent := (page.run transport client).2.sent
    match Page.check number size >>= fun _ => Condition.whereClause schema condition with
    | .error _ => sent = client.sent
    | .ok restriction => ∃ requests, sent = client.sent ++ requests ∧
        (requests.map Request.params = match counted transport client schema restriction with
          | .error _ | .ok 0 => [c.params {}]
          | .ok (_ + 1) => [c.params {}, c.params options]) ∧
        ((∀ r ∈ requests, r.params = c.params options) ↔ c.Covers options) := by
  intro c page sent
  cases hrefused : Page.check number size >>= fun _ => Condition.whereClause schema condition with
  | error e => exact congrArg (fun p => p.2.sent) (run_paginate_refused hrefused)
  | ok restriction =>
    obtain ⟨_, hcheck, hrestriction⟩ := bind_eq_ok hrefused
    refine ⟨_, sent_paginate hcheck hrestriction (run_init hknown), ?_, ?_⟩
    · rw [pageRequests]
      cases counted transport client schema restriction with
      | error e => rfl
      | ok n => cases n <;> rfl
    · rw [← Connection.params_eq_iff, pageRequests, List.forall_mem_cons]
      have hcount : (countRequest client.connection schema restriction).params = c.params {} := rfl
      rw [hcount]
      refine and_iff_left_of_imp fun _ => ?_
      cases counted transport client schema restriction with
      | error e => simp
      | ok n =>
        cases n with
        | zero => simp
        | succ n =>
          intro r hr
          rw [List.mem_singleton.1 hr]
          rfl

/-- Options with a session. -/
def inSession : Options where
  session := some { id := "s1" }

theorem params_of_paginate_pairs :
    (((paginate pairTable "a" 1 10 none inSession).run onesServer shopClient).2.sent.map
      Request.params) = [[], [("session_id", "s1"), ("session_timeout", "60")]] := by
  have hknown : shopClient.connection.capabilities = some .fallback := rfl
  obtain ⟨requests, hsent, hparams, -⟩ :=
    @params_of_paginate onesServer shopClient _ _ hknown pairTable "a" 1 10 none inSession
  rw [hsent]
  exact hparams

/-- The rows are counted outside the session of the call. -/
theorem counted_outside_session :
    ∃ r ∈ ((paginate pairTable "a" 1 10 none inSession).run onesServer shopClient).2.sent,
      r.params = [] ∧ shopClient.connection.params inSession
        = [("session_id", "s1"), ("session_timeout", "60")] := by
  have hknown : shopClient.connection.capabilities = some .fallback := rfl
  have hclause : Condition.whereClause pairTable none = .ok "" := rfl
  refine ⟨countRequest shopClient.connection pairTable "", ?_, rfl, rfl⟩
  rw [sent_paginate rfl hclause (run_init hknown)]
  exact List.mem_cons_self

end Action

end Columnar
