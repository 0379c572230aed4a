import Columnar.Client.Action
import Columnar.Proofs.Result

/-!
Running actions step by step.

`run` of each way to build an action is given by the runs of its parts. A request goes to the
transport with all those before it, and it is kept whatever the answer is.
-/

namespace Columnar.Action

variable {α β : Type} {transport : Transport} {client after : Client}

/-! ### Plain actions -/

@[simp] theorem run_pure (a : α) : (pure a : Action α).run transport client = (.ok a, client) := rfl

@[simp] theorem run_throw (e : ClientError) :
    (throw e : Action α).run transport client = (.error e, client) := rfl

@[simp] theorem run_ofResult (r : Result α) : (ofResult r).run transport client = (r, client) := by
  cases r <;> rfl

theorem ofResult_eq_ok {r : Result α} {a : α}
    (h : (ofResult r).run transport client = (.ok a, after)) : r = .ok a ∧ client = after := by
  rw [run_ofResult] at h
  exact Prod.ext_iff.1 h

@[simp] theorem run_connection :
    connection.run transport client = (.ok client.connection, client) := rfl

@[simp] theorem run_changeConnection (change : Connection → Connection) :
    (changeConnection change).run transport client
      = (.ok (), { client with connection := change client.connection }) := rfl

/-! ### One action after another -/

/-- Where the first action fails, the second does not run. -/
theorem run_bind (action : Action α) (next : α → Action β) :
    (action >>= next).run transport client =
      match action.run transport client with
      | (.ok a, after) => (next a).run transport after
      | (.error e, after) => (.error e, after) := by
  have hstep : ∀ p : Result α × Client,
      (ExceptT.bindCont (fun a => next a transport) p.1 : StateM Client (Result β)) p.2 =
        match p with
        | (.ok a, after) => (next a).run transport after
        | (.error e, after) => (.error e, after) := by
    rintro ⟨_ | _, _⟩ <;> rfl
  exact hstep (action transport client)

theorem run_bind_ok {action : Action α} {a : α} (h : action.run transport client = (.ok a, after))
    (next : α → Action β) :
    (action >>= next).run transport client = (next a).run transport after := by
  rw [run_bind, h]

theorem run_bind_error {action : Action α} {e : ClientError}
    (h : action.run transport client = (.error e, after)) (next : α → Action β) :
    (action >>= next).run transport client = (.error e, after) := by
  rw [run_bind, h]

/-- What begins with a result that is an error does nothing. -/
theorem run_ofResult_bind {r : Result α} {e : ClientError} (h : r = .error e)
    (next : α → Action β) : (ofResult r >>= next).run transport client = (.error e, client) := by
  rw [run_bind, run_ofResult, h]

/-- A sequence succeeds only if both of its parts do. -/
theorem run_bind_eq_ok {action : Action α} {next : α → Action β} {b : β}
    (h : (action >>= next).run transport client = (.ok b, after)) :
    ∃ a between, action.run transport client = (.ok a, between) ∧
      (next a).run transport between = (.ok b, after) := by
  rw [run_bind] at h
  cases haction : action.run transport client with
  | mk r between =>
    rw [haction] at h
    cases r with
    | ok a => exact ⟨a, between, rfl, h⟩
    | error e => exact absurd (Prod.ext_iff.1 h).1 (by simp)

@[simp] theorem run_map (f : α → β) (action : Action α) :
    (f <$> action).run transport client
      = ((action.run transport client).1.map f, (action.run transport client).2) := by
  have hmap : f <$> action = action >>= fun a => pure (f a) := rfl
  rw [hmap, run_bind]
  cases action.run transport client with
  | mk r after => cases r <;> rfl

theorem ofResult_bind_pure (r : Result α) (f : α → β) :
    (ofResult r >>= fun a => pure (f a) : Action β) = ofResult (r.map f) := by
  cases r <;> rfl

/-- What is only computed from the result of an action leaves the client as it is. -/
theorem run_bind_ofResult (action : Action α) (f : α → Result β) :
    (action >>= fun a => ofResult (f a)).run transport client
      = ((action.run transport client).1 >>= f, (action.run transport client).2) := by
  rw [run_bind]
  cases action.run transport client with
  | mk r after =>
    cases r with
    | error e => rfl
    | ok a => exact run_ofResult (f a)

/-- The handler takes over where the action failed, with what was done so far. -/
theorem run_tryCatch (action : Action α) (handler : ClientError → Action α) :
    (tryCatch action handler).run transport client =
      match action.run transport client with
      | (.ok a, after) => (.ok a, after)
      | (.error e, after) => (handler e).run transport after := by
  have hstep : (tryCatch action handler).run transport client
      = ExceptT.tryCatch (action transport) (fun e => handler e transport) client := rfl
  rw [hstep, run]
  simp only [ExceptT.tryCatch, ExceptT.mk, bind, StateT.bind]
  cases action transport client with
  | mk r after => cases r <;> rfl

/-! ### Lists of actions -/

theorem run_forM_append {f : α → Action Unit} {front : List α}
    (h : (front.forM f).run transport client = (.ok (), after)) (rest : List α) :
    ((front ++ rest).forM f).run transport client = (rest.forM f).run transport after := by
  induction front generalizing client with
  | nil =>
    obtain ⟨-, rfl⟩ := Prod.ext_iff.1 h
    rfl
  | cons a front ih =>
    obtain ⟨_, between, ha, hfront⟩ := run_bind_eq_ok h
    have hcons : ((a :: front ++ rest).forM f) = f a >>= fun _ => (front ++ rest).forM f := rfl
    rw [hcons, run_bind_ok ha, ih hfront]

/-- A list of actions succeeds, or one of them fails after those in front of it have succeeded. -/
theorem run_forM_cases (f : α → Action Unit) (transport : Transport) :
    ∀ (l : List α) (client : Client),
      (∃ after, (l.forM f).run transport client = (.ok (), after)) ∨
      ∃ front a rest between e after, l = front ++ a :: rest ∧
        (front.forM f).run transport client = (.ok (), between) ∧
        (f a).run transport between = (.error e, after) ∧
        (l.forM f).run transport client = (.error e, after)
  | [], client => .inl ⟨client, rfl⟩
  | a :: l, client => by
    have hcons : (a :: l).forM f = f a >>= fun _ => l.forM f := rfl
    cases ha : (f a).run transport client with
    | mk r between =>
      cases r with
      | error e =>
        refine .inr ⟨[], a, l, client, e, between, rfl, rfl, ha, ?_⟩
        rw [hcons, run_bind_error ha]
      | ok u =>
        rw [hcons, run_bind_ok ha]
        rcases run_forM_cases f transport l between with
          ⟨after, h⟩ | ⟨front, x, rest, mid, e, after, hl, hfront, hx, h⟩
        · exact .inl ⟨after, h⟩
        · refine .inr ⟨a :: front, x, rest, mid, e, after, by rw [hl]; rfl, ?_, hx, h⟩
          have hfront' : (a :: front).forM f = f a >>= fun _ => front.forM f := rfl
          rw [hfront', run_bind_ok ha, hfront]

/-- Lists of actions succeed alike where their actions do. -/
theorem run_forM_ok_of_forall {f g : α → Action Unit}
    (h : ∀ a client after, (f a).run transport client = (.ok (), after) →
      (g a).run transport client = (.ok (), after)) :
    ∀ {l : List α} {client after : Client}, (l.forM f).run transport client = (.ok (), after) →
      (l.forM g).run transport client = (.ok (), after)
  | [], _, _, hl => hl
  | a :: l, client, after, hl => by
    obtain ⟨_, between, ha, hrest⟩ := run_bind_eq_ok hl
    have hcons : (a :: l).forM g = g a >>= fun _ => l.forM g := rfl
    rw [hcons, run_bind_ok (h a client between ha), run_forM_ok_of_forall h hrest]

/-- Actions that succeed from clients of a kind, and leave one of that kind, succeed one after
another. -/
theorem run_mapM_of_forall {f : α → Action β} {g : α → β} {P : Client → Prop}
    (h : ∀ a client, P client →
      ∃ after, (f a).run transport client = (.ok (g a), after) ∧ P after) :
    ∀ (l : List α) (client : Client), P client →
      ∃ after, (l.mapM f).run transport client = (.ok (l.map g), after) ∧ P after
  | [], client, hclient => ⟨client, by rw [List.mapM_nil]; rfl, hclient⟩
  | a :: l, client, hclient => by
    obtain ⟨between, ha, hbetween⟩ := h a client hclient
    obtain ⟨after, hl, hafter⟩ := run_mapM_of_forall h l between hbetween
    refine ⟨after, ?_, hafter⟩
    rw [List.mapM_cons, run_bind_ok ha, run_bind_ok hl]
    rfl

/-! ### Requests -/

@[simp] theorem run_post (request : Request) :
    (post request).run transport client
      = (transport client.sent request, { client with sent := client.sent ++ [request] }) := by
  have hpost : (post request).run transport client = (ofResult (transport client.sent request)).run
      transport { client with sent := client.sent ++ [request] } := rfl
  rw [hpost, run_ofResult]

/-- The request that a client sends with a body. -/
def request (c : Connection) (body : Body) (options : Options) : Request :=
  ⟨c.params options, body⟩

@[simp] theorem run_takesAll (body : Body) (options : Options) :
    (takesAll body options).run transport client
      = (.ok (transport.takesAll client.sent (request client.connection body options)), client) :=
  rfl

/-- A response with success; the text of any other is the server's error. -/
def accepted (r : Response) : Result Response :=
  if r.isSuccess then .ok r
  else r.body.text >>= fun text => .error (.server (.ofText text))

/-- Only a response with success is accepted. -/
theorem accepted_eq_ok {r response : Response} (h : accepted r = .ok response) :
    r = response ∧ response.isSuccess = true := by
  rw [accepted] at h
  split at h
  · next hsuccess =>
    obtain rfl := Except.ok.inj h
    exact ⟨rfl, hsuccess⟩
  · obtain ⟨text, -, htext⟩ := bind_eq_ok h
    exact absurd htext (by simp)

theorem run_dispatch (body : Body) (options : Options) :
    (dispatch body options).run transport client
      = (transport client.sent (request client.connection body options) >>= accepted,
          { client with sent := client.sent ++ [request client.connection body options] }) := by
  rw [dispatch, run_bind_ok run_connection, run_bind, run_post, request]
  cases transport client.sent ⟨client.connection.params options, body⟩ with
  | error e => rfl
  | ok response =>
    simp only [ok_bind, accepted]
    split
    · rfl
    · rw [run_bind, run_ofResult]
      cases response.body.text <;> rfl

/-- A dispatch that succeeds has had a response with success, and adds its request to those sent. -/
theorem dispatch_eq_ok {body : Body} {options : Options} {response : Response}
    (h : (dispatch body options).run transport client = (.ok response, after)) :
    transport client.sent (request client.connection body options) = .ok response ∧
      response.isSuccess = true ∧
      after = { client with sent := client.sent ++ [request client.connection body options] } := by
  rw [run_dispatch] at h
  obtain ⟨hanswer, rfl⟩ := Prod.ext_iff.1 h
  obtain ⟨r, hr, haccepted⟩ := bind_eq_ok hanswer
  obtain ⟨rfl, hsuccess⟩ := accepted_eq_ok haccepted
  exact ⟨hr, hsuccess, rfl⟩

/-- The reply to a request as text. -/
def replyText (answer : Result Response) : Result String :=
  answer >>= accepted >>= fun response => response.body.text

theorem run_dispatchText (statement : String) (options : Options) :
    (dispatchText statement options).run transport client
      = (replyText (transport client.sent
          (request client.connection (.ofText statement) options)),
          { client with
            sent := client.sent ++ [request client.connection (.ofText statement) options] }) := by
  rw [dispatchText, run_bind, run_dispatch, replyText]
  cases transport client.sent (request client.connection (.ofText statement) options) >>= accepted
    with
  | error e => rfl
  | ok response => rw [ok_bind]; exact run_ofResult _

end Columnar.Action
