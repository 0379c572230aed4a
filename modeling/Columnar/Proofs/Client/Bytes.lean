import Columnar.Client.Select
import Columnar.Proofs.Client.Run
import Columnar.Proofs.Http.Lines

/-!
What actions see of a reply.

The probe and the queries look at the status and the bytes of a reply, and not at the chunks that
the bytes come in (`ReadsBytes`). So it makes no difference to them how a transport cuts the bodies
of its replies (`ReadsBytes.run_eq`).
-/

namespace Columnar

/-! ### The same bytes in other chunks -/

/-- Both replies have one status and the same bytes, up to an error that is the same too. -/
structure Response.SameBytes (r r' : Response) : Prop where
  status : r.status = r'.status
  read : r.body.read = r'.body.read

/-- The answers are one error, or replies with the same bytes. -/
inductive SameAnswer : Result Response → Result Response → Prop
  | error (e : ClientError) : SameAnswer (.error e) (.error e)
  | ok {r r' : Response} (h : r.SameBytes r') : SameAnswer (.ok r) (.ok r')

/-- Both transports answer every request with the same bytes. -/
def Transport.SameBytes (transport transport' : Transport) : Prop :=
  ∀ sent request, SameAnswer (transport sent request) (transport' sent request)

namespace Action

variable {α β : Type} {transport transport' : Transport}

theorem SameAnswer.accepted {answer answer' : Result Response} (h : SameAnswer answer answer') :
    SameAnswer (answer >>= accepted) (answer' >>= accepted) := by
  cases h with
  | error e => exact .error e
  | @ok r r' h =>
    have hsuccess : r.isSuccess = r'.isSuccess := by
      rw [Response.isSuccess, Response.isSuccess, h.status]
    rw [ok_bind, ok_bind, Action.accepted, Action.accepted, hsuccess, Body.text_congr h.read]
    split
    · exact .ok h
    · cases r'.body.text with
      | error e => exact .error e
      | ok text => exact .error _

/-- A reading of replies that depends on their bytes alone gives the same for both answers. -/
theorem SameAnswer.bind_eq {answer answer' : Result Response} (h : SameAnswer answer answer')
    {read : Response → Result α} (hread : ∀ r r', r.SameBytes r' → read r = read r') :
    (answer >>= read) = (answer' >>= read) := by
  cases h with
  | error e => rfl
  | ok h => exact hread _ _ h

/-! ### Actions that read bytes -/

/-- The action sees nothing of a reply but its status and its bytes. -/
inductive ReadsBytes : {α : Type} → Action α → Prop
  | pure {α : Type} (a : α) : ReadsBytes (pure a : Action α)
  | throw {α : Type} (e : ClientError) : ReadsBytes (throw e : Action α)
  | bind {α β : Type} {action : Action α} {next : α → Action β} (h : ReadsBytes action)
      (hnext : ∀ a, ReadsBytes (next a)) : ReadsBytes (action >>= next)
  | tryCatch {α : Type} {action : Action α} {handler : ClientError → Action α}
      (h : ReadsBytes action) (hhandler : ∀ e, ReadsBytes (handler e)) :
      ReadsBytes (MonadExcept.tryCatch action handler)
  | connection : ReadsBytes connection
  | changeConnection {change : Connection → Connection} (h : ∀ c, (change c).config = c.config) :
      ReadsBytes (changeConnection change)
  | reply {α : Type} (body : Body) (options : Options) {read : Response → Result α}
      (h : ∀ r r' : Response, r.SameBytes r' → read r = read r') :
      ReadsBytes (dispatch body options >>= fun response => ofResult (read response))

theorem run_reply (body : Body) (options : Options) (read : Response → Result α) (client : Client) :
    (dispatch body options >>= fun response => ofResult (read response)).run transport client
      = (transport client.sent (request client.connection body options) >>= accepted >>= read,
          { client with sent := client.sent ++ [request client.connection body options] }) := by
  rw [run_bind, run_dispatch]
  cases transport client.sent (request client.connection body options) >>= accepted with
  | error e => rfl
  | ok response => exact run_ofResult _

/-- How a transport cuts its replies makes no difference to such an action. -/
theorem ReadsBytes.run_eq {action : Action α} (h : ReadsBytes action)
    (hsame : transport.SameBytes transport') (client : Client) :
    action.run transport client = action.run transport' client := by
  induction h generalizing client with
  | pure a => rfl
  | throw e => rfl
  | bind _ _ ih ihnext =>
    rw [run_bind, run_bind, ih]
    split
    · exact ihnext _ _
    · rfl
  | tryCatch _ _ ih ihhandler =>
    refine (run_tryCatch _ _).trans (Eq.trans ?_ (run_tryCatch _ _).symm)
    rw [ih]
    split
    · rfl
    · exact ihhandler _ _
  | connection => rfl
  | changeConnection _ => rfl
  | reply body options hread =>
    rw [run_reply, run_reply]
    exact Prod.ext (SameAnswer.bind_eq (SameAnswer.accepted (hsame _ _)) hread) rfl

/-! ### Ways to build them -/

theorem ReadsBytes.map {action : Action α} (h : ReadsBytes action) (f : α → β) :
    ReadsBytes (f <$> action) :=
  h.bind fun a => .pure (f a)

theorem readsBytes_dispatchText (statement : String) (options : Options) :
    ReadsBytes (dispatchText statement options) :=
  .reply (.ofText statement) options fun _ _ h => Body.text_congr h.read

/-! ### The probe -/

theorem readsBytes_ask (question : String) : ReadsBytes (ask question) :=
  (readsBytes_dispatchText question {}).bind fun _ => .pure _

theorem readsBytes_ask? (question : String) : ReadsBytes (ask? question) := by
  refine .tryCatch ((readsBytes_ask question).map some) fun e => ?_
  split
  · exact .pure none
  · exact .throw e

theorem readsBytes_createDatabaseUnprobed : ReadsBytes createDatabaseUnprobed :=
  .bind .connection fun _ => (readsBytes_dispatchText _ {}).bind fun _ =>
    .changeConnection fun _ => rfl

theorem readsBytes_settleAccess (databaseExists : Bool) :
    ReadsBytes (settleAccess databaseExists) := by
  have hask : ReadsBytes (askServerReadOnly >>= fun isServerReadOnly =>
      changeConnection fun c => { c with isServerReadOnly, isReadOnly := true }) :=
    .bind ((readsBytes_ask _).bind fun _ => .pure _) fun _ => .changeConnection fun _ => rfl
  refine .bind .connection fun c => ?_
  cases hread : c.config.isReadOnly with
  | true =>
    cases databaseExists with
    | true => simpa [hread] using hask
    | false => simpa [hread] using ReadsBytes.bind (.throw _) fun _ => hask
  | false =>
    simp only [hread, Bool.false_eq_true, if_false]
    split
    · exact readsBytes_createDatabaseUnprobed
    · exact .pure ()

theorem readsBytes_probe : ReadsBytes probe := by
  refine .bind (.bind .connection fun _ => (readsBytes_ask _).bind fun _ => .pure _)
    fun databaseExists => ?_
  refine .bind (.changeConnection fun _ => rfl) fun _ => ?_
  refine (readsBytes_settleAccess databaseExists).bind fun _ => ?_
  refine .bind ((readsBytes_ask? _).bind fun _ => .pure _) fun version => ?_
  split
  · exact ReadsBytes.bind ((readsBytes_ask? _).bind fun _ => .pure _) fun _ => .pure _
  · exact .pure _

theorem readsBytes_capabilities : ReadsBytes capabilities := by
  refine .bind .connection fun c => ?_
  split
  · exact .pure _
  · exact .bind readsBytes_probe fun server => .bind (.changeConnection fun _ => rfl) fun _ =>
      .pure server

/-! ### Queries -/

theorem readsBytes_select [Clocks] (query : String) (schema : Option Schema) (options : Options) :
    ReadsBytes (select query schema options) :=
  .bind .connection fun _ => .bind readsBytes_capabilities fun server =>
    .reply _ options fun _ _ h =>
      congrArg (RowStream.ofLines schema server.zone) (Body.lines_congr h.read)

end Action

end Columnar
