import Columnar.Http

/-!
Scripted servers: transports that answer by a list of rules.

A rule matches requests by the text of their bodies and may be used a limited number of times; the
first rule that matches and is not used up gives the reply. A server may answer the questions of the
probe on its own before its rules are asked. Requests whose body breaks off are neither counted nor
answered by a rule.
-/

namespace Columnar.Server

open Text (Bytes)

/-- What a rule answers with. -/
inductive Reply where
  | failure (error : ClientError)
  | response (status : Nat) (body : Body)

/-- A rule: which requests it matches, how often it may still be used, and its reply. -/
structure Rule where
  starts : String := ""
  contained : String := ""
  uses : Option Nat := none
  reply : Reply

/-- How a server behaves apart from its rules. -/
inductive Kind where
  /-- Hands the error of a broken body back. -/
  | plain
  /-- Like `plain`, and answers the probe as a healthy server. -/
  | healthy
  /-- Reports the error of a broken body as one of its own. -/
  | remote
  deriving DecidableEq, Repr

/-- A scripted server. -/
structure Script where
  kind : Kind
  rules : List Rule

/-- Whether a text occurs in another. -/
def occursIn (part : List Char) : List Char → Bool
  | [] => part.isEmpty
  | c :: rest => part.isPrefixOf (c :: rest) || occursIn part rest

/-- Whether a rule matches a text and is not used up. -/
def Rule.applies (r : Rule) (text : List Char) : Bool :=
  r.starts.toList.isPrefixOf text && occursIn r.contained.toList text && r.uses != some 0

/-- The rule once more used. -/
def Rule.used (r : Rule) : Rule :=
  { r with uses := r.uses.map (· - 1) }

/-- The reply to a request that no rule matches. -/
def silence : Reply := .response 200 []

/-- The reply to a text, and the rules after it. -/
def answer (text : List Char) : List Rule → Reply × List Rule
  | [] => (silence, [])
  | r :: rules =>
    if r.applies text then (r.reply, r.used :: rules)
    else
      let (reply, rules) := answer text rules
      (reply, r :: rules)

/-- How a healthy server answers the probe. -/
def probeReplies : List (String × String) :=
  [("SELECT count() FROM system.databases", "1\n"),
   ("SELECT version()", "22.8.1.1\n"),
   ("SELECT timezone()", "UTC\n"),
   ("SELECT value FROM system.settings WHERE name = 'readonly'", "0\n")]

/-- The answer of a healthy server to a question of the probe. -/
def probeReply? (text : List Char) : Option Reply :=
  (probeReplies.find? fun (question, _) => question.toList.isPrefixOf text).map fun (_, reply) =>
    .response 200 (.ofText reply)

/-- The texts of the chunks of a request. -/
def chunkTexts (chunks : List Bytes) : List String :=
  chunks.map Text.repairUtf8

/-- The reply to the chunks of a request, and the script after it. -/
def Script.answer (s : Script) (chunks : List Bytes) : Reply × Script :=
  let text := (chunkTexts chunks).flatMap String.toList
  match s.kind, probeReply? text with
  | .healthy, some reply => (reply, s)
  | _, _ =>
    let (reply, rules) := Server.answer text s.rules
    (reply, { s with rules })

/-- The chunks of a request that arrives whole. -/
def wholeChunks (request : Request) : Result (List Bytes) :=
  request.body.mapM id

/-- The script after the requests before. -/
def Script.after (s : Script) (requests : List Request) : Script :=
  requests.foldl (fun s request =>
    match wholeChunks request with
    | .ok chunks => (s.answer chunks).2
    | .error _ => s) s

/-- The transport to a scripted server. -/
def Script.transport (s : Script) : Transport where
  answer requests request :=
    match wholeChunks request with
    | .error error =>
      if s.kind = .remote then .error (.connection ("error sending request: " ++ error.message))
      else .error error
    | .ok chunks =>
      match ((s.after requests).answer chunks).1 with
      | .failure error => .error error
      | .response status body => .ok ⟨status, body⟩

/-- The requests that reached the server, each with the texts of its chunks. -/
def received (requests : List Request) : List (Settings × List String) :=
  requests.filterMap fun request =>
    match wholeChunks request with
    | .ok chunks => some (request.params, chunkTexts chunks)
    | .error _ => none

/-- A body of pieces of a given size. -/
def pieces (size : Nat) (bytes : Bytes) : Body :=
  match bytes with
  | [] => []
  | b :: rest => .ok (b :: rest.take (size - 1)) :: pieces size (rest.drop (size - 1))
termination_by bytes.length
decreasing_by simp only [List.length_drop, List.length_cons]; omega

end Columnar.Server
