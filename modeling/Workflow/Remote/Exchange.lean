import Workflow.Engine.Request
import Workflow.Engine.Text
import Workflow.Url.Extend

/-!
# Asking a remote engine

Each request has an address below the engine's own, a method and sometimes a body. An answer with
a status from 200 to 299 is a success and carries an envelope with the reply, except that the
answer to an execution is not looked at. Any other status is a failure, and so is an answer that
cannot be read or does not come.
-/

namespace Workflow

/-- What is to be done at an address. -/
inductive Method where
  | get
  | post
  | put
  | patch
deriving DecidableEq, Repr, Inhabited

/-- The name of a method. -/
def Method.name : Method → String
  | .get => "GET"
  | .post => "POST"
  | .put => "PUT"
  | .patch => "PATCH"

/-- A message to the engine; a body is JSON text. -/
structure HttpRequest where
  method : Method
  url : Url
  body : Option String
deriving DecidableEq, Repr

/-- A message from the engine. -/
structure HttpReply where
  status : Nat
  body : String
deriving DecidableEq, Repr

/-- Whether a message tells of a success. -/
def HttpReply.isSuccess (reply : HttpReply) : Bool :=
  200 ≤ reply.status && reply.status < 300

/-- How the network carries messages: a reply, or why there is none. -/
abbrev Network :=
  HttpRequest → Except String HttpReply

namespace Request

/-- The segments of a request's address after those that all requests share. -/
def pathSegments : Request → List String
  | .list | .create _ => ["definitions"]
  | .get id | .update id _ => ["definitions", toString id.toInt]
  | .setStatus id _ => ["definitions", toString id.toInt, "status"]
  | .execute name _ => ["execute-by-name", name]
  | .runs => ["instances"]

/-- The method of a request. -/
def method : Request → Method
  | .list | .get _ | .runs => .get
  | .create _ | .execute .. => .post
  | .update .. => .put
  | .setStatus .. => .patch

/-- The body of a request. -/
def body : Request → Option Json
  | .create creation => some creation.toJson
  | .update _ payload => some payload.toJson
  | .execute _ context => some context
  | _ => none

/-- The address of a request to the engine at `base`. -/
def url? (base : Url) (request : Request) : Option Url :=
  (base.below? ("api" :: "workflow" :: request.pathSegments)).map fun url =>
    match request with
    | .setStatus _ status => url.withParameter "status" status.name
    | _ => url

/-- A request as a message to the engine at `base`. -/
def toHttp (base : Url) (request : Request) : Except Failure HttpRequest :=
  match request.url? base with
  | some url => .ok ⟨request.method, url, request.body.map Json.compact⟩
  | none => .error (.invalidRequest ("cannot extend base url " ++ base.text))

/-- The reply that an engine's answer of success carries. -/
def reply? (request : Request) (body : String) : Option Reply :=
  let data {α : Type} (decode : ParseTree → Option α) : Option α :=
    (ParseTree.read body).bind (envelopeData? decode)
  match request with
  | .list => (data (ParseTree.list? Record.ofTree?)).map .definitions
  | .runs => (data (ParseTree.list? Run.ofTree?)).map .runs
  | .execute .. => some .executed
  | .get _ | .create _ | .update .. | .setStatus .. => (data Record.ofTree?).map .definition

/-- What an engine's answer to a request means. -/
def replyOfHttp (request : Request) (answer : HttpReply) : Except Failure Reply :=
  if answer.isSuccess then
    match request.reply? answer.body with
    | some reply => .ok reply
    | none => .error (.undecodable "not an answer to this request")
  else .error (.status answer.status answer.body)

end Request

/-- A remote engine: where it is and how it is reached. -/
structure RemoteEngine where
  base : Url
  network : Network

/-- Ask a remote engine. -/
def RemoteEngine.serve (engine : RemoteEngine) (request : Request) : Except EngineError Reply :=
  let result := do
    let message ← request.toHttp engine.base
    let answer ← (engine.network message).mapError Failure.transport
    request.replyOfHttp answer
  result.mapError fun failure => ⟨request.operation, failure⟩

end Workflow
