import Rendezvous.Time.Span
import Rendezvous.Agent.Endpoint
import Rendezvous.Agent.Wire
import Rendezvous.Agent.Call
import Rendezvous.Http.Request
import Rendezvous.Http.Response

/-! Calls as requests, and what agents respond to them. -/

namespace Rendezvous.Agent.Call

def title : Call → String
  | createInvitation .. => "create-invitation"
  | receiveInvitation .. => "receive-invitation"
  | acceptInvitation .. => "accept-invitation"
  | listConnections .. => "list-connections"
  | acceptRequest .. => "accept-request"

end Rendezvous.Agent.Call

namespace Rendezvous.Http

open Agent (Call Fault)

/-- A text that means nothing but itself anywhere in a URL. -/
def escape (s : String) : String := String.ofList (Text.percentEncode Text.isUnreserved s.toList)

def connectionPath (id action : String) : String := "/connections/" ++ escape id ++ "/" ++ action

def pathOf : Call → String
  | .createInvitation .. => "/connections/create-invitation"
  | .receiveInvitation .. => "/connections/receive-invitation"
  | .acceptInvitation id _ => connectionPath id.text "accept-invitation"
  | .listConnections _ => "/connections"
  | .acceptRequest id => connectionPath id.text "accept-request"

def given (name : String) (value : Option String) : List (String × String) :=
  (value.map fun v => (name, v)).toList

def parametersOf : Call → List (String × String)
  | .createInvitation a auto | .receiveInvitation _ a auto =>
    given "alias" a ++ [("auto_accept", if auto then "true" else "false")]
  | .acceptInvitation _ label => given "my_label" label
  | .listConnections a => given "alias" a
  | .acceptRequest _ => []

/-- The query of a URL, with its question mark if there is any parameter. -/
def queryOf (parameters : List (String × String)) : String :=
  if parameters.isEmpty then ""
  else "?" ++ String.intercalate "&" (parameters.map fun p => p.1 ++ "=" ++ escape p.2)

def methodOf : Call → Method
  | .listConnections _ => .get
  | _ => .post

/-- The JSON that goes with a call. An invitation goes as it came. -/
def bodyOf : Call → Option String
  | .receiveInvitation i .. => some i.text
  | .acceptInvitation .. | .acceptRequest _ => some "\x7b\x7d"
  | _ => none

/-- What comes of a call. -/
inductive Reception
  /-- The request cannot be made. -/
  | unsent (obstacle : Obstacle)
  /-- No response comes to the request, or none in time. -/
  | unanswered (request : Request)
  /-- The request is sent on until it is given up. -/
  | strayed (detail : String)
  | answered (request : Request) (response : Response)
deriving DecidableEq

structure Client where
  endpoint : Endpoint
  timeout : Span
deriving DecidableEq

namespace Client

def ofEndpoint (e : Endpoint) (timeout : Span) : Client :=
  ⟨{ e with baseUrl := Endpoint.trimSlashes e.baseUrl }, timeout⟩

def text (c : Client) : String := c.endpoint.describe "AgentClient"

def url (c : Client) (call : Call) : String :=
  c.endpoint.baseUrl ++ pathOf call ++ queryOf (parametersOf call)

def request (c : Client) (call : Call) : Except Obstacle Request :=
  let body := bodyOf call
  Request.build (methodOf call) (c.url call) c.endpoint.apiKey
    (body.map fun _ => "application/json") (body.getD "")

/-- The fault of a call that no response came to. -/
def unreachable (c : Client) (call : Call) (what detail : String) : Fault :=
  .unreachable c.endpoint.baseUrl (call.title ++ " " ++ what ++ ": " ++ detail)

/-- The text of a response that reports success. -/
def accepted [Text.Encodings] (c : Client) (call : Call) (r : Response) : Except Fault String :=
  if r.isSuccess then
    match r.text? with
    | some text => .ok text
    | none =>
      .error (c.unreachable call "response body could not be read" "error decoding response body")
  else .error (.refused c.endpoint.baseUrl r.status (r.text?.getD ""))

def parse (c : Client) (call : Call) (read : Json.Reader α) (text : String) : Except Fault α :=
  (Json.readAll read text).mapError fun e =>
    .malformed c.endpoint.baseUrl
      ("failed to parse " ++ call.title ++ " response: " ++ e.message ++ " (" ++ text ++ ")")

/-- A connection's name cannot be empty. -/
def needId (c : Client) (call : Call) (id? : Option String) : Except Fault String :=
  match id? with
  | some id =>
    if id.isEmpty then .error (noId c call) else .ok id
  | none => .error (noId c call)
where
  noId (c : Client) (call : Call) : Fault :=
    .malformed c.endpoint.baseUrl (call.title ++ " response has no connection_id")

def readCreated (c : Client) (call : Call) (text : String) : Except Fault Agent.Created := do
  let notice ← c.parse call Agent.createdShape.read text
  let id ← c.needId call notice.connectionId
  match notice.invitation with
  | some i => .ok ⟨⟨id⟩, i⟩
  | none => .error (.malformed c.endpoint.baseUrl (call.title ++ " response has no invitation"))

def readReceived (c : Client) (call : Call) (text : String) :
    Except Fault (ConnectionId .invitee) := do
  let notice ← c.parse call Agent.receivedShape.read text
  let id ← c.needId call notice.connectionId
  .ok ⟨id⟩

def readAnswer (c : Client) (call : Call) (text : String) : Agent.Result call :=
  match call with
  | .createInvitation .. => c.readCreated call text
  | .receiveInvitation .. => c.readReceived call text
  | .acceptInvitation .. => .ok ()
  | .listConnections .. => c.parse call Agent.listingShape.read text
  | .acceptRequest .. => .ok ()

def conclude [Text.Encodings] (c : Client) (call : Call) (request : Request)
    (response : Option Response) : Agent.Result call := do
  match response with
  | none =>
    .error (c.unreachable call "request failed"
      ("error sending request for url (" ++ request.url.text ++ ")"))
  | some r => c.readAnswer call (← c.accepted call r)

def settle [Text.Encodings] (c : Client) (call : Call) : Reception → Agent.Result call
  | .unsent o => .error (c.unreachable call "request failed" o.message)
  | .unanswered q => c.conclude call q none
  | .strayed detail => .error (c.unreachable call "request failed" detail)
  | .answered q response => c.conclude call q (some response)

end Client

end Rendezvous.Http
