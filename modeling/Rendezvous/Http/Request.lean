import Rendezvous.Url.Parse

/-! Requests that can be sent. -/

namespace Rendezvous.Http

inductive Method
  | get
  | post
deriving DecidableEq

def Method.name : Method → String
  | get => "GET"
  | post => "POST"

/-- A user name and a password, which are sent apart from the URL that they came with. -/
structure Credentials where
  username : String
  password : Option String
deriving DecidableEq

structure Request where
  method : Method
  url : Url.Location
  credentials : Option Credentials
  apiKey : Option String
  contentType : Option String
  body : String
  /-- The place that has sent the request on. -/
  referer : Option String
deriving DecidableEq

inductive Obstacle
  | badUrl (fault : Url.Fault)
  | badKey
  /-- There is no way to a place with such a URL. -/
  | noWay (url : Url.Location)
deriving DecidableEq

def Obstacle.message : Obstacle → String
  | badUrl _ | badKey => "builder error"
  | noWay u => "builder error for url (" ++ u.text ++ ")"

/-- Characters that a header can hold: no controls but the tab. -/
def isHeaderChar (c : Char) : Bool := (0x20 ≤ c.toNat && c.toNat != 0x7F) || c == '\t'

/-- The user name and password in a URL. They have to spell a text. -/
def credentials? (u : Url.Location) : Option Credentials := do
  let plain (s : String) : Option String :=
    (Text.decodeUtf8? (Text.percentDecode s.toList)).map String.ofList
  let username ← plain u.username
  let password := u.password.bind plain
  if username.isEmpty && password.isNone then none else some ⟨username, password⟩

def withoutCredentials (u : Url.Location) : Url.Location :=
  if (credentials? u).isSome then { u with username := "", password := none } else u

def longestUrl : Nat := 65534

/-- A URL to which a request can be sent: a web address of bounded length, whose host has no
characters that stand for something else in a message. -/
def isReachable (u : Url.Location) : Bool :=
  let host := u.host.elim "" Url.Host.text
  (u.scheme == "http" || u.scheme == "https") &&
    !(host.toList.any fun c => ['"', '\x60', '\x7b', '\x7d'].contains c) &&
    u.text.utf8ByteSize ≤ longestUrl

namespace Request

/-- Makes a request. Of several obstacles the first one met counts. -/
def build (method : Method) (url : String) (apiKey contentType : Option String) (body : String) :
    Except Obstacle Request :=
  match Url.parse url with
  | .error f => .error (.badUrl f)
  | .ok u =>
    if !u.hasHost then .error (.noWay u)
    else if apiKey.any fun k => !(k.toList.all isHeaderChar) then .error .badKey
    else
      let target := withoutCredentials u
      if isReachable target then
        .ok ⟨method, target, credentials? u, apiKey, contentType, body, none⟩
      else .error (.noWay target)

/-- The URL as it is sent. The fragment stays behind. -/
def urlSent (r : Request) : String := { r.url with fragment := none : Url.Location }.text

end Request

end Rendezvous.Http
