import Rendezvous.Http.Request
import Rendezvous.Http.Response
import Rendezvous.Url.Relative

/-! Responses that send a request on to another place. -/

namespace Rendezvous.Http

/-- What a response does to its request. -/
inductive Redirection
  /-- It answers it. -/
  | stays
  /-- The request is given up. -/
  | fails (detail : String)
  | leads (next : Request)
deriving DecidableEq

def isRedirect (status : Nat) : Bool := [301, 302, 303, 307, 308].contains status

def keepsBody (status : Nat) : Bool := [307, 308].contains status

def mostRedirects : Nat := 10

def isWebScheme (scheme : String) : Bool := scheme == "http" || scheme == "https"

def isSamePlace (u v : Url.Location) : Bool :=
  let port (u : Url.Location) : Option Nat := u.port.or (Url.usualPort? u.scheme)
  u.host == v.host && port u == port v

namespace Request

/-- Where a response sends its request. A web address has to be one that requests can be sent to. -/
def destination? (q : Request) (r : Response) : Option Url.Location := do
  let u ← (Url.join q.url (← r.location)).toOption
  if isWebScheme u.scheme && !isReachable u then none else some u

/-- The place that a request sent on comes from. It is not named where the way leads out of an
encrypted connection. -/
def refererAt (q : Request) (u : Url.Location) : Option String :=
  if u.scheme = "http" ∧ q.url.scheme = "https" then q.referer
  else some { q.url with username := "", password := none, fragment := none : Url.Location }.text

/-- The request at another place. User name and password stay behind, the key does not. -/
def movedTo (q : Request) (status : Nat) (u : Url.Location) : Request where
  method := if keepsBody status then q.method else .get
  url := u
  credentials := if isSamePlace q.url u then q.credentials else none
  apiKey := q.apiKey
  contentType := if keepsBody status then q.contentType else none
  body := if keepsBody status then q.body else ""
  referer := q.refererAt u

/-- What a response does to a request that has been sent on `followed` times. -/
def redirection (q : Request) (followed : Nat) (r : Response) : Redirection :=
  if isRedirect r.status then
    match q.destination? r with
    | none => .stays
    | some u =>
      if mostRedirects ≤ followed then
        .fails ("error following redirect for url (" ++ q.url.text ++ ")")
      else if isWebScheme u.scheme then .leads (q.movedTo r.status u)
      else .fails ("builder error for url (" ++ u.text ++ ")")
  else .stays

end Request

end Rendezvous.Http
