import Rendezvous.Url.Host

/-! Uniform resource locators and their text. -/

namespace Rendezvous.Url

inductive Path
  /-- A path of a scheme that does not divide it. -/
  | whole (text : String)
  /-- The segments that follow one slash each. -/
  | segments (parts : List String)
deriving DecidableEq

/-- A parsed URL. Its parts are in the form in which they are sent. -/
structure Location where
  scheme : String
  username : String
  password : Option String
  /-- None if there is not even a place for a host. -/
  host : Option Host
  /-- None if it is the usual port of the scheme. -/
  port : Option Nat
  path : Path
  query : Option String
  fragment : Option String
deriving DecidableEq

namespace Path

def text : Path → String
  | whole t => t
  | segments parts => String.join (parts.map fun p => "/" ++ p)

end Path

/-- Schemes that share the syntax of web addresses, with their usual ports. -/
def usualPort? (scheme : String) : Option Nat :=
  match scheme with
  | "http" | "ws" => some 80
  | "https" | "wss" => some 443
  | "ftp" => some 21
  | _ => none

namespace Location

def hasHost (u : Location) : Bool :=
  match u.host with
  | none | some .empty => false
  | _ => true

def userinfo (u : Location) : String :=
  match u.password with
  | some p => u.username ++ ":" ++ p ++ "@"
  | none => if u.username.isEmpty then "" else u.username ++ "@"

def authority (h : Host) (port : Option Nat) : String :=
  h.text ++ (port.elim "" fun p => ":" ++ toString p)

/-- A path that starts with two slashes is kept from looking like a host. -/
def text (u : Location) : String :=
  let front := match u.host with
    | some h => "//" ++ u.userinfo ++ authority h u.port
    | none => if u.path.text.startsWith "//" then "/." else ""
  u.scheme ++ ":" ++ front ++ u.path.text ++ (u.query.elim "" fun q => "?" ++ q) ++
    (u.fragment.elim "" fun f => "#" ++ f)

end Location

end Rendezvous.Url
