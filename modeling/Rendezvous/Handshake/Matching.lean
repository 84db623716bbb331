import Rendezvous.Text.Blank
import Rendezvous.Agent.Side
import Rendezvous.Agent.Record

/-! Which of the inviter's connections carries the invitee's request. -/

namespace Rendezvous.Handshake

/-- How to tell the connection of this handshake from others. -/
inductive Matching
  /-- By its name alone. -/
  | strict
  /-- By its name or, while no connection of that name is listed, by being last in line. -/
  | lastMatch
deriving DecidableEq

structure UnknownMatching where
  given : String
deriving DecidableEq

def UnknownMatching.message (u : UnknownMatching) : String :=
  "expected 'strict' or 'last-match', got '" ++ u.given ++ "'"

namespace Matching

/-- Reads the name of a rule, in letters of either case. -/
def ofText (s : String) : Except UnknownMatching Matching :=
  match Text.asciiLower (Text.trim s) with
  | "strict" => .ok strict
  | "last-match" | "last_match" => .ok lastMatch
  | other => .error ⟨other⟩

end Matching

/-- What ties a connection to this handshake. -/
structure Correlation where
  connectionId : ConnectionId .inviter
  aliasName : Option String

namespace Correlation

/-- The record of this handshake in the target state. While a record of the right name is listed it
alone decides. Under `lastMatch` the last record in the target state that has the alias stands in
for a missing one, and then the last record in the target state. -/
def choose (c : Correlation) (rule : Matching) (target : String) (record : α → ConnectionRecord)
    (listed : List α) : Option α :=
  match listed.find? fun x => (record x).connectionId == c.connectionId.text with
  | some own => if (record own).isIn target then some own else none
  | none =>
    match rule with
    | .strict => none
    | .lastMatch =>
      let ready := listed.filter fun x => (record x).isIn target
      let named := c.aliasName.bind fun a =>
        (ready.filter fun x => (record x).aliasName == some a).getLast?
      named.or ready.getLast?

def select (c : Correlation) (rule : Matching) (target : String)
    (listed : List ConnectionRecord) : Option ConnectionRecord :=
  c.choose rule target id listed

def selectIndex (c : Correlation) (rule : Matching) (target : String)
    (listed : List ConnectionRecord) : Option Nat :=
  (c.choose rule target Prod.fst listed.zipIdx).map Prod.snd

end Correlation

end Rendezvous.Handshake
