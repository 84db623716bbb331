import Rendezvous.Handshake.Options
import Rendezvous.Handshake.Outcome
import Rendezvous.Handshake.Procedure

/-! The five steps of a handshake one by one, and the handshake that they make up. -/

namespace Rendezvous.Handshake

open Procedure

def createInvitation (o : Options) : Procedure Agent.Created :=
  call (.createInvitation o.aliasName false)

/-- Hands the invitation to the invitee as it is. -/
def receiveInvitation (o : Options) (i : Invitation) : Procedure (ConnectionId .invitee) :=
  call (.receiveInvitation i o.aliasName false)

/-- Has the invitee accept, whereupon its agent sends the inviter a request. -/
def acceptInvitation (o : Options) (id : ConnectionId .invitee) : Procedure Unit :=
  call (.acceptInvitation id o.label)

/-- The connection on which the request arrived, and the number of listings it took to see it. -/
structure Sighting where
  connection : ConnectionId .inviter
  polls : UInt32
deriving DecidableEq

def elapsed (since m : Moment) : Span := .saturate (1000000 * (m.tick - since.tick))

/-- Lists the inviter's connections until the request is among them or the budget is used up.
`polls` counts the listings that lie behind, in 32 bits, and `looks` bounds those to come. -/
def look (o : Options) (endpoint : String) (c : Correlation) (since : Moment) :
    (looks : Nat) → (polls : UInt32) → Procedure Sighting
  | 0, _ => stall
  | looks + 1, behind => do
    let listed ← call (.listConnections o.aliasName)
    let polls := behind + 1
    match c.select o.matching o.targetState listed with
    | some r => return ⟨⟨r.connectionId⟩, polls⟩
    | none =>
      let waited := elapsed since (← clock)
      match o.backoff.next? (polls - 1).toNat waited with
      | none => fail (.noRequest endpoint o.targetState polls waited)
      | some d =>
        wait d
        look o endpoint c since looks polls

/-- The greatest number of listings that can bring something new: the clock goes on by a millisecond
or more between two of them, unless it stands still while the agents have new answers in stock. -/
def looksWithin (b : Backoff) (stock : Nat) : Nat := b.budget.millisUp + 1 + stock

def awaitRequest (o : Options) (endpoint : String) (stock : Nat) (c : Correlation) :
    Procedure Sighting := do
  let since ← clock
  look o endpoint c since (looksWithin o.backoff stock) 0

def acceptRequest (id : ConnectionId .inviter) : Procedure Unit := call (.acceptRequest id)

def handshake (o : Options) (endpoint : String) (stock : Nat) : Procedure Outcome := do
  let created ← createInvitation o
  let _ ← advance .invitationCreated
  let invitee ← receiveInvitation o created.invitation
  let _ ← advance .invitationReceived
  acceptInvitation o invitee
  let _ ← advance .inviteeAccepted
  let seen ← awaitRequest o endpoint stock ⟨created.connection, o.aliasName⟩
  let _ ← advance .requestObserved
  acceptRequest seen.connection
  let progress ← advance .finalized
  let finished ← clock
  return {
    inviter := seen.connection
    invitee := invitee
    final := progress.milestone
    transitions := progress.transitions
    polls := seen.polls
    startedAt := progress.startedAt
    finishedAt := finished.stamp }

end Rendezvous.Handshake
