import Rendezvous.Agent.Side
import Rendezvous.Agent.Fault
import Rendezvous.Agent.Record
import Rendezvous.Agent.Invitation

/-! What can be asked of the two agents and what they answer. -/

namespace Rendezvous.Agent

/-- One request. Each is for one side only, so a connection's name cannot go to the wrong agent. -/
inductive Call
  | createInvitation (aliasName : Option String) (autoAccept : Bool)
  | receiveInvitation (invitation : Invitation) (aliasName : Option String) (autoAccept : Bool)
  | acceptInvitation (connection : ConnectionId .invitee) (label : Option String)
  | listConnections (aliasName : Option String)
  | acceptRequest (connection : ConnectionId .inviter)
deriving DecidableEq

/-- A new invitation and the inviter's name for the connection it is to bring. -/
structure Created where
  connection : ConnectionId .inviter
  invitation : Invitation
deriving DecidableEq

namespace Call

/-- What a successful call brings. -/
abbrev Answer : Call → Type
  | createInvitation .. => Created
  | receiveInvitation .. => ConnectionId .invitee
  | acceptInvitation .. => Unit
  | listConnections .. => List ConnectionRecord
  | acceptRequest .. => Unit

def side : Call → Side
  | receiveInvitation .. | acceptInvitation .. => .invitee
  | _ => .inviter

end Call

/-- How an exchange with an agent went: what came of it, the milliseconds it took, and whether the
handshake was cancelled from outside the moment it began. -/
structure Reply (α : Type) where
  answer : α
  latency : Nat
  cancels : Bool

abbrev Result (call : Call) : Type := Except Fault call.Answer

end Rendezvous.Agent

namespace Rendezvous

/-- Two agents, where `σ` is what their answers depend on. -/
structure Agents (σ : Type) where
  endpoint : Side → String
  ask : (call : Agent.Call) → σ → Agent.Reply (Agent.Result call) × σ
  /-- After that many listings the agents repeat themselves. -/
  stock : σ → Nat

end Rendezvous
