import Rendezvous.Agent.Call

/-! Agents that answer as they are told beforehand. -/

namespace Rendezvous.Agent

/-- What the calls of one kind bring, in their order. The last one repeats. -/
structure Cues (α : Type) where
  current : Reply (Except Fault α)
  later : List (Reply (Except Fault α))

namespace Cues

def always (r : Reply (Except Fault α)) : Cues α := ⟨r, []⟩

def next (c : Cues α) : Reply (Except Fault α) × Cues α :=
  match c.later with
  | [] => (c.current, c)
  | r :: rs => (c.current, ⟨r, rs⟩)

end Cues

/-- All replies of both agents. -/
structure Script where
  created : Cues Created
  received : Cues (ConnectionId .invitee)
  invitationAccepted : Cues Unit
  listed : Cues (List ConnectionRecord)
  requestAccepted : Cues Unit

namespace Script

def reply (s : Script) : (call : Call) → Reply (Result call) × Script
  | .createInvitation .. => let (r, c) := s.created.next; (r, { s with created := c })
  | .receiveInvitation .. => let (r, c) := s.received.next; (r, { s with received := c })
  | .acceptInvitation .. =>
    let (r, c) := s.invitationAccepted.next
    (r, { s with invitationAccepted := c })
  | .listConnections .. => let (r, c) := s.listed.next; (r, { s with listed := c })
  | .acceptRequest .. => let (r, c) := s.requestAccepted.next; (r, { s with requestAccepted := c })

def agents (endpoint : Side → String) : Agents Script where
  endpoint := endpoint
  ask call s := s.reply call
  stock s := s.listed.later.length + 1

end Script

end Rendezvous.Agent
