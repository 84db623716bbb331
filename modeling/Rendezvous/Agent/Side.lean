/-! The two agents of a handshake and the names they give to connections. -/

namespace Rendezvous

inductive Side
  | inviter
  | invitee
deriving DecidableEq

/-- A connection's name at one agent. The names of one side say nothing to the other. -/
structure ConnectionId (side : Side) where
  text : String
deriving DecidableEq

end Rendezvous
