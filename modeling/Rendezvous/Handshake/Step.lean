import Rendezvous.Agent.Side

/-! The five steps of a handshake. -/

namespace Rendezvous.Handshake

/-- One of the operations that make up a handshake, in their order. -/
inductive Step
  | createInvitation
  | receiveInvitation
  | acceptInvitation
  | awaitRequest
  | acceptRequest
deriving DecidableEq

namespace Step

def name : Step → String
  | createInvitation => "create-invitation"
  | receiveInvitation => "receive-invitation"
  | acceptInvitation => "accept-invitation"
  | awaitRequest => "poll-for-incoming-request"
  | acceptRequest => "accept-request"

def side : Step → Side
  | receiveInvitation | acceptInvitation => .invitee
  | _ => .inviter

end Step

end Rendezvous.Handshake
