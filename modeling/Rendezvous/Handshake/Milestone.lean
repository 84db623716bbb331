/-! How far a handshake has come. -/

namespace Rendezvous.Handshake

/-- The states of a handshake, in the only order in which they are reached. -/
inductive Milestone
  | start
  | invitationCreated
  | invitationReceived
  | inviteeAccepted
  | requestObserved
  | finalized
deriving DecidableEq

namespace Milestone

def next? : Milestone → Option Milestone
  | start => some invitationCreated
  | invitationCreated => some invitationReceived
  | invitationReceived => some inviteeAccepted
  | inviteeAccepted => some requestObserved
  | requestObserved => some finalized
  | finalized => none

/-- The number of steps behind a milestone. -/
def index : Milestone → Nat
  | start => 0
  | invitationCreated => 1
  | invitationReceived => 2
  | inviteeAccepted => 3
  | requestObserved => 4
  | finalized => 5

def isTerminal (m : Milestone) : Bool := m == finalized

def name : Milestone → String
  | start => "start"
  | invitationCreated => "invitation_created"
  | invitationReceived => "invitation_received"
  | inviteeAccepted => "invitee_accepted"
  | requestObserved => "request_observed"
  | finalized => "finalized"

end Milestone

end Rendezvous.Handshake
