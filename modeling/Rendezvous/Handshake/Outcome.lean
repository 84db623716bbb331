import Rendezvous.Agent.Side
import Rendezvous.Handshake.Progress
import Rendezvous.Json.Tree

/-! The result of a completed handshake. -/

namespace Rendezvous.Handshake

structure Outcome where
  inviter : ConnectionId .inviter
  invitee : ConnectionId .invitee
  final : Milestone
  transitions : List Transition
  /-- The number of times that the inviter's connections were listed. -/
  polls : UInt32
  startedAt : Stamp
  finishedAt : Stamp
deriving DecidableEq

open Json (Tree)

def Transition.tree (t : Transition) : Tree :=
  .object [("from", .text t.source.name), ("to", .text t.target.name), ("at", .text t.time.text)]

def Outcome.tree (o : Outcome) : Tree :=
  .object [
    ("inviter_connection_id", .text o.inviter.text),
    ("invitee_connection_id", .text o.invitee.text),
    ("final_state", .text o.final.name),
    ("transitions", .list (o.transitions.map Transition.tree)),
    ("polls", .number o.polls.toNat),
    ("started_at", .text o.startedAt.text),
    ("finished_at", .text o.finishedAt.text)]

end Rendezvous.Handshake
