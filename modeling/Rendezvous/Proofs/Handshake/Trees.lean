import Rendezvous.Handshake.Steps

/-! The handshake written out as a tree of calls and waits. -/

namespace Rendezvous.Handshake

open Procedure

variable {α : Type}

/-- One look and what follows it. -/
theorem bind_look_succ (o : Options) (endpoint : String) (c : Correlation) (since : Moment)
    (looks : Nat) (polls : UInt32) (rest : Sighting → Procedure α) :
    (look o endpoint c since (looks + 1) polls).bind rest =
      ask (.listConnections o.aliasName) fun listed =>
        match c.select o.matching o.targetState listed with
        | some r => rest ⟨⟨r.connectionId⟩, polls + 1⟩
        | none => now fun m =>
          match o.backoff.next? polls.toNat (elapsed since m) with
          | none => fail (.noRequest endpoint o.targetState (polls + 1) (elapsed since m))
          | some d => pause d ((look o endpoint c since looks (polls + 1)).bind rest) := by
  simp only [look, call, Bind.bind, Procedure.bind, UInt32.add_sub_cancel]
  congr 1
  funext listed
  cases c.select o.matching o.targetState listed with
  | some r => simp only [Pure.pure, Procedure.bind]
  | none =>
    simp only [clock, Procedure.bind]
    congr 1
    funext m
    cases o.backoff.next? polls.toNat (elapsed since m) with
    | none => simp only [Procedure.bind]
    | some d => simp only [wait, Procedure.bind]

/-- The steps after the request has been seen. -/
def acceptSeen (invitee : ConnectionId .invitee) (seen : Sighting) : Procedure Outcome :=
  reach .requestObserved fun _ =>
    ask (.acceptRequest seen.connection) fun _ =>
      reach .finalized fun progress => now fun finished =>
        done {
          inviter := seen.connection
          invitee := invitee
          final := progress.milestone
          transitions := progress.transitions
          polls := seen.polls
          startedAt := progress.startedAt
          finishedAt := finished.stamp }

theorem handshake_eq (o : Options) (endpoint : String) (stock : Nat) :
    handshake o endpoint stock =
      ask (.createInvitation o.aliasName false) fun created =>
        reach .invitationCreated fun _ =>
          ask (.receiveInvitation created.invitation o.aliasName false) fun invitee =>
            reach .invitationReceived fun _ =>
              ask (.acceptInvitation invitee o.label) fun _ =>
                reach .inviteeAccepted fun _ => now fun since =>
                  (look o endpoint ⟨created.connection, o.aliasName⟩ since
                    (looksWithin o.backoff stock) 0).bind (acceptSeen invitee) := by
  simp only [handshake, createInvitation, receiveInvitation, acceptInvitation, awaitRequest,
    acceptRequest, call, advance, clock, Bind.bind, Pure.pure, Procedure.bind]
  unfold acceptSeen
  simp only

end Rendezvous.Handshake
