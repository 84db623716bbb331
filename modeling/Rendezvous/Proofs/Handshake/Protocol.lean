import Rendezvous.Handshake.Steps
import Rendezvous.Proofs.Handshake.Exchange
import Rendezvous.Proofs.Handshake.Selection

/-! The protocol of a handshake as a relation: which exchanges lead to which stage, and which call
is the next one there. No clock and no interruption is part of it. -/

namespace Rendezvous.Handshake

open Agent (Call)

/-- The record that ties the inviter's listing to the handshake whose own connection is `own`. -/
def Options.pick (o : Options) (own : ConnectionId .inviter) (listed : List ConnectionRecord) :
    Option ConnectionRecord :=
  (⟨own, o.aliasName⟩ : Correlation).select o.matching o.targetState listed

/-- The record that is picked is the handshake's own, or one in the target state that stands in for
it. -/
theorem Options.pick_cases {o : Options} {own : ConnectionId .inviter}
    {listed : List ConnectionRecord} {record : ConnectionRecord}
    (h : o.pick own listed = some record) :
    record.connectionId = own.text ∨
      o.matching = .lastMatch ∧ (∀ x ∈ listed, x.connectionId ≠ own.text) ∧
        record ∈ listed ∧ record.isIn o.targetState = true := by
  obtain ⟨hmem, hin, hown | ⟨hlast, hunlisted⟩⟩ := Correlation.choose_cases h
  · exact .inl hown
  · exact .inr ⟨hlast, hunlisted, hmem, hin⟩

/-- How far a handshake has come, with all that its exchanges have brought. -/
inductive Stage
  | begun
  | created (own : Agent.Created)
  | received (own : Agent.Created) (invitee : ConnectionId .invitee)
  | accepted (own : Agent.Created) (invitee : ConnectionId .invitee) (polls : Nat)
  | observed (own : Agent.Created) (invitee : ConnectionId .invitee) (polls : Nat)
    (inviter : ConnectionId .inviter)
  | completed (own : Agent.Created) (invitee : ConnectionId .invitee) (polls : Nat)
    (inviter : ConnectionId .inviter)

namespace Stage

def milestone : Stage → Milestone
  | begun => .start
  | created .. => .invitationCreated
  | received .. => .invitationReceived
  | accepted .. => .inviteeAccepted
  | observed .. => .requestObserved
  | completed .. => .finalized

/-- The only call that can come next. -/
def call? (o : Options) : Stage → Option Call
  | begun => some (.createInvitation o.aliasName false)
  | created own => some (.receiveInvitation own.invitation o.aliasName false)
  | received _ invitee => some (.acceptInvitation invitee o.label)
  | accepted .. => some (.listConnections o.aliasName)
  | observed _ _ _ inviter => some (.acceptRequest inviter)
  | completed .. => none

end Stage

/-- The stage that a handshake reaches by exchanges that all succeed. -/
inductive Reached (o : Options) : List Exchange → Stage → Prop
  | begun : Reached o [] .begun
  | created {x own} (brings : x.Brings (.createInvitation o.aliasName false) own) :
      Reached o [x] (.created own)
  | received {xs x own invitee} (before : Reached o xs (.created own))
      (brings : x.Brings (.receiveInvitation own.invitation o.aliasName false) invitee) :
      Reached o (xs ++ [x]) (.received own invitee)
  | accepted {xs x own invitee} (before : Reached o xs (.received own invitee))
      (brings : x.Brings (.acceptInvitation invitee o.label) ()) :
      Reached o (xs ++ [x]) (.accepted own invitee 0)
  | unmatched {xs x own invitee polls listed}
      (before : Reached o xs (.accepted own invitee polls))
      (brings : x.Brings (.listConnections o.aliasName) listed)
      (none : o.pick own.connection listed = none) :
      Reached o (xs ++ [x]) (.accepted own invitee (polls + 1))
  | observed {xs x own invitee polls listed record}
      (before : Reached o xs (.accepted own invitee polls))
      (brings : x.Brings (.listConnections o.aliasName) listed)
      (some : o.pick own.connection listed = some record) :
      Reached o (xs ++ [x]) (.observed own invitee (polls + 1) ⟨record.connectionId⟩)
  | completed {xs x own invitee polls inviter}
      (before : Reached o xs (.observed own invitee polls inviter))
      (brings : x.Brings (.acceptRequest inviter) ()) :
      Reached o (xs ++ [x]) (.completed own invitee polls inviter)

end Rendezvous.Handshake
