import Rendezvous.Time.Span
import Rendezvous.Agent.Fault
import Rendezvous.Handshake.Step
import Rendezvous.Handshake.Milestone

/-! Why a handshake ended without a connection. -/

namespace Rendezvous.Handshake

inductive Failure
  | unreachable (step : Step) (endpoint detail : String)
  | refused (step : Step) (endpoint : String) (status : Nat) (body : String)
  | malformed (step : Step) (endpoint detail : String)
  /-- The inviter never listed the invitee's request. -/
  | noRequest (endpoint target : String) (polls : UInt32) (waited : Span)
  | outOfTime (limit : Span) (reached : Milestone)
  | cancelled (reached : Milestone)
  | badTransition (source target : Milestone)
deriving DecidableEq

namespace Failure

def ofFault (step : Step) : Agent.Fault → Failure
  | .unreachable e d => unreachable step e d
  | .refused e s b => refused step e s b
  | .malformed e d => malformed step e d

def step? : Failure → Option Step
  | unreachable s _ _ | refused s _ _ _ | malformed s _ _ => some s
  | noRequest .. => some .awaitRequest
  | outOfTime .. | cancelled .. | badTransition .. => none

def message : Failure → String
  | unreachable s e d => s.name ++ ": agent at " ++ e ++ " unreachable: " ++ d
  | refused s e c b => s.name ++ ": agent at " ++ e ++ " returned HTTP " ++ toString c ++ ": " ++ b
  | malformed s e d => s.name ++ ": malformed response from " ++ e ++ ": " ++ d
  | noRequest e t n w =>
    "no connection in state '" ++ t ++ "' at " ++ e ++ " after " ++ toString n.toNat ++
      " polls (" ++ w.text ++ ")"
  | outOfTime l m =>
    "handshake did not finish within " ++ l.text ++ " (reached " ++ m.name ++ ")"
  | cancelled m => "handshake cancelled (reached " ++ m.name ++ ")"
  | badTransition a b => "invalid handshake transition from " ++ a.name ++ " to " ++ b.name

@[simp] theorem step?_ofFault (s : Step) (f : Agent.Fault) : (ofFault s f).step? = some s := by
  cases f <;> rfl

end Failure

end Rendezvous.Handshake
