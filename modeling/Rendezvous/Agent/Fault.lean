/-! What can go wrong with one call to one agent. -/

namespace Rendezvous.Agent

inductive Fault
  | unreachable (endpoint detail : String)
  /-- The agent answered with a status that is no success. -/
  | refused (endpoint : String) (status : Nat) (body : String)
  /-- The agent reported success, but its answer lacks what was asked for. -/
  | malformed (endpoint detail : String)
deriving DecidableEq

namespace Fault

def endpoint : Fault → String
  | unreachable e _ | refused e _ _ | malformed e _ => e

def message : Fault → String
  | unreachable e d => "agent at " ++ e ++ " unreachable: " ++ d
  | refused e s b => "agent at " ++ e ++ " returned " ++ toString s ++ ": " ++ b
  | malformed e d => "malformed response from " ++ e ++ ": " ++ d

end Fault

end Rendezvous.Agent
