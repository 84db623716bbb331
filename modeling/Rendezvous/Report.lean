import Rendezvous.Config
import Rendezvous.Handshake.Outcome

/-! What the program tells its user in the end. -/

namespace Rendezvous

structure Report where
  status : UInt32
  output : String
  errors : String
deriving DecidableEq

namespace Report

/-- Lines under a heading stand in by four places. -/
def indented (s : String) : String :=
  String.intercalate "\n" ((s.toList.splitOn '\n').map fun line => "    " ++ String.ofList line)

def ofError (message : String) : Report := ⟨1, "", "Error: " ++ message ++ "\n"⟩

def ofCause (message cause : String) : Report :=
  ofError (message ++ "\n\nCaused by:\n" ++ indented cause)

def misconfigured (e : Config.Error) : Report := ofError e.message

def failed (cause : String) : Report := ofCause "Connection handshake failed" cause

def succeeded (outcome : Json.Tree) : Report := ⟨0, outcome.pretty 0 ++ "\n", ""⟩

def ofResult : Except Handshake.Failure Handshake.Outcome → Report
  | .ok o => succeeded o.tree
  | .error f => failed f.message

end Report

end Rendezvous
