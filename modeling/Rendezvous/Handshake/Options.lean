import Rendezvous.Handshake.Backoff
import Rendezvous.Handshake.Matching

/-! What can be chosen about a handshake. -/

namespace Rendezvous.Handshake

structure Options where
  /-- Given to both agents as the connection's second name, and asked for in listings. -/
  aliasName : Option String
  /-- The name under which the invitee presents itself. -/
  label : Option String
  /-- The state of the inviter's connection once the request has arrived. -/
  targetState : String
  matching : Matching
  backoff : Backoff
  limit : Span
deriving DecidableEq

/-- The state of a connection on which a request has arrived. -/
def defaultTarget : String := "request"

namespace Options

def standard : Options := ⟨none, none, defaultTarget, .strict, .standard, .ofSeconds 120⟩

end Options

end Rendezvous.Handshake
