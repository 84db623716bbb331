/-! An agent's record of one connection. -/

namespace Rendezvous

/-- What an agent says about one of its connections. -/
structure ConnectionRecord where
  connectionId : String
  state : String
  /-- The name of the state in the newer scheme of names. -/
  rfc23State : Option String
  aliasName : Option String
  invitationKey : Option String
  theirLabel : Option String
  createdAt : Option String
  updatedAt : Option String
deriving DecidableEq

namespace ConnectionRecord

def bare (connectionId state : String) : ConnectionRecord :=
  ⟨connectionId, state, none, none, none, none, none, none⟩

/-- Either name of the state counts. -/
def isIn (r : ConnectionRecord) (target : String) : Bool :=
  r.state == target || r.rfc23State == some target

end ConnectionRecord

end Rendezvous
