import Rendezvous.Json.Shape
import Rendezvous.Json.Tree

/-! Invitations: JSON texts that are passed on exactly as they came. -/

namespace Rendezvous

/-- An invitation, kept as the text of one JSON value. -/
structure Invitation where
  text : String
deriving DecidableEq

namespace Invitation

def read : Json.Reader Invitation := fun cs => do
  let (text, rest) ← Json.readRaw cs
  .ok (⟨text⟩, rest)

/-- The invitation that a text consists of, apart from white space around it. A text without any is
kept itself. -/
def ofText (text : String) : Except Json.Error Invitation := do
  let value ← Json.readAll Json.readRaw text
  .ok ⟨if value.utf8ByteSize < text.utf8ByteSize then value else text⟩

def tree (i : Invitation) : Json.Tree := .raw i.text

def json (i : Invitation) : String := i.tree.compact

end Invitation

end Rendezvous
