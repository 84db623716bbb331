import Rendezvous.Http.MediaType

/-! Responses. -/

namespace Rendezvous.Http

structure Response where
  status : Nat
  contentType : Option String
  /-- The place that the response sends to. -/
  location : Option String
  /-- None if it broke off before its announced end, or did not come in time. -/
  body : Option (List UInt8)
deriving DecidableEq

namespace Response

def isSuccess (r : Response) : Bool := 200 ≤ r.status && r.status < 300

variable [Text.Encodings]

/-- Bodies are in UTF-8 unless they are labelled otherwise. -/
def charset (r : Response) : Text.Charset := (r.contentType.bind MediaType.charset?).getD .utf8

def text? (r : Response) : Option String := r.body.map r.charset.decode

end Response

end Rendezvous.Http
