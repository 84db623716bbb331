import Rendezvous.Text.Blank
import Rendezvous.Text.Quoted

/-! Where an agent is found. -/

namespace Rendezvous

/-- An agent's base URL and the key that it asks for. -/
structure Endpoint where
  baseUrl : String
  apiKey : Option String
deriving DecidableEq

namespace Endpoint

/-- A base URL is written without slashes at its end. -/
def trimSlashes (url : String) : String :=
  String.ofList (Text.dropEndWhile (· == '/') url.toList)

/-- The endpoint under a title. Of a key it only shows that there is one. -/
def describe (title : String) (e : Endpoint) : String :=
  let key := match e.apiKey with
    | some _ => "Some(" ++ Text.quote "<redacted>" ++ ")"
    | none => "None"
  title ++ " \x7b base_url: " ++ Text.quote e.baseUrl ++ ", api_key: " ++ key ++ " \x7d"

def text (e : Endpoint) : String := e.describe "AgentEndpoint"

theorem describe_congr {title url k k' : String} :
    describe title ⟨url, some k⟩ = describe title ⟨url, some k'⟩ := rfl

end Endpoint

end Rendezvous
