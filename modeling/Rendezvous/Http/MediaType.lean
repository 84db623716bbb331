import Rendezvous.Text.Charset

/-! What a message says about the kind of its body. -/

namespace Rendezvous.Http

def isTokenChar (c : Char) : Bool :=
  c.isAlphanum ||
    ['!', '#', '$', '%', '&', '\x27', '*', '+', '-', '.', '^', '_', '\x60', '|', '~'].contains c

namespace MediaType

def isQuotedChar (c : Char) : Bool := 0x1F < c.toNat && c.toNat != 0x7F

/-- Reads a value and gives what follows it. A quoted one is not empty: its first character is no
closing mark. -/
def readValue? (cs : List Char) : Option (List Char × List Char) :=
  match cs with
  | '"' :: c :: r =>
    match r.dropWhile (· != '"') with
    | _ :: rest =>
      let value := c :: r.takeWhile (· != '"')
      if value.all isQuotedChar then some (value, rest.dropWhile (· == ' ')) else none
    | [] => none
  | ['"'] => none
  | r =>
    let rest := r.dropWhile isTokenChar
    if r.takeWhile isTokenChar = [] ∧ rest ≠ [] then none
    else some (r.takeWhile isTokenChar, rest)

/-- Reads the parameters behind the first semicolon. The first argument bounds their number. -/
def readParameters? : Nat → List Char → Option (List (String × String))
  | 0, _ => none
  | n + 1, cs =>
    match cs.dropWhile (· == ' ') with
    | [] => some []
    | cs =>
      let name := cs.takeWhile isTokenChar
      match name, cs.dropWhile isTokenChar with
      | _ :: _, '=' :: r => do
        let (value, rest) ← readValue? r
        let more ← match rest with
          | [] => some []
          | ';' :: rest => readParameters? n rest
          | _ => none
        some ((String.ofList name, String.ofList value) :: more)
      | _, _ => none

/-- The parameters of a media type, which itself consists of two names. -/
def parameters? (text : String) : Option (List (String × String)) :=
  let cs := text.toList
  match cs.dropWhile isTokenChar with
  | '/' :: r =>
    if cs.head? = some '/' ∨ (r.takeWhile isTokenChar).isEmpty then none
    else
      match r.dropWhile isTokenChar with
      | [] => some []
      | ';' :: r => readParameters? (r.length + 1) r
      | _ => none
  | _ => none

def isTextChar (c : Char) : Bool := c == '\t' || (0x20 ≤ c.toNat && c.toNat < 0x7F)

/-- The encoding that a media type names, if it is a known one. -/
def charset? [Text.Encodings] (text : String) : Option Text.Charset := do
  guard (text.toList.all isTextChar)
  let parameters ← parameters? text
  let label ← (parameters.find? fun p => Text.asciiLower p.1 == "charset").map Prod.snd
  Text.Charset.ofLabel? label

end MediaType

end Rendezvous.Http
