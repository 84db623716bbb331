import Rendezvous.Json.Text

/-! Writing JSON texts. -/

namespace Rendezvous.Json

/-- What the writer can write. The members of an object keep their order. -/
inductive Tree
  | text (s : String)
  | number (n : Nat)
  /-- A value that is written out already. -/
  | raw (s : String)
  | list (items : List Tree)
  | object (members : List (String × Tree))

namespace Tree

mutual

def compact : Tree → String
  | text s => writeString s
  | number n => toString n
  | raw s => s
  | list items => "[" ++ String.intercalate "," (compactItems items) ++ "]"
  | object members => "\x7b" ++ String.intercalate "," (compactMembers members) ++ "\x7d"

def compactItems : List Tree → List String
  | [] => []
  | t :: ts => t.compact :: compactItems ts

def compactMembers : List (String × Tree) → List String
  | [] => []
  | (k, t) :: ts => (writeString k ++ ":" ++ t.compact) :: compactMembers ts

end

/-- The start of a line at a depth, two spaces for each level. -/
def newline (depth : Nat) : String := "\n" ++ String.ofList (List.replicate (2 * depth) ' ')

/-- Items on lines of their own between brackets. -/
def block (opening closing : String) (depth : Nat) (items : List String) : String :=
  if items.isEmpty then opening ++ closing
  else opening ++ newline (depth + 1) ++ String.intercalate ("," ++ newline (depth + 1)) items ++
    newline depth ++ closing

mutual

def pretty (depth : Nat) : Tree → String
  | text s => writeString s
  | number n => toString n
  | raw s => s
  | list items => block "[" "]" depth (prettyItems (depth + 1) items)
  | object members => block "\x7b" "\x7d" depth (prettyMembers (depth + 1) members)

def prettyItems (depth : Nat) : List Tree → List String
  | [] => []
  | t :: ts => t.pretty depth :: prettyItems depth ts

def prettyMembers (depth : Nat) : List (String × Tree) → List String
  | [] => []
  | (k, t) :: ts => (writeString k ++ ": " ++ t.pretty depth) :: prettyMembers depth ts

end

end Tree

end Rendezvous.Json
