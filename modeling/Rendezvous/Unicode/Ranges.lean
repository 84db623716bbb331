/-! Tables of character properties, kept as lines of text: words `first-last:tag` or `first:tag` in
hexadecimal, with a space between them. -/

namespace Rendezvous.Unicode

def words (lines : List String) : List (List Char) := lines.flatMap fun l => l.toList.splitOn ' '

def hexDigit (c : Char) : Nat :=
  if c.isDigit then c.toNat - '0'.toNat else c.toNat - 'A'.toNat + 10

def hexValue (cs : List Char) : Nat :=
  cs.foldl (fun n c => n * 16 + hexDigit c) 0

/-- The code points from `first` to `last`, with what the table says of them. -/
structure Range where
  first : Nat
  last : Nat
  tag : List Char

def rangeOfWord (w : List Char) : Range :=
  let (ends, tag) := w.span (· != ':')
  let (low, high) := ends.span (· != '-')
  ⟨hexValue low, if high.isEmpty then hexValue low else hexValue high.tail, tag.tail⟩

def rangesOfText (lines : List String) : List Range := (words lines).map rangeOfWord

def find? (table : List Range) (c : Char) : Option Range :=
  table.find? fun r => r.first ≤ c.toNat && c.toNat ≤ r.last

end Rendezvous.Unicode
