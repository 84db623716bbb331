import Rendezvous.Text.Percent
import Rendezvous.Unicode.Bidi
import Rendezvous.Unicode.Joining
import Rendezvous.Unicode.Mark
import Rendezvous.Url.DomainTable
import Rendezvous.Url.Punycode

/-! Domain names in any script and their form in ASCII. -/

namespace Rendezvous.Url

open Unicode (Range rangesOfText find? hexValue)

def disallowed : List Range := rangesOfText disallowedText

def ignored : List Range := rangesOfText ignoredText

/-- Code points `first`, `first + stride`, … up to `last`, each standing for the characters at the
same distance from `target`. -/
structure Mapping where
  first : Nat
  last : Nat
  stride : Nat
  target : List Nat

def mappingOfWord (w : List Char) : Mapping :=
  let (ends, target) := w.span (· != ':')
  let (low, high) := ends.span fun c => c != '-' && c != '/'
  let first := hexValue low
  { first := first
    last := if high.isEmpty then first else hexValue high.tail
    stride := if high.head? == some '/' then 2 else 1
    target := (target.tail.splitOn '.').map hexValue }

def mappings : List Mapping := (Unicode.words mappedText).map mappingOfWord

/-- What a character of a domain name becomes, unless no domain name may hold it. -/
def mapChar (c : Char) : Option (List Char) :=
  let n := c.toNat
  if n < 0x80 then some [c.toLower]
  else if (find? disallowed c).isSome then none
  else if (find? ignored c).isSome then some []
  else
    match mappings.find? fun m => m.first ≤ n && n ≤ m.last && (n - m.first) % m.stride == 0 with
    | some m => some (m.target.map fun t => Char.ofNat (t + (n - m.first)))
    | none => some [c]

/-- ASCII characters that would end or confuse a host. -/
def isForbiddenInDomain (c : Char) : Bool :=
  c.toNat ≤ 0x20 || c.toNat == 0x7F ||
    ['%', '#', '/', ':', '<', '>', '?', '@', '[', '\\', ']', '^', '|'].contains c

def isAscii (cs : List Char) : Bool := cs.all fun c => c.toNat < 0x80

/-- A label has none but allowed characters, in normal form, starts with no mark, and keeps joiners
to where they belong. -/
def isValidLabel (label : List Char) : Bool :=
  label.all (fun c => !isForbiddenInDomain c && mapChar c == some [c]) &&
    Unicode.normalize label == label && !label.head?.any Unicode.isMark &&
    Unicode.joinersFit [] label

/-- The text before a label in ASCII that stands for one in another script. -/
def acePrefix : List Char := ['x', 'n', '-', '-']

/-- The label that a label of a mapped name stands for. -/
def unicodeLabel? (label : List Char) : Option (List Char) :=
  if acePrefix.isPrefixOf label then
    if isAscii label then
      match Punycode.decode? (label.drop 4) with
      | some u => if isAscii u || !isValidLabel u then none else some u
      | none => none
    else none
  else if isValidLabel label then some label
  else none

def asciiLabel (label : List Char) : List Char :=
  if isAscii label then label else acePrefix ++ Punycode.encode label

/-- The ASCII form of a domain name, if it is one. Where any label runs from right to left, each
has to keep the rule on directions. -/
def domainToAscii? (name : List Char) : Option (List Char) := do
  let mapped ← name.mapM mapChar
  let labels := (Unicode.normalize mapped.flatten).splitOn '.'
  let scripts ← labels.mapM unicodeLabel?
  let mixed := scripts.any fun l => !isAscii l && l.any Unicode.isRightToLeft
  if mixed && !scripts.all (fun l => l.isEmpty || Unicode.bidiRule l) then none
  else some (['.'].intercalate (labels.map asciiLabel))

end Rendezvous.Url
