import Rendezvous.Url.Domain

/-! The hosts that a URL can name. -/

namespace Rendezvous.Url

inductive Fault
  | relative
  | emptyHost
  | badPort
  | badIpv4
  | badIpv6
  | badDomain
  | badHostCharacter
deriving DecidableEq

namespace Fault

def message : Fault → String
  | relative => "relative URL without a base"
  | emptyHost => "empty host"
  | badPort => "invalid port number"
  | badIpv4 => "invalid IPv4 address"
  | badIpv6 => "invalid IPv6 address"
  | badDomain => "invalid international domain name"
  | badHostCharacter => "invalid domain character"

end Fault

inductive Host
  | domain (name : String)
  | ipv4 (address : Nat)
  /-- Eight groups of sixteen bits. -/
  | ipv6 (groups : List Nat)
  /-- A host of a scheme that has rules of its own. -/
  | other (name : String)
  | empty
deriving DecidableEq

/-- A part of a numeric address: decimal, octal behind `0`, hexadecimal behind `0x`. Outer `none` is
no number, inner `none` a number beyond 32 bits. -/
def ipv4Part? (part : List Char) : Option (Option Nat) :=
  let read (base : Nat) (digits : List Char) : Option (Option Nat) :=
    match digits.mapM fun c => (Text.hexDigit? c).filter (· < base) with
    | none => none
    | some ds =>
      let n := ds.foldl (fun n d => n * base + d) 0
      some (if n < UInt32.size then some n else none)
  match part with
  | [] => none
  | '0' :: x :: rest =>
    if x = 'x' ∨ x = 'X' then read 16 rest else read 8 (x :: rest)
  | digits => read 10 digits

/-- The labels of a name, without the empty one behind a last point. -/
def labelsOf (name : List Char) : List (List Char) :=
  let labels := name.splitOn '.'
  if 1 < labels.length ∧ labels.getLast? = some [] then labels.dropLast else labels

/-- A name whose last label looks like a number is an address. -/
def endsInNumber (name : List Char) : Bool :=
  match (labelsOf name).getLast? with
  | none => false
  | some label => (!label.isEmpty && label.all Char.isDigit) || (ipv4Part? label).isSome

/-- The address of up to four parts: each but the last is one byte, and the last fills the rest. -/
def readIpv4 (name : List Char) : Except Fault Nat :=
  let parts := labelsOf name
  if 4 < parts.length then .error .badIpv4
  else
    match parts.mapM fun p => (ipv4Part? p).join with
    | none => .error .badIpv4
    | some numbers =>
      let last := numbers.getLastD 0
      let leading := numbers.dropLast
      if Nat.pow 256 (4 - leading.length) ≤ last ∨ leading.any (255 < ·) then .error .badIpv4
      else .ok (leading.zipIdx.foldl (fun n p => n + p.1 * Nat.pow 256 (3 - p.2)) last)

/-- Reads the dotted address at the end of an address of eight groups: four numbers up to 255
without leading zeros. -/
def dottedTail? (cs : List Char) : Option (List Nat) :=
  let parts := cs.splitOn '.'
  let byte? (p : List Char) : Option Nat :=
    if p.isEmpty || !p.all Char.isDigit || (p.length != 1 && p.head? == some '0') ||
        3 < p.length then none
    else
      let n := p.foldl (fun n c => n * 10 + (c.toNat - '0'.toNat)) 0
      if n ≤ 255 then some n else none
  match parts.mapM byte? with
  | some [a, b, c, d] => some [a * 256 + b, c * 256 + d]
  | _ => none

/-- The groups read so far, last one first, and the number of groups before the gap, if there is
one. A gap counts as a group. -/
structure Groups where
  done : List Nat
  gap : Option Nat

def Groups.count (g : Groups) : Nat := g.done.length + if g.gap.isSome then 1 else 0

def Groups.finish (g : Groups) : Except Fault (List Nat) :=
  let all := g.done.reverse
  match g.gap with
  | some k => .ok (all.take k ++ List.replicate (8 - all.length) 0 ++ all.drop k)
  | none => if all.length = 8 then .ok all else .error .badIpv6

/-- Reads groups of up to four hexadecimal digits. The first argument bounds their number. -/
def readGroups : Nat → Groups → List Char → Except Fault (List Nat)
  | 0, _, _ => .error .badIpv6
  | n + 1, g, cs =>
    match cs with
    | [] => g.finish
    | c :: r =>
      if g.count = 8 then .error .badIpv6
      else if c = ':' then
        if g.gap.isSome then .error .badIpv6
        else readGroups n { g with gap := some g.done.length } r
      else
        let digits := ((c :: r).take 4).takeWhile fun c => (Text.hexDigit? c).isSome
        let rest := (c :: r).drop digits.length
        let value := digits.foldl (fun n c => n * 16 + (Text.hexDigit? c).getD 0) 0
        match rest with
        | [] => ({ g with done := value :: g.done } : Groups).finish
        | '.' :: _ =>
          if digits.isEmpty ∨ 6 < g.count then .error .badIpv6
          else
            match dottedTail? (c :: r) with
            | some pair => ({ g with done := pair.reverse ++ g.done } : Groups).finish
            | none => .error .badIpv6
        | ':' :: rest =>
          if rest.isEmpty then .error .badIpv6
          else readGroups n { g with done := value :: g.done } rest
        | _ => .error .badIpv6

def readIpv6 (cs : List Char) : Except Fault (List Nat) :=
  match cs with
  | ':' :: ':' :: r => readGroups (cs.length + 1) ⟨[], some 0⟩ r
  | ':' :: _ => .error .badIpv6
  | [] | [_] => .error .badIpv6
  | cs => readGroups (cs.length + 1) ⟨[], none⟩ cs

def bracketed? (cs : List Char) : Option (Except Fault (List Nat)) :=
  match cs with
  | '[' :: r => some (if r.getLast? = some ']' then readIpv6 r.dropLast else .error .badIpv6)
  | _ => none

namespace Host

/-- Reads the host of a scheme whose hosts are addresses or domain names. -/
def read (cs : List Char) : Except Fault Host :=
  match bracketed? cs with
  | some address => address.map ipv6
  | none =>
    match (Text.decodeUtf8? (Text.percentDecode cs)).bind domainToAscii? with
    | none => .error .badDomain
    | some [] => .error .emptyHost
    | some name =>
      if endsInNumber name then (readIpv4 name).map ipv4 else .ok (domain (String.ofList name))

def isForbidden (c : Char) : Bool :=
  ['\x00', '\t', '\n', '\r', ' ', '#', '/', ':', '<', '>', '?', '@', '[', '\\', ']', '^',
    '|'].contains c

def isPlain (c : Char) : Bool := 0x20 ≤ c.toNat && c.toNat < 0x7F

def readOther (cs : List Char) : Except Fault Host :=
  match bracketed? cs with
  | some address => address.map ipv6
  | none =>
    if cs.any isForbidden then .error .badHostCharacter
    else if cs.isEmpty then .ok empty
    else .ok (other (String.ofList (Text.percentEncode isPlain cs)))

/-- The place and length of the first longest run of two or more zero groups. -/
def longestZeros (groups : List Nat) : Option (Nat × Nat) :=
  let run (k : Nat) : Nat := ((groups.drop k).takeWhile (· == 0)).length
  let best := (List.range groups.length).foldl
    (fun best k => if best.2 < run k then (k, run k) else best) (0, 1)
  if 1 < best.2 then some best else none

def hexGroups (groups : List Nat) : String :=
  String.intercalate ":" (groups.map fun g => String.ofList (Nat.toDigits 16 g))

def text : Host → String
  | domain name | other name => name
  | ipv4 n =>
    String.intercalate "." ([3, 2, 1, 0].map fun k => toString (n / Nat.pow 256 k % 256))
  | ipv6 groups =>
    match longestZeros groups with
    | some (k, n) =>
      "[" ++ hexGroups (groups.take k) ++ "::" ++ hexGroups (groups.drop (k + n)) ++ "]"
    | none => "[" ++ hexGroups groups ++ "]"
  | empty => ""

end Host

end Rendezvous.Url
