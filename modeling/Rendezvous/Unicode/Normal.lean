import Rendezvous.Unicode.Composition

/-! Normalization Form C: marks in canonical order, and every letter composed with its marks as far
as a character for both exists. -/

namespace Rendezvous.Unicode

def combiningRanges : List Range := rangesOfText combiningText

def combiningClass (c : Char) : Nat :=
  match find? combiningRanges c with
  | some r => hexValue r.tag
  | none => 0

/-- The characters that a tag lists by number, with points between them. -/
def charsOfTag (tag : List Char) : List Char :=
  (tag.splitOn '.').map fun w => Char.ofNat (hexValue w)

def decompositions : List Range := rangesOfText decompositionText

/-- A pair of characters and what it composes to. -/
def pairOfWord (w : List Char) : (Char × Char) × Char :=
  let (pair, whole) := w.span (· != ':')
  let (first, second) := pair.span (· != '.')
  ((Char.ofNat (hexValue first), Char.ofNat (hexValue second.tail)),
    Char.ofNat (hexValue whole.tail))

def compositions : List ((Char × Char) × Char) := (words compositionText).map pairOfWord

/-- The letters of a Hangul syllable, or none for any other character. -/
def syllable? (c : Char) : Option (List Char) :=
  let n := c.toNat
  if 0xAC00 ≤ n && n ≤ 0xD7A3 then
    let s := n - 0xAC00
    let lead := Char.ofNat (0x1100 + s / 588)
    let vowel := Char.ofNat (0x1161 + s % 588 / 28)
    some (if s % 28 = 0 then [lead, vowel] else [lead, vowel, Char.ofNat (0x11A7 + s % 28)])
  else none

def decompose (c : Char) : List Char :=
  if c.toNat < 0xA0 then [c]
  else match syllable? c with
    | some letters => letters
    | none =>
      match find? decompositions c with
      | some r => charsOfTag r.tag
      | none => [c]

/-- Puts a character behind those of its run that have no higher combining class. The list is
given last character first. -/
def insertMark (c : Char) (cls : Nat) : List Char → List Char
  | [] => [c]
  | d :: rest =>
    if cls != 0 && combiningClass d > cls then d :: insertMark c cls rest else c :: d :: rest

/-- Each run of marks in the order of their combining classes. -/
def canonicalOrder (cs : List Char) : List Char :=
  (cs.foldl (fun done c => insertMark c (combiningClass c) done) []).reverse

def compose? (a b : Char) : Option Char :=
  let m := a.toNat
  let n := b.toNat
  if 0x1100 ≤ m && m ≤ 0x1112 && 0x1161 ≤ n && n ≤ 0x1175 then
    some (Char.ofNat (0xAC00 + ((m - 0x1100) * 21 + (n - 0x1161)) * 28))
  else if 0xAC00 ≤ m && m ≤ 0xD7A3 && (m - 0xAC00) % 28 == 0 && 0x11A8 ≤ n && n ≤ 0x11C2 then
    some (Char.ofNat (m + (n - 0x11A7)))
  else (compositions.find? fun p => p.1 == (a, b)).map Prod.snd

/-- Composes a starter with the marks behind it. `marks` holds those that stay, last one first, and
`last` is the combining class of the character just before the rest. -/
def composeFrom (starter : Char) (marks : List Char) (last : Nat) : List Char → List Char
  | [] => starter :: marks.reverse
  | c :: rest =>
    let cls := combiningClass c
    let free := marks.isEmpty || (last != 0 && last < cls)
    match if free then compose? starter c else none with
    | some whole => composeFrom whole marks last rest
    | none =>
      if cls == 0 then starter :: marks.reverse ++ composeFrom c [] 0 rest
      else composeFrom starter (c :: marks) cls rest

/-- Characters before the first starter stay as they are. -/
def composeAll : List Char → List Char
  | [] => []
  | c :: rest => if combiningClass c == 0 then composeFrom c [] 0 rest else c :: composeAll rest

/-- Normalization Form C. -/
def normalize (cs : List Char) : List Char :=
  if cs.all fun c => c.toNat < 0xA0 then cs
  else composeAll (canonicalOrder (cs.flatMap decompose))

end Rendezvous.Unicode
