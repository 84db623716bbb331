/-! Writing a domain label in ASCII: its ASCII characters, and then numbers of base 36 that say
which other characters go where. -/

namespace Rendezvous.Url.Punycode

def digit (d : Nat) : Char :=
  if d < 26 then Char.ofNat ('a'.toNat + d) else Char.ofNat ('0'.toNat + (d - 26))

def digitValue? (c : Char) : Option Nat :=
  if 'a' ≤ c ∧ c ≤ 'z' then some (c.toNat - 'a'.toNat)
  else if 'A' ≤ c ∧ c ≤ 'Z' then some (c.toNat - 'A'.toNat)
  else if '0' ≤ c ∧ c ≤ '9' then some (c.toNat - '0'.toNat + 26)
  else none

/-- The digit at the place of weight `k / 36` that ends a number if it is less. -/
def threshold (k bias : Nat) : Nat :=
  if k ≤ bias then 1 else if bias + 26 ≤ k then 26 else k - bias

/-- Counts how often 35 divides a distance until it is at most 455. The first argument bounds the
count. -/
def shrink : Nat → Nat → Nat → Nat
  | 0, delta, k => k + 36 * delta / (delta + 38)
  | n + 1, delta, k =>
    if 455 < delta then shrink n (delta / 35) (k + 36) else k + 36 * delta / (delta + 38)

def adapt (delta count : Nat) (first : Bool) : Nat :=
  let delta := if first then delta / 700 else delta / 2
  shrink 64 (delta + delta / count) 0

/-- Writes a number with its last digit below its threshold. -/
def writeNumber (bias : Nat) : Nat → Nat → Nat → List Char
  | 0, _, _ => []
  | n + 1, k, q =>
    let t := threshold k bias
    if q < t then [digit q]
    else digit (t + (q - t) % (36 - t)) :: writeNumber bias n (k + 36) ((q - t) / (36 - t))

/-- The state of the writer: the distance to the next place, the bias, the number of characters
done, and the text so far. -/
structure Writer where
  delta : Nat
  bias : Nat
  done : Nat
  text : List Char

/-- Goes over the whole label once for the code point `n`. -/
def writeCodePoint (basic n : Nat) (w : Writer) : List Char → Writer
  | [] => w
  | c :: cs =>
    let m := c.toNat
    if m < n then writeCodePoint basic n { w with delta := w.delta + 1 } cs
    else if m = n then
      let number := writeNumber w.bias 64 36 w.delta
      let bias := adapt w.delta (w.done + 1) (w.done == basic)
      writeCodePoint basic n ⟨0, bias, w.done + 1, w.text ++ number⟩ cs
    else writeCodePoint basic n w cs

/-- Writes all characters from the code point `n` on. The first argument bounds the number of
different ones. -/
def writeFrom (label : List Char) (basic : Nat) : Nat → Nat → Writer → Writer
  | 0, _, w => w
  | rounds + 1, n, w =>
    match ((label.map Char.toNat).filter (n ≤ ·)).min? with
    | none => w
    | some m =>
      let w := { w with delta := w.delta + (m - n) * (w.done + 1) }
      let w := writeCodePoint basic m w label
      writeFrom label basic rounds (m + 1) { w with delta := w.delta + 1 }

def encode (label : List Char) : List Char :=
  let basic := label.filter fun c => c.toNat < 0x80
  let start := if basic.isEmpty then [] else basic ++ ['-']
  (writeFrom label basic.length label.length 0x80 ⟨0, 72, basic.length, start⟩).text

/-- Reads one number: its value on top of `i`, and the rest. -/
def readNumber (bias : Nat) (k weight i : Nat) : List Char → Option (Nat × List Char)
  | [] => none
  | c :: cs =>
    match digitValue? c with
    | none => none
    | some d =>
      let i := i + d * weight
      let t := threshold k bias
      if UInt32.size ≤ i then none
      else if d < t then some (i, cs)
      else if UInt32.size ≤ weight * (36 - t) then none
      else readNumber bias (k + 36) (weight * (36 - t)) i cs

/-- Puts the characters that the numbers name into their places. The first argument bounds the
number of numbers. -/
def readFrom : Nat → (n i bias : Nat) → List Char → List Char → Option (List Char)
  | 0, _, _, _, _, _ => none
  | _ + 1, _, _, _, label, [] => some label
  | rounds + 1, n, i, bias, label, cs =>
    match readNumber bias 36 1 i cs with
    | none => none
    | some (j, rest) =>
      let count := label.length + 1
      let n := n + j / count
      let place := j % count
      let bias := adapt (j - i) count (i == 0)
      if n < 0xD800 ∨ 0xDFFF < n ∧ n < 0x110000 then
        readFrom rounds n (place + 1) bias
          (label.take place ++ Char.ofNat n :: label.drop place) rest
      else none

/-- The label that a text in ASCII stands for. What precedes the last hyphen stands for itself. -/
def decode? (cs : List Char) : Option (List Char) :=
  let tail := (cs.reverse.takeWhile (· != '-')).reverse
  if tail.length = cs.length then readFrom (cs.length + 1) 0x80 0 72 [] cs
  else
    let basic := cs.take (cs.length - tail.length - 1)
    if basic.isEmpty then none
    else readFrom (cs.length + 1) 0x80 0 72 basic tail

end Rendezvous.Url.Punycode
