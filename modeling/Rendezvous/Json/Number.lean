import Rendezvous.Text.Shortest
import Rendezvous.Json.Fault

/-! The values of JSON numbers, as far as a fault has to name them. -/

namespace Rendezvous.Json

/-- Numbers with a fraction are written in full from `0.00001` up to sixteen digits. -/
def decimalForm : Text.DecimalForm := ⟨-5, 16⟩

def floatText (x : Float) : String :=
  let (digits, power) := Text.shortest x
  decimalForm.write (x.toBits.toNat ≥ 9223372036854775808) digits power

/-- Multiplies by a power of ten in steps that floating-point numbers can hold, or finds that the
product is too large. -/
def scaleFloat : Nat → Float → Int → Option Float
  | 0, x, _ => some x
  | n + 1, x, e =>
    if e.natAbs ≤ 308 then
      let power := Float.ofScientific 1 false e.natAbs
      if 0 ≤ e then
        let y := x * power
        if y.isInf then none else some y
      else some (x / power)
    else if x == 0 then some x
    else if 0 ≤ e then none
    else scaleFloat n (x / Float.ofScientific 1 false 308) (e + 308)

/-- The number `significand * 10 ^ power`. Three divisions by the greatest power of ten leave
nothing of any significand. -/
def finishFloat (negative : Bool) (significand : Nat) (power : Int) (rest : List Char) :
    Except Fault (Found × List Char) :=
  match scaleFloat 4 (Float.ofNat significand) power with
  | some x => .ok (.float (floatText (if negative then -x else x)), rest)
  | none => failAt .outOfRange rest

/-- Reads the digits of an exponent on top of `value`. An exponent beyond 31 bits leaves zero, or no
number at all. -/
def readExponentDigits (negative : Bool) (significand : Nat) (power : Int) (up : Bool) :
    Nat → List Char → Except Fault (Found × List Char)
  | value, c :: r =>
    if c.isDigit then
      let next := value * 10 + (c.toNat - '0'.toNat)
      if next < 2147483648 then readExponentDigits negative significand power up next r
      else if significand ≠ 0 ∧ up then failAt .outOfRange r
      else finishFloat negative 0 0 (r.dropWhile Char.isDigit)
    else finishFloat negative significand (if up then power + value else power - value) (c :: r)
  | value, [] => finishFloat negative significand (if up then power + value else power - value) []

def readExponent (negative : Bool) (significand : Nat) (power : Int) (cs : List Char) :
    Except Fault (Found × List Char) :=
  let (up, cs) := match cs with
    | '+' :: r => (true, r)
    | '-' :: r => (false, r)
    | r => (true, r)
  match cs with
  | [] => failAt .eofValue []
  | c :: r =>
    if c.isDigit then
      readExponentDigits negative significand power up (c.toNat - '0'.toNat) r
    else failIn .badNumber (c :: r)

/-- Reads what may follow the digits behind a number's point. -/
def readScale (negative : Bool) (significand : Nat) (power : Int) (cs : List Char) :
    Except Fault (Found × List Char) :=
  match cs with
  | 'e' :: r | 'E' :: r => readExponent negative significand power r
  | r => finishFloat negative significand power r

/-- Reads digits behind a number's point, of which `count` are read already. Digits beyond 64 bits
are dropped. -/
def readFraction (negative : Bool) (significand : Nat) (power : Int) (count : Nat) :
    List Char → Except Fault (Found × List Char)
  | c :: r =>
    if c.isDigit then
      let next := significand * 10 + (c.toNat - '0'.toNat)
      if next < UInt64.size then readFraction negative next power (count + 1) r
      else readScale negative significand (power - count) (r.dropWhile Char.isDigit)
    else if count = 0 then failIn .badNumber (c :: r)
    else readScale negative significand (power - count) (c :: r)
  | [] => if count = 0 then failAt .eofValue [] else readScale negative significand (power - count) []

/-- Reads the rest of a number whose whole part has outgrown 64 bits. -/
def readLong (negative : Bool) (significand : Nat) (cs : List Char) :
    Except Fault (Found × List Char) :=
  let power := (cs.takeWhile Char.isDigit).length
  match cs.dropWhile Char.isDigit with
  | '.' :: r => readFraction negative significand power 0 r
  | r => readScale negative significand power r

/-- Reads what may follow the whole part of a number. A number without fraction and exponent is an
integer of 64 bits if it can be one; zero has no negative. -/
def readRest (negative : Bool) (significand : Nat) (cs : List Char) :
    Except Fault (Found × List Char) :=
  match cs with
  | '.' :: r => readFraction negative significand 0 0 r
  | 'e' :: r | 'E' :: r => readExponent negative significand 0 r
  | r =>
    if !negative then .ok (.integer (toString significand), r)
    else if significand = 0 ∨ 9223372036854775808 < significand then finishFloat true significand 0 r
    else .ok (.integer ("-" ++ toString significand), r)

/-- Reads the whole part of a number on top of `significand`. -/
def readWhole (negative : Bool) (significand : Nat) :
    List Char → Except Fault (Found × List Char)
  | c :: r =>
    if c.isDigit then
      let next := significand * 10 + (c.toNat - '0'.toNat)
      if next < UInt64.size then readWhole negative next r else readLong negative significand (c :: r)
    else readRest negative significand (c :: r)
  | [] => readRest negative significand []

/-- Reads a number, behind its sign. A zero leads no other digit. -/
def readNumber (negative : Bool) (cs : List Char) : Except Fault (Found × List Char) :=
  match cs with
  | [] => failAt .eofValue []
  | '0' :: c :: r => if c.isDigit then failIn .badNumber (c :: r) else readRest negative 0 (c :: r)
  | c :: r =>
    if c.isDigit then readWhole negative (c.toNat - '0'.toNat) r else failIn .badNumber (c :: r)

end Rendezvous.Json
