/-! The shortest decimal number that reads back as a given floating-point number. -/

namespace Rendezvous.Text

/-- The magnitude `mantissa * 2 ^ exponent` of a finite number, and whether the numbers below it lie
twice as close as those above. -/
def magnitude (x : Float) : Nat × Int × Bool :=
  let bits : Nat := x.toBits.toNat
  let field : Nat := bits / 4503599627370496 % 2048
  let fraction : Nat := bits % 4503599627370496
  if field = 0 then (fraction, -1074, false)
  else (fraction + 4503599627370496, (field : Int) - 1075, fraction == 0 && field != 1)

/-- The multiple of `10 ^ k` nearest to the number among those that round to it. The interval of
numbers that do is measured in quarters of a unit in the last place. -/
def onGrid? (mantissa : Nat) (exponent : Int) (closeBelow : Bool) (k : Int) : Option Nat :=
  let value := 4 * mantissa
  let low := value - if closeBelow then 1 else 2
  let high := value + 2
  let unit := Nat.pow 2 (exponent - 2).toNat * Nat.pow 10 (-k).toNat
  let grid := Nat.pow 10 k.toNat * Nat.pow 2 (2 - exponent).toNat
  let inside (n : Nat) : Bool :=
    if mantissa % 2 = 0 then low * unit ≤ n * grid && n * grid ≤ high * unit
    else low * unit < n * grid && n * grid < high * unit
  let below := value * unit / grid
  let above := below + 1
  match inside below, inside above with
  | true, true =>
    some (if 2 * (value * unit) ≤ (below + above) * grid then below else above)
  | true, false => some below
  | false, true => some above
  | false, false => none

/-- Tries the powers of ten downwards from `10 ^ k`. -/
def coarsest (mantissa : Nat) (exponent : Int) (closeBelow : Bool) :
    Nat → Int → Option (Nat × Int)
  | 0, _ => none
  | n + 1, k =>
    match onGrid? mantissa exponent closeBelow k with
    | some digits => some (digits, k)
    | none => coarsest mantissa exponent closeBelow n (k - 1)

/-- Digits and power of ten of the shortest decimal for a finite number's magnitude. -/
def shortest (x : Float) : Nat × Int :=
  let (mantissa, exponent, closeBelow) := magnitude x
  if mantissa = 0 then (0, 0)
  else (coarsest mantissa exponent closeBelow 650 309).getD (0, 0)

/-- How a decimal is written: without an exponent from `10 ^ least` up to below `10 ^ most`, with a
fraction at all times, and with a signed exponent of two digits or more otherwise. -/
structure DecimalForm where
  least : Int
  most : Int

private def exponentText (e : Int) : String :=
  let digits := toString e.natAbs
  (if e < 0 then "-" else "+") ++ (if digits.length < 2 then "0" else "") ++ digits

def DecimalForm.write (form : DecimalForm) (negative : Bool) (digits : Nat) (power : Int) :
    String :=
  let ds := Nat.toDigits 10 digits
  let point : Int := ds.length + power
  let zeros (n : Int) : List Char := List.replicate n.toNat '0'
  let body :=
    if digits = 0 then "0.0"
    else if form.least ≤ point - 1 ∧ point - 1 < form.most then
      if 0 ≤ power then String.ofList (ds ++ zeros power) ++ ".0"
      else if 0 < point then
        String.ofList (ds.take point.toNat) ++ "." ++ String.ofList (ds.drop point.toNat)
      else "0." ++ String.ofList (zeros (-point) ++ ds)
    else
      String.ofList (ds.take 1) ++
        (if ds.length = 1 then "" else "." ++ String.ofList (ds.drop 1)) ++
        "e" ++ exponentText (point - 1)
  (if negative then "-" else "") ++ body

end Rendezvous.Text
