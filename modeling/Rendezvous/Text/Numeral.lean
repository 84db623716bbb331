/-! Decimal numerals with an upper bound. -/

namespace Rendezvous.Text

/-- Why a text is no numeral below the bound. -/
inductive NumeralFault
  | empty
  | badDigit
  | tooLarge
deriving DecidableEq

namespace NumeralFault

def message : NumeralFault → String
  | empty => "cannot parse integer from empty string"
  | badDigit => "invalid digit found in string"
  | tooLarge => "number too large to fit in target type"

end NumeralFault

/-- Reads digits on top of `value`. The first digit that is none, or that leads beyond `most`,
decides. -/
def readDigits (most : Nat) : Nat → List Char → Except NumeralFault Nat
  | value, [] => .ok value
  | value, c :: cs =>
    if c.isDigit then
      let next := value * 10 + (c.toNat - '0'.toNat)
      if next ≤ most then readDigits most next cs else .error .tooLarge
    else .error .badDigit

/-- Reads one or more digits after at most one plus sign, up to the number `most`. -/
def readNumeral (most : Nat) (s : String) : Except NumeralFault Nat :=
  match s.toList with
  | [] => .error .empty
  | '+' :: [] => .error .badDigit
  | '+' :: cs => readDigits most 0 cs
  | cs => readDigits most 0 cs

end Rendezvous.Text
