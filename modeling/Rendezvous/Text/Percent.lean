import Rendezvous.Text.Utf8

/-! Percent-encoding: bytes as `%` and two hexadecimal digits. -/

namespace Rendezvous.Text

def upperHexDigit (n : Nat) : Char :=
  if n < 10 then Char.ofNat ('0'.toNat + n) else Char.ofNat ('A'.toNat + (n - 10))

def percentByte (b : UInt8) : List Char :=
  ['%', upperHexDigit (b.toNat / 16), upperHexDigit (b.toNat % 16)]

/-- Keeps the ASCII characters of a class and encodes the UTF-8 bytes of all others. -/
def percentChar (keep : Char → Bool) (c : Char) : List Char :=
  if c.toNat < 0x80 && keep c then [c] else (String.utf8EncodeChar c).flatMap percentByte

def percentEncode (keep : Char → Bool) (cs : List Char) : List Char :=
  cs.flatMap (percentChar keep)

/-- Letters and digits of ASCII and the marks that mean nothing anywhere in a URL. -/
def isUnreserved (c : Char) : Bool :=
  c.isAlphanum || c == '-' || c == '_' || c == '.' || c == '~'

def hexDigit? (c : Char) : Option Nat :=
  if c.isDigit then some (c.toNat - '0'.toNat)
  else if 'a' ≤ c ∧ c ≤ 'f' then some (c.toNat - 'a'.toNat + 10)
  else if 'A' ≤ c ∧ c ≤ 'F' then some (c.toNat - 'A'.toNat + 10)
  else none

/-- The bytes of a text in which `%` and two hexadecimal digits stand for a byte. -/
def percentDecode : List Char → List UInt8
  | [] => []
  | c :: r =>
    match c, r with
    | '%', x :: y :: r' =>
      match hexDigit? x, hexDigit? y with
      | some a, some b => UInt8.ofNat (a * 16 + b) :: percentDecode r'
      | _, _ => String.utf8EncodeChar '%' ++ percentDecode (x :: y :: r')
    | c, r => String.utf8EncodeChar c ++ percentDecode r

end Rendezvous.Text
