/-! Universally unique identifiers made of random bytes. -/

namespace Rendezvous.Text

/-- Sets the version of a random identifier and the variant that it belongs to. -/
def markUuid (bytes : List UInt8) : List UInt8 :=
  bytes.mapIdx fun i b =>
    if i = 6 then b % 16 + 0x40 else if i = 8 then b % 64 + 0x80 else b

def hexByte (b : UInt8) : List Char :=
  let digit (n : Nat) : Char := (Nat.toDigits 16 n).headD '0'
  [digit (b.toNat / 16), digit (b.toNat % 16)]

/-- Sixteen bytes in five groups. -/
def uuid (bytes : List UInt8) : String :=
  let digits := (markUuid bytes).flatMap hexByte
  let group (start size : Nat) : String := String.ofList ((digits.drop start).take size)
  String.intercalate "-" [group 0 8, group 8 4, group 12 4, group 16 4, group 20 12]

end Rendezvous.Text
