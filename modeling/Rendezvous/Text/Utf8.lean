/-! Reading bytes as UTF-8. -/

namespace Rendezvous.Text

/-- The start of a character: the bits read so far, the number of bytes to come, and the bounds of
the next one. -/
structure Partial where
  bits : Nat
  missing : Nat
  low : Nat
  high : Nat

/-- What a byte that starts a character makes: a character, the start of a longer one, or, where no
character starts so, nothing. -/
def startByte (b : Nat) : Option (Char ⊕ Partial) :=
  if b < 0x80 then some (.inl (Char.ofNat b))
  else if 0xC2 ≤ b ∧ b ≤ 0xDF then some (.inr ⟨b - 0xC0, 1, 0x80, 0xBF⟩)
  else if 0xE0 ≤ b ∧ b ≤ 0xEF then
    some (.inr ⟨b - 0xE0, 2, if b = 0xE0 then 0xA0 else 0x80, if b = 0xED then 0x9F else 0xBF⟩)
  else if 0xF0 ≤ b ∧ b ≤ 0xF4 then
    some (.inr ⟨b - 0xF0, 3, if b = 0xF0 then 0x90 else 0x80, if b = 0xF4 then 0x8F else 0xBF⟩)
  else none

/-- The characters of a sequence of bytes, behind the start of one. Each longest start of a
character that is not gone on with, and each byte that starts none, gives `none`. -/
def decodeUtf8From : Option Partial → List UInt8 → List (Option Char)
  | none, [] => []
  | some _, [] => [none]
  | none, b :: bs =>
    match startByte b.toNat with
    | some (.inl c) => some c :: decodeUtf8From none bs
    | some (.inr p) => decodeUtf8From (some p) bs
    | none => none :: decodeUtf8From none bs
  | some p, b :: bs =>
    let n := b.toNat
    if p.low ≤ n ∧ n ≤ p.high then
      let bits := p.bits * 64 + (n - 0x80)
      if p.missing = 1 then some (Char.ofNat bits) :: decodeUtf8From none bs
      else decodeUtf8From (some ⟨bits, p.missing - 1, 0x80, 0xBF⟩) bs
    else
      match startByte n with
      | some (.inl c) => none :: some c :: decodeUtf8From none bs
      | some (.inr p') => none :: decodeUtf8From (some p') bs
      | none => none :: none :: decodeUtf8From none bs

def decodeUtf8? (bs : List UInt8) : Option (List Char) := (decodeUtf8From none bs).mapM id

/-- The characters of UTF-8, with a replacement character for whatever is malformed. -/
def decodeUtf8Lossy (bs : List UInt8) : List Char :=
  (decodeUtf8From none bs).map fun c? => c?.getD '\uFFFD'

def encodeUtf8 (cs : List Char) : List UInt8 := cs.flatMap String.utf8EncodeChar

end Rendezvous.Text
