import Rendezvous.Text.Blank
import Rendezvous.Text.Codepage
import Rendezvous.Text.Utf8

/-! Reading bytes in the encoding that they are labelled with. -/

namespace Rendezvous.Text

/-- Readers of further encodings, in which a character may take several bytes, by their labels in
small letters. -/
class Encodings where
  reader? : String → Option (List UInt8 → List Char)

instance (priority := low) noFurtherEncodings : Encodings := ⟨fun _ => none⟩

inductive Charset
  | utf8
  | utf16 (bigEndian : Bool)
  | singleByte (page : Codepage)
  /-- One of those that are not to be read. -/
  | replacement
  | further (read : List UInt8 → List Char)

namespace Charset

/-- The encoding that a label stands for, in letters of either case. -/
def ofLabel? [Encodings] (label : String) : Option Charset :=
  let isSpace (c : Char) : Bool := [' ', '\t', '\n', '\r', '\x0c'].contains c
  let name := asciiLower (String.ofList (dropEndWhile isSpace (label.toList.dropWhile isSpace)))
  if ["utf-8", "utf8", "unicode-1-1-utf-8", "unicode11utf8", "unicode20utf8",
      "x-unicode20utf8"].contains name then some utf8
  else if ["utf-16", "utf-16le", "csunicode", "iso-10646-ucs-2", "ucs-2", "unicode",
      "unicodefeff"].contains name then some (utf16 false)
  else if ["utf-16be", "unicodefffe"].contains name then some (utf16 true)
  else if ["csiso2022kr", "hz-gb-2312", "iso-2022-cn", "iso-2022-cn-ext", "iso-2022-kr",
      "replacement"].contains name then some replacement
  else ((Codepage.ofLabel? name).map singleByte).or ((Encodings.reader? name).map further)

/-- The code units of a sequence of bytes. A byte left over makes none. -/
def codeUnits (bigEndian : Bool) : List UInt8 → List (Option Nat)
  | a :: b :: r =>
    let (high, low) := if bigEndian then (a, b) else (b, a)
    some (high.toNat * 256 + low.toNat) :: codeUnits bigEndian r
  | [_] => [none]
  | [] => []

/-- The characters of a sequence of code units. Surrogates have to come in pairs. -/
def joinUnits : List (Option Nat) → List Char
  | [] => []
  | none :: r => '\uFFFD' :: joinUnits r
  | some u :: r =>
    if 0xD800 ≤ u ∧ u < 0xDC00 then
      match r with
      | some v :: r' =>
        if 0xDC00 ≤ v ∧ v < 0xE000 then
          Char.ofNat ((u - 0xD800) * 0x400 + (v - 0xDC00) + 0x10000) :: joinUnits r'
        else '\uFFFD' :: joinUnits (some v :: r')
      | r => '\uFFFD' :: joinUnits r
    else if 0xDC00 ≤ u ∧ u < 0xE000 then '\uFFFD' :: joinUnits r
    else Char.ofNat u :: joinUnits r

def read (c : Charset) (bs : List UInt8) : List Char :=
  match c with
  | utf8 => decodeUtf8Lossy bs
  | utf16 big => joinUnits (codeUnits big bs)
  | singleByte page => bs.map page.char
  | replacement => if bs.isEmpty then [] else ['\uFFFD']
  | further read => read bs

/-- The encoding that a text marks itself with, and what follows the mark. -/
def marked? : List UInt8 → Option (Charset × List UInt8)
  | 0xEF :: 0xBB :: 0xBF :: r => some (utf8, r)
  | 0xFE :: 0xFF :: r => some (utf16 true, r)
  | 0xFF :: 0xFE :: r => some (utf16 false, r)
  | _ => none

/-- Reads a text. A mark at its start outweighs the label. -/
def decode (c : Charset) (bs : List UInt8) : String :=
  let (c, bs) := (marked? bs).getD (c, bs)
  String.ofList (c.read bs)

end Charset

end Rendezvous.Text
