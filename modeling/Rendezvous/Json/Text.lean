import Rendezvous.Json.Scan

/-! The contents of JSON strings. -/

namespace Rendezvous.Json

def hexDigitValue (c : Char) : Nat :=
  if c.isDigit then c.toNat - '0'.toNat
  else if 'a' ≤ c then c.toNat - 'a'.toNat + 10
  else c.toNat - 'A'.toNat + 10

def codeUnit (x y z w : Char) : Nat :=
  ((hexDigitValue x * 16 + hexDigitValue y) * 16 + hexDigitValue z) * 16 + hexDigitValue w

def shortEscape (e : Char) : Char :=
  match e with
  | 'b' => '\x08'
  | 'f' => '\x0c'
  | 'n' => '\n'
  | 'r' => '\r'
  | 't' => '\t'
  | c => c

def isHighSurrogate (n : Nat) : Bool := 0xD800 ≤ n && n < 0xDC00

def isLowSurrogate (n : Nat) : Bool := 0xDC00 ≤ n && n < 0xE000

/-- The character beyond the basic plane that two code units spell. -/
def joinSurrogates (high low : Nat) : Char :=
  Char.ofNat ((high - 0xD800) * 0x400 + (low - 0xDC00) + 0x10000)

/-- Reads the rest of a string, behind its opening quote. The characters read so far are given last
one first. Surrogates have to come in pairs. -/
def readString (done : List Char) : List Char → Except Fault (List Char × List Char)
  | [] => failAt .eofString []
  | c :: r =>
    if c = '"' then .ok (done.reverse, r)
    else if c = '\\' then
      match r with
      | [] => failAt .eofString []
      | e :: r =>
        if e = 'u' then
          match r with
          | x :: y :: z :: w :: r =>
            if isHex x && isHex y && isHex z && isHex w then
              let high := codeUnit x y z w
              if isLowSurrogate high then failAt .loneSurrogate r
              else if isHighSurrogate high then
                match r with
                | '\\' :: 'u' :: x' :: y' :: z' :: w' :: r' =>
                  if isHex x' && isHex y' && isHex z' && isHex w' then
                    let low := codeUnit x' y' z' w'
                    if isLowSurrogate low then readString (joinSurrogates high low :: done) r'
                    else failAt .loneSurrogate r'
                  else failHex (x' :: y' :: z' :: w' :: r')
                | '\\' :: 'u' :: r' => failHex r'
                | '\\' :: [] => failAt .eofString []
                | '\\' :: r' => failIn .brokenSurrogate r'
                | [] => failAt .eofString []
                | r' => failIn .brokenSurrogate r'
              else readString (Char.ofNat high :: done) r
            else failHex (x :: y :: z :: w :: r)
          | r' => failHex r'
        else if isShortEscape e then readString (shortEscape e :: done) r
        else failIn .badEscape (e :: r)
    else if isControl c then failIn .controlCharacter (c :: r)
    else readString (c :: done) r

/-- A digit of a `\u` escape, in small letters. -/
private def hexChar (n : Nat) : Char :=
  if n < 10 then Char.ofNat ('0'.toNat + n) else Char.ofNat ('a'.toNat + (n - 10))

def writeChar (c : Char) : List Char :=
  match c with
  | '"' => ['\\', '"']
  | '\\' => ['\\', '\\']
  | '\x08' => ['\\', 'b']
  | '\x0c' => ['\\', 'f']
  | '\n' => ['\\', 'n']
  | '\r' => ['\\', 'r']
  | '\t' => ['\\', 't']
  | c =>
    if isControl c then ['\\', 'u', '0', '0', hexChar (c.toNat / 16), hexChar (c.toNat % 16)]
    else [c]

def writeString (s : String) : String :=
  String.ofList ('"' :: s.toList.flatMap writeChar ++ ['"'])

end Rendezvous.Json
