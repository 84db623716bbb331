import Rendezvous.Json.Fault

/-! Finding the end of a JSON value without reading it. -/

namespace Rendezvous.Json

def isSpace (c : Char) : Bool := c == ' ' || c == '\n' || c == '\t' || c == '\r'

def skipSpace (cs : List Char) : List Char := cs.dropWhile isSpace

/-- Goes past the rest of a word such as `null`. -/
def skipWord : List Char → List Char → Except Fault (List Char)
  | [], cs => .ok cs
  | _ :: _, [] => failAt .eofValue []
  | w :: ws, c :: cs => if c = w then skipWord ws cs else failIn .wantedWord (c :: cs)

def skipExponent (cs : List Char) : Except Fault (List Char) :=
  let cs := match cs with
    | '+' :: r | '-' :: r => r
    | r => r
  match cs with
  | c :: r => if c.isDigit then .ok (r.dropWhile Char.isDigit) else failIn .badNumber (c :: r)
  | [] => failAt .badNumber []

def skipScale (cs : List Char) : Except Fault (List Char) :=
  match cs with
  | 'e' :: r | 'E' :: r => skipExponent r
  | r => .ok r

def skipFraction (cs : List Char) : Except Fault (List Char) :=
  match cs with
  | '.' :: c :: r =>
    if c.isDigit then skipScale (r.dropWhile Char.isDigit) else failIn .badNumber (c :: r)
  | '.' :: [] => failAt .badNumber []
  | r => skipScale r

/-- Goes past a number, behind its sign. A zero leads no other digit. -/
def skipNumber (cs : List Char) : Except Fault (List Char) :=
  match cs with
  | [] => failAt .badNumber []
  | '0' :: c :: r => if c.isDigit then failIn .badNumber (c :: r) else skipFraction (c :: r)
  | c :: r =>
    if c.isDigit then skipFraction (r.dropWhile Char.isDigit) else failIn .badNumber (c :: r)

def isHex (c : Char) : Bool :=
  c.isDigit || ('a' ≤ c && c ≤ 'f') || ('A' ≤ c && c ≤ 'F')

/-- What is wrong with an escape whose four digits should come next. -/
def failHex (cs : List Char) : Except Fault α :=
  if byteLength cs < 4 then failAt .eofString [] else .error ⟨.badEscape, byteLength cs - 4⟩

def isShortEscape (c : Char) : Bool :=
  ['"', '\\', '/', 'b', 'f', 'n', 'r', 't'].contains c

def isControl (c : Char) : Bool := c.toNat < 0x20

/-- Goes past the rest of a string, behind its opening quote. Escapes are checked for their form
only. -/
def skipString : List Char → Except Fault (List Char)
  | [] => failAt .eofString []
  | c :: r =>
    if c = '"' then .ok r
    else if c = '\\' then
      match r with
      | [] => failAt .eofString []
      | e :: r =>
        if e = 'u' then
          match r with
          | x :: y :: z :: w :: r' =>
            if isHex x && isHex y && isHex z && isHex w then skipString r'
            else failHex (x :: y :: z :: w :: r')
          | r' => failHex r'
        else if isShortEscape e then skipString r
        else failIn .badEscape (e :: r)
    else if isControl c then failAt .controlCharacter (c :: r)
    else skipString r

def skipColon (cs : List Char) : Except Fault (List Char) :=
  match skipSpace cs with
  | [] => failIn .eofObject []
  | ':' :: r => .ok r
  | r => failIn .wantedColon r

mutual

/-- Goes past white space and one value. The first argument bounds the number of values and
brackets on the way. -/
def skipValueWithin : Nat → List Char → Except Fault (List Char)
  | 0, _ => failIn .eofValue []
  | n + 1, cs =>
    match skipSpace cs with
    | [] => failIn .eofValue []
    | c :: r =>
      if c = 'n' then skipWord ['u', 'l', 'l'] r
      else if c = 't' then skipWord ['r', 'u', 'e'] r
      else if c = 'f' then skipWord ['a', 'l', 's', 'e'] r
      else if c = '-' then skipNumber r
      else if c.isDigit then skipNumber (c :: r)
      else if c = '"' then skipString r
      else if c = '[' then
        match skipSpace r with
        | [] => failIn .eofList []
        | ']' :: r' => .ok r'
        | _ => do
          let r' ← skipValueWithin n r
          skipItemsWithin n r'
      else if c = '{' then
        match skipSpace r with
        | [] => failIn .eofObject []
        | '}' :: r' => .ok r'
        | _ => skipMemberWithin n r
      else failIn .wantedValue (c :: r)

/-- Goes on in a list behind one of its values. -/
def skipItemsWithin : Nat → List Char → Except Fault (List Char)
  | 0, _ => failIn .eofList []
  | n + 1, cs =>
    match skipSpace cs with
    | [] => failIn .eofList []
    | ']' :: r => .ok r
    | ',' :: r => do
      let r' ← skipValueWithin n r
      skipItemsWithin n r'
    | r => failIn .wantedListEnd r

/-- Goes on in an object before one of its keys. -/
def skipMemberWithin : Nat → List Char → Except Fault (List Char)
  | 0, _ => failIn .eofObject []
  | n + 1, cs =>
    match skipSpace cs with
    | [] => failIn .eofObject []
    | '"' :: r => do
      let r₁ ← skipString r
      let r₂ ← skipColon r₁
      let r₃ ← skipValueWithin n r₂
      skipMembersWithin n r₃
    | r => failIn .keyNotText r

/-- Goes on in an object behind one of its values. -/
def skipMembersWithin : Nat → List Char → Except Fault (List Char)
  | 0, _ => failIn .eofObject []
  | n + 1, cs =>
    match skipSpace cs with
    | [] => failIn .eofObject []
    | '}' :: r => .ok r
    | ',' :: r => skipMemberWithin n r
    | r => failIn .wantedObjectEnd r

end

/-- Goes past white space and one value of any depth. Every step takes a character, so their number
bounds the steps. -/
def skipValue (cs : List Char) : Except Fault (List Char) :=
  skipValueWithin (cs.length + 1) cs

end Rendezvous.Json
