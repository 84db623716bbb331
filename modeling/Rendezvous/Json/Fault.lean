import Rendezvous.Text.Quoted

/-! What is wrong with a JSON text, and where. -/

namespace Rendezvous.Json

/-- A value that stands where another kind of value was wanted. -/
inductive Found
  | null
  | bool (b : Bool)
  | integer (digits : String)
  | float (text : String)
  | text (s : String)
  | sequence
  | map
deriving DecidableEq

inductive Cause
  | eofValue
  | eofList
  | eofObject
  | eofString
  | wantedColon
  | wantedListEnd
  | wantedObjectEnd
  | wantedWord
  | wantedValue
  | badEscape
  | badNumber
  | outOfRange
  | controlCharacter
  | keyNotText
  | loneSurrogate
  | brokenSurrogate
  | trailingComma
  | trailingCharacters
  | wrongType (found : Found) (wanted : String)
  | wrongLength (length : Nat) (wanted : String)
  | missingField (name : String)
  | duplicateField (name : String)
deriving DecidableEq

namespace Found

def describe : Found → String
  | null => "null"
  | bool b => "boolean `" ++ toString b ++ "`"
  | integer n => "integer `" ++ n ++ "`"
  | float x => "floating point `" ++ x ++ "`"
  | text s => "string " ++ Text.quote s
  | sequence => "sequence"
  | map => "map"

end Found

namespace Cause

def message : Cause → String
  | eofValue => "EOF while parsing a value"
  | eofList => "EOF while parsing a list"
  | eofObject => "EOF while parsing an object"
  | eofString => "EOF while parsing a string"
  | wantedColon => "expected `:`"
  | wantedListEnd => "expected `,` or `]`"
  | wantedObjectEnd => "expected `,` or `\x7d`"
  | wantedWord => "expected ident"
  | wantedValue => "expected value"
  | badEscape => "invalid escape"
  | badNumber => "invalid number"
  | outOfRange => "number out of range"
  | controlCharacter => "control character (\\u0000-\\u001F) found while parsing a string"
  | keyNotText => "key must be a string"
  | loneSurrogate => "lone leading surrogate in hex escape"
  | brokenSurrogate => "unexpected end of hex escape"
  | trailingComma => "trailing comma"
  | trailingCharacters => "trailing characters"
  | wrongType f w => "invalid type: " ++ f.describe ++ ", expected " ++ w
  | wrongLength n w => "invalid length " ++ toString n ++ ", expected " ++ w
  | missingField n => "missing field `" ++ n ++ "`"
  | duplicateField n => "duplicate field `" ++ n ++ "`"

end Cause

/-- A fault with the number of bytes that the text still has behind it. -/
structure Fault where
  cause : Cause
  left : Nat
deriving DecidableEq

def byteLength : List Char → Nat
  | [] => 0
  | c :: cs => c.utf8Size + byteLength cs

/-- A fault just before the rest of the text. -/
def failAt (cause : Cause) (rest : List Char) : Except Fault α :=
  .error ⟨cause, byteLength rest⟩

/-- A fault in the first byte of the rest, or at the end of the text. -/
def failIn (cause : Cause) (rest : List Char) : Except Fault α :=
  .error ⟨cause, byteLength rest - 1⟩

/-- A fault with its place in the text: lines count from one, columns in bytes. -/
structure Error where
  cause : Cause
  line : Nat
  column : Nat
deriving DecidableEq

/-- Line and column of a byte offset, seen from a place in the text. -/
def position (line column : Nat) : Nat → List Char → Nat × Nat
  | _, [] => (line, column)
  | offset, c :: cs =>
    if offset < c.utf8Size then (line, column + offset)
    else if c = '\n' then position (line + 1) 0 (offset - 1) cs
    else position line (column + c.utf8Size) (offset - c.utf8Size) cs

def Fault.locate (text : List Char) (f : Fault) : Error :=
  let (line, column) := position 1 0 (byteLength text - f.left) text
  ⟨f.cause, line, column⟩

def Error.message (e : Error) : String :=
  e.cause.message ++ " at line " ++ toString e.line ++ " column " ++ toString e.column

end Rendezvous.Json
