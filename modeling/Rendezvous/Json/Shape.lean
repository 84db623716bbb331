import Rendezvous.Json.Text
import Rendezvous.Json.Number

/-! Reading JSON texts into records of known fields. A record is written as an object, whose other
members are passed over, or as an array of its fields in their order. -/

namespace Rendezvous.Json

/-- The fault of a value that is of another kind than wanted. The value is read as far as it has to
be named. -/
def wrongType (wanted : String) (cs : List Char) : Except Fault α :=
  match cs with
  | [] => failIn .wantedValue []
  | c :: r =>
    if c = 'n' then do
      let rest ← skipWord ['u', 'l', 'l'] r
      failAt (.wrongType .null wanted) rest
    else if c = 't' then do
      let rest ← skipWord ['r', 'u', 'e'] r
      failAt (.wrongType (.bool true) wanted) rest
    else if c = 'f' then do
      let rest ← skipWord ['a', 'l', 's', 'e'] r
      failAt (.wrongType (.bool false) wanted) rest
    else if c = '-' then do
      let (number, rest) ← readNumber true r
      failAt (.wrongType number wanted) rest
    else if c.isDigit then do
      let (number, rest) ← readNumber false (c :: r)
      failAt (.wrongType number wanted) rest
    else if c = '"' then do
      let (text, rest) ← readString [] r
      failAt (.wrongType (.text (String.ofList text)) wanted) rest
    else if c = '[' then failAt (.wrongType .sequence wanted) (c :: r)
    else if c = '{' then failAt (.wrongType .map wanted) (c :: r)
    else failIn .wantedValue (c :: r)

abbrev Reader (α : Type) := List Char → Except Fault (α × List Char)

def readText : Reader String := fun cs =>
  match skipSpace cs with
  | [] => failIn .eofValue []
  | '"' :: r => do
    let (text, rest) ← readString [] r
    .ok (String.ofList text, rest)
  | r => wrongType "a string" r

def readOptional (read : Reader α) : Reader (Option α) := fun cs =>
  match skipSpace cs with
  | 'n' :: r => do
    let rest ← skipWord ['u', 'l', 'l'] r
    .ok (none, rest)
  | r => do
    let (value, rest) ← read r
    .ok (some value, rest)

/-- Reads a value as the very text that it is written in. -/
def readRaw : Reader String := fun cs => do
  let start := skipSpace cs
  let rest ← skipValue start
  .ok (String.ofList (start.take (start.length - rest.length)), rest)

/-- A field of a record: reading one puts its value into a record that may lack others. -/
structure Field (α : Type) where
  name : String
  needed : Bool
  read : α → Reader α

/-- The fields of a record in their order, and the record without any. -/
structure Shape (α : Type) where
  title : String
  empty : α
  fields : List (Field α)

namespace Shape

def size (sh : Shape α) : String :=
  let n := sh.fields.length
  sh.title ++ " with " ++ toString n ++ (if n = 1 then " element" else " elements")

/-- The place at which an object is given up between two of its tokens: behind its end if that comes
next. -/
def leave (close : Char) (cs : List Char) : List Char :=
  match skipSpace cs with
  | c :: r => if c = close then r else c :: r
  | [] => []

/-- Ends an object: no needed field may be missing. -/
def close (sh : Shape α) (seen : List String) (record : α) (rest : List Char) :
    Except Fault (α × List Char) :=
  match sh.fields.find? fun f => f.needed && !seen.contains f.name with
  | some f => failAt (.missingField f.name) rest
  | none => .ok (record, rest)

/-- What comes next between brackets: one more item, or their end. -/
inductive Next
  | item (cs : List Char)
  | ended (rest : List Char)

/-- Finds the next key of an object, behind its opening quote, or the end of the object. -/
def nextKey (first : Bool) (cs : List Char) : Except Fault Next :=
  match skipSpace cs with
  | [] => failIn .eofObject []
  | '}' :: r => .ok (.ended r)
  | c :: r =>
    if first then
      if c = '"' then .ok (.item r) else failIn .keyNotText (c :: r)
    else if c = ',' then
      match skipSpace r with
      | [] => failIn .eofValue []
      | '"' :: r' => .ok (.item r')
      | '}' :: r' => failIn .trailingComma ('}' :: r')
      | r' => failIn .keyNotText r'
    else failIn .wantedObjectEnd (c :: r)

/-- Reads the members of an object from its opening bracket or from behind a member. The first
argument bounds their number. -/
def readMembers (sh : Shape α) : Nat → Bool → List String → α → Reader α
  | 0, _, _, _, _ => failIn .eofObject []
  | n + 1, first, seen, record, cs => do
    match ← nextKey first cs with
    | .ended rest => sh.close seen record rest
    | .item r =>
      let (key, r₁) ← readString [] r
      match sh.fields.find? fun f => f.name == String.ofList key with
      | some f =>
        if seen.contains f.name then failAt (.duplicateField f.name) (leave '}' r₁)
        else
          let r₂ ← skipColon r₁
          let (record', r₃) ← f.read record r₂
          readMembers sh n false (f.name :: seen) record' r₃
      | none =>
        let r₂ ← skipColon r₁
        let r₃ ← skipValue r₂
        readMembers sh n false seen record r₃

def nextItem (first : Bool) (cs : List Char) : Except Fault Next :=
  match skipSpace cs with
  | [] => failIn .eofList []
  | ']' :: r => .ok (.ended r)
  | c :: r =>
    if first then .ok (.item (c :: r))
    else if c = ',' then
      match skipSpace r with
      | [] => failIn .eofValue []
      | ']' :: r' => failIn .trailingComma (']' :: r')
      | r' => .ok (.item r')
    else failIn .wantedListEnd (c :: r)

def closeList (record : α) (cs : List Char) : Except Fault (α × List Char) :=
  match skipSpace cs with
  | [] => failIn .eofList []
  | ']' :: r => .ok (record, r)
  | ',' :: r =>
    match skipSpace r with
    | ']' :: r' => failIn .trailingComma (']' :: r')
    | r' => failIn .trailingCharacters r'
  | r => failIn .trailingCharacters r

/-- Reads the fields of a record one by one from an array, of which `index` are read already. An
array may end before fields that are not needed. -/
def readItems (sh : Shape α) (index : Nat) (record : α) :
    List (Field α) → List Char → Except Fault (α × List Char)
  | [], cs => closeList record cs
  | f :: fs, cs => do
    match ← nextItem (index == 0) cs with
    | .item r =>
      let (record', rest) ← f.read record r
      readItems sh (index + 1) record' fs rest
    | .ended rest =>
      match (f :: fs).findIdx? Field.needed with
      | some k => failAt (.wrongLength (index + k) sh.size) rest
      | none => .ok (record, rest)

def read (sh : Shape α) : Reader α := fun cs =>
  match skipSpace cs with
  | [] => failIn .eofValue []
  | '{' :: r => sh.readMembers (r.length + 1) true [] sh.empty r
  | '[' :: r => sh.readItems 0 sh.empty sh.fields r
  | r => wrongType sh.title r

end Shape

/-- Reads the values of a list from its opening bracket or from behind a value. The first argument
bounds their number. -/
def readItemsWith (read : Reader α) : Nat → Bool → List α → Reader (List α)
  | 0, _, _, _ => failIn .eofList []
  | n + 1, first, done, cs => do
    match ← Shape.nextItem first cs with
    | .ended rest => .ok (done.reverse, rest)
    | .item r =>
      let (value, rest) ← read r
      readItemsWith read n false (value :: done) rest

def readList (read : Reader α) : Reader (List α) := fun cs =>
  match skipSpace cs with
  | [] => failIn .eofValue []
  | '[' :: r => readItemsWith read (r.length + 1) true [] r
  | r => wrongType "a sequence" r

def readAll (read : Reader α) (text : String) : Except Error α :=
  let cs := text.toList
  let result : Except Fault α := do
    let (value, rest) ← read cs
    match skipSpace rest with
    | [] => .ok value
    | r => failIn .trailingCharacters r
  result.mapError fun f => f.locate cs

end Rendezvous.Json
