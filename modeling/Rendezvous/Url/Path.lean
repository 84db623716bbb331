import Rendezvous.Url.Basic

/-! The segments of a path: what they hold, and those that lead back. -/

namespace Rendezvous.Url

def isPlainInFragment (c : Char) : Bool :=
  Host.isPlain c && !([' ', '"', '<', '>', '\x60'].contains c)

def isPlainInPath (c : Char) : Bool :=
  isPlainInFragment c && !(['#', '?', '\x7b', '\x7d'].contains c)

def isPlainInUserinfo (c : Char) : Bool :=
  isPlainInPath c && !(['/', ':', ';', '=', '@', '[', '\\', ']', '^', '|'].contains c)

def isPlainInQuery (web : Bool) (c : Char) : Bool :=
  Host.isPlain c && !([' ', '"', '#', '<', '>'].contains c) && !(web && c == '\x27')

/-- A point, written out or encoded. -/
def dropPoint? : List Char → Option (List Char)
  | '.' :: r => some r
  | '%' :: '2' :: e :: r => if e = 'e' ∨ e = 'E' then some r else none
  | _ => none

/-- A segment that stands for the place where it is. -/
def isSingleDot (segment : List Char) : Bool := dropPoint? segment == some []

/-- A segment that leads back by one. -/
def isDoubleDot (segment : List Char) : Bool := (dropPoint? segment).bind dropPoint? == some []

/-- The name of a disk: a letter and a colon or bar. -/
def isDrive : List Char → Bool
  | [a, b] => a.isAlpha && (b == ':' || b == '|')
  | _ => false

/-- Takes the last segment away. The segments are given last one first. A file's disk stays. -/
def shorten (file : Bool) (done : List (List Char)) : List (List Char) :=
  match done with
  | [] => []
  | [s] => if file && isDrive s then [s] else []
  | _ :: rest => rest

/-- Goes over the segments of a path. Those done are given last one first. -/
def resolveFrom (file : Bool) (done : List (List Char)) : List (List Char) → List (List Char)
  | [] => done.reverse
  | s :: rest =>
    if isDoubleDot s then
      let done := shorten file done
      resolveFrom file (if rest.isEmpty then [] :: done else done) rest
    else if isSingleDot s then
      resolveFrom file (if rest.isEmpty then [] :: done else done) rest
    else if file && done.isEmpty && isDrive s then
      resolveFrom file ((s.take 1 ++ [':']) :: done) rest
    else resolveFrom file (Text.percentEncode isPlainInPath s :: done) rest

/-- The segments of a path once those that stand for a place or lead back have done so. -/
def resolve (file : Bool) (segments : List (List Char)) : List (List Char) :=
  resolveFrom file [] segments

def splitPath (isSlash : Char → Bool) (cs : List Char) : List (List Char) := cs.splitOnP isSlash

end Rendezvous.Url
