import Rendezvous.Text.Numeral
import Rendezvous.Url.Path

/-! Reading a URL as browsers do: what can be made sense of is put into standard form. -/

namespace Rendezvous.Url

/-- Tabs and line ends mean nothing within a URL, nor do controls and spaces around it. -/
def clean (cs : List Char) : List Char :=
  let outer (c : Char) : Bool := c.toNat ≤ 0x20
  let trimmed := ((cs.dropWhile outer).reverse.dropWhile outer).reverse
  trimmed.filter fun c => !(c == '\t' || c == '\n' || c == '\r')

def isSchemeChar (c : Char) : Bool := c.isAlphanum || c == '+' || c == '-' || c == '.'

def splitScheme? (cs : List Char) : Option (String × List Char) :=
  match cs with
  | c :: _ =>
    if c.isAlpha then
      match cs.dropWhile isSchemeChar with
      | ':' :: rest => some (String.ofList ((cs.takeWhile isSchemeChar).map Char.toLower), rest)
      | _ => none
    else none
  | [] => none

/-- Splits at the first of a character, which is dropped. -/
def splitAtChar (x : Char) (cs : List Char) : List Char × Option (List Char) :=
  match cs.dropWhile (· != x) with
  | [] => (cs, none)
  | _ :: rest => (cs.takeWhile (· != x), some rest)

/-- Splits at the last of a character, which is dropped. -/
def splitAtLast? (x : Char) (cs : List Char) : Option (List Char × List Char) :=
  let back := cs.reverse
  match back.dropWhile (· != x) with
  | [] => none
  | _ :: front => some (front.reverse, (back.takeWhile (· != x)).reverse)

/-- The length of a host: it ends at the first colon outside square brackets. -/
def hostLength (inside : Bool) : List Char → Nat
  | [] => 0
  | c :: r =>
    if c = ':' ∧ !inside then 0
    else hostLength (if c = '[' then true else if c = ']' then false else inside) r + 1

/-- Reads a port from its digits. No digits mean the usual port. -/
def readPort (scheme : String) (digits : List Char) : Except Fault (Option Nat) :=
  if digits.isEmpty then .ok none
  else
    match Text.readDigits (UInt16.size - 1) 0 digits with
    | .error _ => .error .badPort
    | .ok n => .ok (if usualPort? scheme = some n then none else some n)

/-- User name and password as written before a host. An empty password is none. -/
def readUserinfo (cs : List Char) : String × Option String :=
  let written (cs : List Char) : String := String.ofList (Text.percentEncode isPlainInUserinfo cs)
  match splitAtChar ':' cs with
  | (name, some (c :: r)) => (written name, some (written (c :: r)))
  | (name, _) => (written name, none)

structure Authority where
  username : String
  password : Option String
  host : Host
  port : Option Nat

/-- Reads what stands between the two slashes and the path, and gives the rest of it that belongs to
the path. Only a backslash behind a port does. `followed` tells whether more of the URL comes. -/
def readAuthority (scheme : String) (web followed : Bool) (cs : List Char) :
    Except Fault (Authority × List Char) := do
  let (userinfo, place) := (splitAtLast? '@' cs).getD ([], cs)
  let (username, password) := readUserinfo userinfo
  let n := hostLength false place
  let name := place.take n
  let host ← if web then
      if name.isEmpty then .error .emptyHost else Host.read name
    else Host.readOther name
  let named := !username.isEmpty || password.isSome || (cs = ['@'] && followed)
  let rest := (place.drop n).drop 1
  if host = .empty ∧ (named ∨ n < place.length) then .error .emptyHost
  else
    let digits := rest.takeWhile (· != '\\')
    let port ← readPort scheme digits
    .ok (⟨username, password, host, port⟩, rest.drop digits.length)

def assemble (scheme : String) (a : Option Authority) (path : Path) (query fragment : Option String) :
    Location where
  scheme := scheme
  username := a.elim "" Authority.username
  password := a.bind Authority.password
  host := a.map Authority.host
  port := a.bind Authority.port
  path := path
  query := query
  fragment := fragment

def pathOf (segments : List (List Char)) : Path := .segments (segments.map String.ofList)

def isWebSlash (c : Char) : Bool := c == '/' || c == '\\'

/-- Authority and path of a web address, behind its scheme. Any number of slashes may come first. -/
def readWeb (scheme : String) (cs : List Char) : Except Fault (Option Authority × Path) := do
  let cs := cs.dropWhile isWebSlash
  let (a, _) ← readAuthority scheme true false (cs.takeWhile fun c => !isWebSlash c)
  let path := cs.dropWhile fun c => !isWebSlash c
  .ok (some a, pathOf (resolve false (splitPath isWebSlash path.tail)))

/-- The path of a file, whose leading slashes count as one. -/
def filePath (cs : List Char) : Path :=
  let segments := resolve true (splitPath isWebSlash cs)
  match segments.dropWhile List.isEmpty with
  | [] => pathOf [[]]
  | kept => pathOf kept

/-- A file may lie on a named host. -/
def readFile (cs : List Char) : Except Fault (Option Authority × Path) :=
  let named (h : Host) : Option Authority := some ⟨"", none, h, none⟩
  match cs with
  | a :: b :: r =>
    if isWebSlash a && isWebSlash b then
      let name := r.takeWhile fun c => !isWebSlash c
      if name.isEmpty || isDrive name then .ok (named .empty, filePath r)
      else do
        let path := r.dropWhile fun c => !isWebSlash c
        let host ← Host.read name
        .ok (named (if host = .domain "localhost" then .empty else host), filePath path.tail)
    else .ok (named .empty, filePath (if isWebSlash a then b :: r else cs))
  | [a] => .ok (named .empty, filePath (if isWebSlash a then [] else [a]))
  | [] => .ok (named .empty, filePath [])

/-- Authority and path under a scheme with rules of its own. -/
def readOtherScheme (scheme : String) (followed : Bool) (cs : List Char) :
    Except Fault (Option Authority × Path) :=
  let split (path : List Char) : Path :=
    match path with
    | [] => .segments []
    | c :: r => pathOf (resolve false (splitPath (· == '/') (if c = '/' then r else c :: r)))
  match cs with
  | '/' :: '/' :: r => do
    let front := r.takeWhile (· != '/')
    let path := r.dropWhile (· != '/')
    let (a, rest) ← readAuthority scheme false (followed || !path.isEmpty) front
    .ok (some a, split (rest ++ path))
  | '/' :: r => .ok (none, split ('/' :: r))
  | r => .ok (none, .whole (String.ofList (Text.percentEncode Host.isPlain r)))

def parse (text : String) : Except Fault Location :=
  match splitScheme? (clean text.toList) with
  | none => .error .relative
  | some (scheme, rest) => do
    let web := (usualPort? scheme).isSome || scheme == "file"
    let (rest, fragment) := splitAtChar '#' rest
    let (rest, query) := splitAtChar '?' rest
    let (authority, path) ←
      if scheme = "file" then readFile rest
      else if web then readWeb scheme rest
      else readOtherScheme scheme (query.isSome || fragment.isSome) rest
    .ok (assemble scheme authority path
      (query.map fun q => String.ofList (Text.percentEncode (isPlainInQuery web) q))
      (fragment.map fun f => String.ofList (Text.percentEncode isPlainInFragment f)))

end Rendezvous.Url
