import Rendezvous.Url.Parse

/-! Reading a URL that may leave out what it shares with a web address. -/

namespace Rendezvous.Url

def Path.backwards : Path → List (List Char)
  | whole _ => []
  | segments parts => (parts.map String.toList).reverse

/-- Reads what stands behind the scheme of a web address, if that is left out. -/
def readRelative (base : Location) (cs : List Char) : Except Fault Location := do
  let (cs, fragment) := splitAtChar '#' cs
  let (cs, query) := splitAtChar '?' cs
  let query := query.map fun q => String.ofList (Text.percentEncode (isPlainInQuery true) q)
  let fragment := fragment.map fun f => String.ofList (Text.percentEncode isPlainInFragment f)
  match cs with
  | [] => .ok { base with query := query.or base.query, fragment := fragment }
  | c :: r =>
    if 2 ≤ (cs.takeWhile isWebSlash).length then
      let (authority, path) ← readWeb base.scheme cs
      .ok (assemble base.scheme authority path query fragment)
    else
      -- Without a slash the text takes the place of the last segment.
      let (done, rest) := if isWebSlash c then ([], r) else (base.path.backwards.tail, cs)
      let path := pathOf (resolveFrom false done (splitPath isWebSlash rest))
      .ok { base with path := path, query := query, fragment := fragment }

/-- The URL that a text stands for at a web address. -/
def join (base : Location) (text : String) : Except Fault Location :=
  let cs := clean text.toList
  match splitScheme? cs with
  | none => readRelative base cs
  | some (scheme, rest) =>
    if scheme = base.scheme ∧ (rest.takeWhile isWebSlash).length < 2 then readRelative base rest
    else parse text

end Rendezvous.Url
