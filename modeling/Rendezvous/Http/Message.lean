import Rendezvous.Text.Base64
import Rendezvous.Http.Request
import Rendezvous.Http.Response

/-! Requests and responses as they go over the wire, one exchange for each connection. -/

namespace Rendezvous.Http

namespace Request

def target (r : Request) : String := r.url.path.text ++ r.url.query.elim "" ("?" ++ ·)

def authority (r : Request) : String :=
  r.url.host.elim "" fun h => Url.Location.authority h r.url.port

def headers (r : Request) : List (String × String) :=
  let basic (c : Credentials) : String :=
    "Basic " ++ String.ofList
      (Text.base64 (Text.encodeUtf8 (c.username ++ ":" ++ c.password.getD "").toList))
  let optional (name : String) (value : Option String) : List (String × String) :=
    (value.map fun v => (name, v)).toList
  [("host", r.authority), ("accept", "*/*"), ("connection", "close")] ++
    optional "authorization" (r.credentials.map basic) ++ optional "x-api-key" r.apiKey ++
    optional "content-type" r.contentType ++ optional "referer" r.referer ++
    if r.method = .post then [("content-length", toString r.body.utf8ByteSize)] else []

def bytes (r : Request) : List UInt8 :=
  let head := r.method.name ++ " " ++ r.target ++ " HTTP/1.1\r\n" ++
    String.join (r.headers.map fun h => h.1 ++ ": " ++ h.2 ++ "\r\n") ++ "\r\n"
  Text.encodeUtf8 (head ++ r.body).toList

end Request

/-- What has arrived of a response. -/
inductive Arrival
  | whole (response : Response)
  /-- More is to come. If nothing does, this is what there is. -/
  | unfinished (response : Option Response)
  | garbled
deriving DecidableEq

namespace Arrival

/-- Splits off the lines before the first empty one, which is dropped. The line begun and the lines
before it are given last one first. -/
def splitHead? (line : List UInt8) (done : List (List UInt8)) :
    List UInt8 → Option (List (List UInt8) × List UInt8)
  | [] => none
  | b :: r =>
    if b = 10 then
      let line := if line.head? = some 13 then line.tail else line
      if line.isEmpty then some (done.reverse, r) else splitHead? [] (line.reverse :: done) r
    else splitHead? (b :: line) done r

def latin (bs : List UInt8) : List Char := bs.map fun b => Char.ofNat b.toNat

def status? (line : List UInt8) : Option Nat :=
  match latin line with
  | 'H' :: 'T' :: 'T' :: 'P' :: '/' :: '1' :: '.' :: _ :: ' ' :: r =>
    (Text.readDigits 999 0 (r.takeWhile (· != ' '))).toOption.filter (100 ≤ ·)
  | _ => none

/-- Name, in small letters, and value of a header. -/
def header (line : List UInt8) : String × String :=
  let isSpace (c : Char) : Bool := c == ' ' || c == '\t'
  let cs := latin line
  (String.ofList ((cs.takeWhile (· != ':')).map Char.toLower),
    String.ofList (Text.dropEndWhile isSpace (((cs.dropWhile (· != ':')).drop 1).dropWhile isSpace)))

/-- A body in chunks, each with its length before it. The first argument bounds their number. -/
def readChunks (response : Option (List UInt8) → Response) :
    Nat → List UInt8 → List UInt8 → Arrival
  | 0, _, _ => .whole (response none)
  | n + 1, done, bs =>
    let unfinished := Arrival.unfinished (some (response none))
    match bs.dropWhile (· != 10) with
    | [] => unfinished
    | _ :: r =>
      match ((latin bs).takeWhile fun c => (Text.hexDigit? c).isSome).mapM Text.hexDigit? with
      | none | some [] => .whole (response none)
      | some digits =>
        let size := digits.foldl (fun n d => n * 16 + d) 0
        if size = 0 then .whole (response (some done))
        else if r.length < size + 2 then unfinished
        else readChunks response n (done ++ r.take size) (r.drop (size + 2))

def ofBody (status : Nat) (headers : List (String × String)) (bs : List UInt8) : Arrival :=
  let value (name : String) : Option String := (headers.find? fun h => h.1 == name).map Prod.snd
  let location := (value "location").bind fun v =>
    Text.decodeUtf8? (v.toList.map fun c => UInt8.ofNat c.toNat)
  let response (body : Option (List UInt8)) : Response :=
    ⟨status, value "content-type", location.map String.ofList, body⟩
  if status = 204 ∨ status = 304 then .whole (response (some []))
  else if (value "transfer-encoding").any fun v => Text.asciiLower v == "chunked" then
    readChunks response (bs.length + 1) [] bs
  else
    match value "content-length" with
    | none => .unfinished (some (response (some bs)))
    | some v =>
      match Text.readNumeral (UInt64.size - 1) v with
      | .error _ => .garbled
      | .ok n =>
        if n ≤ bs.length then .whole (response (some (bs.take n)))
        else .unfinished (some (response none))

/-- What the bytes that have arrived amount to. Notices that come before the response itself are
passed over; the first argument bounds their number. -/
def read : Nat → List UInt8 → Arrival
  | 0, _ => .garbled
  | n + 1, bs =>
    match splitHead? [] [] bs with
    | none => .unfinished none
    | some ([], _) => .garbled
    | some (first :: rest, body) =>
      match status? first with
      | none => .garbled
      | some status =>
        if status < 200 then read n body else ofBody status (rest.map header) body

def ofBytes (bs : List UInt8) : Arrival := read (bs.length + 1) bs

end Arrival

end Rendezvous.Http
