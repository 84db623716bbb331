import Rendezvous.Http.Client
import Rendezvous.Http.Redirect
import Rendezvous.Config

/-! Exchanges with agents whose responses are settled beforehand. -/

namespace Rendezvous.Http

structure Sent where
  side : Side
  request : Request
deriving DecidableEq

/-- What comes back to one request: a response or none, the milliseconds until its head is there or
the connection is lost, and those from then on until its body ends. -/
structure Delivery where
  response : Option Response
  head : Nat
  body : Nat
deriving DecidableEq

/-- What is to come back to a call: to its request, and to those that this is sent on as. The call
may be the moment at which the handshake is cancelled from outside. -/
structure Incoming where
  deliveries : List Delivery
  cancels : Bool
deriving DecidableEq

/-- What is to come back, one item for each call, and the requests sent so far, oldest first. To
more calls than that no response comes. -/
structure Traffic where
  coming : List Incoming
  sent : List Sent
deriving DecidableEq

/-- What becomes of a request: what comes of it, after how many milliseconds, and the requests that
are sent. -/
structure Pursuit where
  reception : Reception
  elapsed : Nat
  sent : List Request
deriving DecidableEq

/-- Sends a request, and sends it on where responses lead. Once the time is up nothing more counts,
but a response whose head is there has come, without its body. -/
def pursue (limit followed elapsed : Nat) (q : Request) : List Delivery → Pursuit
  | [] => ⟨.unanswered q, elapsed, [q]⟩
  | d :: later =>
    let headed := elapsed + d.head
    if limit ≤ headed then ⟨.unanswered q, limit, [q]⟩
    else
      match d.response with
      | none => ⟨.unanswered q, headed, [q]⟩
      | some r =>
        match q.redirection followed r with
        | .stays =>
          if limit ≤ headed + d.body then ⟨.answered q { r with body := none }, limit, [q]⟩
          else ⟨.answered q r, headed + d.body, [q]⟩
        | .fails detail => ⟨.strayed detail, headed, [q]⟩
        | .leads next =>
          let p := pursue limit (followed + 1) headed next later
          { p with sent := q :: p.sent }

open Agent (Call)

namespace Client

def pursuit (c : Client) (call : Call) (next : Option Incoming) : Pursuit :=
  match c.request call with
  | .error o => ⟨.unsent o, 0, []⟩
  | .ok q => pursue (ticksOf c.timeout) 0 0 q (next.elim [] Incoming.deliveries)

variable [Text.Encodings]

/-- Puts a call to the agent of one side. If its request cannot be made, nothing is sent. -/
def ask (c : Client) (side : Side) (call : Call) (t : Traffic) :
    Agent.Reply (Agent.Result call) × Traffic :=
  let next := t.coming.head?
  let p := c.pursuit call next
  let answer := c.settle call p.reception
  match p.sent with
  | [] => (⟨answer, p.elapsed, false⟩, t)
  | q :: qs =>
    (⟨answer, p.elapsed, next.any Incoming.cancels⟩,
      ⟨t.coming.tail, t.sent ++ (q :: qs).map (Sent.mk side)⟩)

end Client

def agents [Text.Encodings] (clients : Side → Client) : Agents Traffic where
  endpoint side := (clients side).endpoint.baseUrl
  ask call t := (clients call.side).ask call.side call t
  stock t := t.coming.length

def clients (c : Config) (side : Side) : Client := .ofEndpoint (c.endpoint side) c.requestTimeout

end Rendezvous.Http
