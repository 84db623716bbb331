import Std.Async.TCP
import Std.Async.DNS
import Std.Async.Timer
import Std.Async.Signal
import Std.Time.DateTime.Timestamp
import Rendezvous.Text.Uuid
import Rendezvous.Http.Message
import Rendezvous.Http.Traffic
import Rendezvous.Handshake.Run
import Rendezvous.Report

/-! The program: brings together the two agents that its settings name and prints the outcome. -/

namespace Rendezvous

open Std.Async
open Handshake (Failure Outcome Procedure Progress)

namespace Http

/-- Connects to the first address of a host that answers. -/
def connect (host : String) (port : UInt16) : Async (Option TCP.Socket.Client) := do
  for address in ← DNS.getAddrInfo host (toString port) do
    try
      let socket ← TCP.Socket.Client.mk
      socket.connect (match address with
        | .v4 a => .v4 ⟨a, port⟩
        | .v6 a => .v6 ⟨a, port⟩)
      return some socket
    catch _ => continue
  return none

instance : Inhabited Reception := ⟨.strayed ""⟩

section Exchange

variable (due : IO.Ref Reception)

/-- Reads on until the bytes that have arrived make a response, or lead elsewhere. `due` is kept at
what comes of the call if its time is up. -/
partial def receive (q : Request) (followed : Nat) (socket : TCP.Socket.Client)
    (bytes : List UInt8) : Async (Option Response) := do
  let goOn (r : Option Response) : Async (Option Response) := do
    match ← (try some <$> socket.recv? 65536 catch _ => pure none) with
    | some (some more) => receive q followed socket (bytes ++ more.toList)
    | some none => return r
    | none => return r.map fun r => { r with body := none }
  match Arrival.ofBytes bytes with
  | .whole r => return some r
  | .garbled => return none
  | .unfinished none => goOn none
  | .unfinished (some r) =>
    if q.redirection followed r = .stays then
      due.set (.answered q { r with body := none })
      goOn (some r)
    else return some r

/-- Sends a request and waits for its response. Only unencrypted connections can be made. -/
def send (q : Request) (followed : Nat) : Async (Option Response) := do
  if q.url.scheme ≠ "http" then return none
  try
    let host := (q.url.host.elim "" Url.Host.text).toList.filter fun c => c != '[' && c != ']'
    match ← connect (String.ofList host) (q.url.port.getD 80).toUInt16 with
    | none => return none
    | some socket =>
      socket.send ⟨q.bytes.toArray⟩
      receive due q followed socket []
  catch _ => return none

/-- Sends a request, and sends it on where responses lead. -/
partial def follow (q : Request) (followed : Nat) : Async Reception := do
  due.set (.unanswered q)
  match ← send due q followed with
  | none => return .unanswered q
  | some r =>
    match q.redirection followed r with
    | .stays => return .answered q r
    | .fails detail => return .strayed detail
    | .leads next => follow next (followed + 1)

end Exchange

end Http

def pass (ticks : Nat) : Async Unit := sleep ⟨(ticks : Int)⟩

def timeOfDay : IO Stamp := do
  return ⟨(← Std.Time.Timestamp.now).toNanosecondsSinceUnixEpoch.val.toNat⟩

def Http.Client.perform (c : Http.Client) (call : Agent.Call) : Async (Agent.Result call) := do
  match c.request call with
  | .error o => return c.settle call (.unsent o)
  | .ok q =>
    let due ← IO.mkRef (Http.Reception.unanswered q)
    let late : Async Http.Reception := do
      pass (ticksOf c.timeout)
      due.get
    return c.settle call (← Async.race (Http.follow due q 0) late)

/-- A handshake in progress between two agents on the network. -/
structure Session where
  clients : Side → Http.Client
  progress : IO.Ref Progress

/-- Follows a procedure, whose waits take their real time. -/
def Session.follow (s : Session) : Procedure α → Async (Except Failure α)
  | .done a => return .ok a
  | .fail f => return .error f
  | .stall => do
    pass (ticksOf .longest)
    return .error (.cancelled (← s.progress.get).milestone)
  | .now k => do s.follow (k ⟨← IO.monoMsNow, ← timeOfDay⟩)
  | .reach m k => do
    let time ← timeOfDay
    match ← s.progress.modifyGet (Progress.proceed m time).run with
    | .ok () => s.follow (k (← s.progress.get))
    | .error f => return .error f
  | .pause d k => do
    pass (ticksOf d)
    s.follow k
  | .ask c k => do
    match ← (s.clients c.side).perform c with
    | .ok a => s.follow (k a)
    | .error f => return .error (.ofFault (Handshake.stepOf c) f)

instance : Inhabited (Except Failure Outcome) := ⟨.error (.cancelled .start)⟩

/-- Brings two agents together, unless the time runs out or the user interrupts. -/
def connectAgents (c : Config) : IO (Except Failure Outcome) := do
  let clients := Http.clients c
  let progress ← IO.mkRef (Progress.begin (← timeOfDay))
  let interruption ← Signal.Waiter.mk .sigint false
  let interrupted : Async (Except Failure Outcome) := do
    let _ ← await (← interruption.wait)
    return .error (.cancelled (← progress.get).milestone)
  let late : Async (Except Failure Outcome) := do
    pass (ticksOf c.options.limit)
    return .error (.outOfTime c.options.limit (← progress.get).milestone)
  let procedure :=
    Handshake.handshake c.options (clients .inviter).endpoint.baseUrl UInt64.size
  (Async.race (Session.follow ⟨clients, progress⟩ procedure) (Async.race interrupted late)).block

def Report.emit (r : Report) : IO UInt32 := do
  IO.print r.output
  IO.eprint r.errors
  return r.status

end Rendezvous

open Rendezvous in
def main : IO UInt32 := do
  let values ← Setting.all.mapM fun s => return (s.name, ← IO.getEnv s.name)
  let unique := Text.uuid (← IO.getRandomBytes 16).toList
  match Config.ofVariables (fun name => (values.lookup name).join) unique with
  | .error e => (Report.misconfigured e).emit
  | .ok c => (Report.ofResult (← connectAgents c)).emit
