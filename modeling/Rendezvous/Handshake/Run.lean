import Rendezvous.Handshake.Steps

/-! Performing a procedure on a clock that stands still except while something waits. A wait ends on
the first whole millisecond at or after its end. -/

namespace Rendezvous.Handshake

/-- What may cut a handshake short: its deadline, and a cancellation at a set time. -/
structure Watch where
  deadline : Nat
  cancelAt : Option Nat
deriving DecidableEq

inductive Interruption
  | timedOut
  | cancelled
deriving DecidableEq

namespace Watch

def cancel (w : Watch) (now : Nat) : Watch :=
  { w with cancelAt := some (match w.cancelAt with
      | some c => min c now
      | none => now) }

/-- What cuts short a wait from `now` to `wake`, and when. A cancellation goes before the deadline.
Of what falls on the very end of the wait the wait itself goes first. -/
def interrupts (w : Watch) (now wake : Nat) : Option (Interruption × Nat) :=
  let expiry := max now w.deadline
  let timeout := if expiry < wake then some (.timedOut, expiry) else none
  match w.cancelAt with
  | none => timeout
  | some c =>
    let cut := max now c
    if cut < wake ∧ cut ≤ expiry then some (.cancelled, cut) else timeout

end Watch

/-- A clock and two agents, with the handshake in progress. Nothing can interrupt what is not
watched. -/
structure World (σ : Type) where
  now : Nat
  /-- The time of day at which the clock was started. -/
  epoch : Stamp
  agents : σ
  progress : Progress
  watch : Option Watch

namespace World

def stamp (w : World σ) : Stamp := w.epoch.addMillis w.now

def moment (w : World σ) : Moment := ⟨w.now, w.stamp⟩

def wait (w : World σ) (ticks : Nat) : Option Interruption × World σ :=
  if ticks = 0 then (none, w)
  else
    match w.watch.bind fun g => g.interrupts w.now (w.now + ticks) with
    | some (i, t) => (some i, { w with now := t })
    | none => (none, { w with now := w.now + ticks })

/-- Puts a call to an agent, which may also cancel the handshake. -/
def ask (agents : Agents σ) (w : World σ) (c : Agent.Call) :
    Agent.Reply (Agent.Result c) × World σ :=
  let (reply, rest) := agents.ask c w.agents
  let watch := if reply.cancels then w.watch.map fun g => g.cancel w.now else w.watch
  (reply, { w with agents := rest, watch := watch })

end World

inductive Ending (α : Type)
  | done (value : α)
  | failed (failure : Failure)
  | interrupted (i : Interruption)
  /-- It would go on for ever. -/
  | endless
deriving DecidableEq

structure Logged where
  time : Nat
  call : Agent.Call
deriving DecidableEq

/-- A procedure performed: its calls in order, its ending, and the world after it. -/
structure Run (σ α : Type) where
  calls : List Logged
  ending : Ending α
  world : World σ

namespace Procedure

def run (agents : Agents σ) : Procedure α → World σ → Run σ α
  | .done a, w => ⟨[], .done a, w⟩
  | .fail f, w => ⟨[], .failed f, w⟩
  | .stall, w => ⟨[], .endless, w⟩
  | .now k, w => (k w.moment).run agents w
  | .reach m k, w =>
    match w.progress.advance m w.stamp with
    | .ok p => (k p).run agents { w with progress := p }
    | .error f => ⟨[], .failed f, w⟩
  | .pause d k, w =>
    match w.wait (ticksOf d) with
    | (some i, w') => ⟨[], .interrupted i, w'⟩
    | (none, w') => k.run agents w'
  | .ask c k, w =>
    let logged : Logged := ⟨w.now, c⟩
    let (reply, w₁) := w.ask agents c
    match w₁.wait reply.latency with
    | (some i, w₂) => ⟨[logged], .interrupted i, w₂⟩
    | (none, w₂) =>
      match reply.answer with
      | .error f => ⟨[logged], .failed (.ofFault (stepOf c) f), w₂⟩
      | .ok a =>
        let r := (k a).run agents w₂
        { r with calls := logged :: r.calls }

/-- A milestone is reached if it is the next one. -/
theorem run_reach (agents : Agents σ) {w : World σ} {m : Milestone}
    (k : Progress → Procedure α) (h : w.progress.milestone.next? = some m) :
    ∃ p : Progress, p.milestone = m ∧
      (reach m k).run agents w = (k p).run agents { w with progress := p } := by
  refine ⟨{ w.progress with
    milestone := m
    transitions := w.progress.transitions ++ [⟨w.progress.milestone, m, w.stamp⟩] }, rfl, ?_⟩
  simp only [run, Progress.advance, if_pos h]

end Procedure

/-- The result of a procedure that may have been interrupted on its way through a handshake. There
is none of a procedure that goes on for ever. -/
def Run.result (limit : Span) (r : Run σ α) : Option (Except Failure α) :=
  match r.ending with
  | .done a => some (.ok a)
  | .failed f => some (.error f)
  | .interrupted .timedOut => some (.error (.outOfTime limit r.world.progress.milestone))
  | .interrupted .cancelled => some (.error (.cancelled r.world.progress.milestone))
  | .endless => none

/-- Performs a handshake within its time limit. It can be cancelled some milliseconds after its
start; if that is at once, nothing is done at all. -/
def perform (agents : Agents σ) (o : Options) (cancelAfter : Option Nat) (w : World σ) :
    Run σ Outcome :=
  let watch : Watch := ⟨w.now + ticksOf o.limit, cancelAfter.map (w.now + ·)⟩
  let w' := { w with progress := .begin w.stamp, watch := some watch }
  if cancelAfter = some 0 then ⟨[], .interrupted .cancelled, w'⟩
  else (handshake o (agents.endpoint .inviter) (agents.stock w.agents)).run agents w'

def performStep (agents : Agents σ) (p : Procedure α) (w : World σ) : Run σ α :=
  p.run agents { w with watch := none }

end Rendezvous.Handshake
