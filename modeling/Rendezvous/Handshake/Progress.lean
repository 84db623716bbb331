import Rendezvous.Time.Stamp
import Rendezvous.Handshake.Failure

/-! The history of one handshake: the milestones it reached, and when. -/

namespace Rendezvous.Handshake

structure Transition where
  source : Milestone
  target : Milestone
  time : Stamp
deriving DecidableEq

/-- The milestone at which a handshake stands and how it came there, oldest transition first. -/
structure Progress where
  milestone : Milestone
  startedAt : Stamp
  transitions : List Transition
deriving DecidableEq

namespace Progress

def begin (time : Stamp) : Progress := ⟨.start, time, []⟩

/-- Goes on to the next milestone. No other can be reached. -/
def advance (p : Progress) (target : Milestone) (time : Stamp) : Except Failure Progress :=
  if p.milestone.next? = some target then
    .ok { p with
      milestone := target
      transitions := p.transitions ++ [⟨p.milestone, target, time⟩] }
  else .error (.badTransition p.milestone target)

/-- Goes on in place. The transition is set down before the milestone. -/
def proceed (target : Milestone) (time : Stamp) : StateM Progress (Except Failure Unit) := do
  let p ← get
  if p.milestone.next? ≠ some target then return .error (.badTransition p.milestone target)
  modify fun p => { p with transitions := p.transitions ++ [⟨p.milestone, target, time⟩] }
  modify fun p => { p with milestone := target }
  return .ok ()

theorem run_proceed (p : Progress) (target : Milestone) (time : Stamp) :
    (proceed target time).run p =
      match p.advance target time with
      | .ok q => (.ok (), q)
      | .error f => (.error f, p) := by
  by_cases h : p.milestone.next? = some target
  · simp [proceed, advance, h]
    rfl
  · simp [proceed, advance, h]
    rfl

end Progress

end Rendezvous.Handshake
