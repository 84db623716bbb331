import Rendezvous.Agent.Call
import Rendezvous.Handshake.Progress

/-! What a handshake does, apart from how and when it is done: a tree of calls and waits that
branches on the answers. -/

namespace Rendezvous.Handshake

open Agent (Call)

/-- A reading of the clock: milliseconds since it was started, and the time of day. -/
structure Moment where
  tick : Nat
  stamp : Stamp

def stepOf : Call → Step
  | .createInvitation .. => .createInvitation
  | .receiveInvitation .. => .receiveInvitation
  | .acceptInvitation .. => .acceptInvitation
  | .listConnections .. => .awaitRequest
  | .acceptRequest .. => .acceptRequest

inductive Procedure (α : Type) where
  | done (value : α)
  | fail (failure : Failure)
  /-- Nothing would ever change again. -/
  | stall
  | now (next : Moment → Procedure α)
  /-- The handshake has come as far as a milestone. -/
  | reach (milestone : Milestone) (next : Progress → Procedure α)
  | pause (length : Span) (next : Procedure α)
  /-- A call that fails ends the procedure. -/
  | ask (call : Call) (next : call.Answer → Procedure α)

namespace Procedure

def bind (p : Procedure α) (f : α → Procedure β) : Procedure β :=
  match p with
  | done a => f a
  | fail e => fail e
  | stall => stall
  | now k => now fun m => (k m).bind f
  | reach m k => reach m fun p => (k p).bind f
  | pause d k => pause d (k.bind f)
  | ask c k => ask c fun a => (k a).bind f

instance : Monad Procedure where
  pure := done
  bind := bind

def call (c : Call) : Procedure c.Answer := ask c done

def advance (m : Milestone) : Procedure Progress := reach m done

def clock : Procedure Moment := now done

def wait (d : Span) : Procedure Unit := pause d (done ())

@[simp] theorem bind_done (p : Procedure α) : p.bind done = p := by
  induction p with
  | done a => rfl
  | fail e => rfl
  | stall => rfl
  | now k ih => simp [bind, ih]
  | reach m k ih => simp [bind, ih]
  | pause d k ih => simp [bind, ih]
  | ask c k ih => simp [bind, ih]

end Procedure

end Rendezvous.Handshake
