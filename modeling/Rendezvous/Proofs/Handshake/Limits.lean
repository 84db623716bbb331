import Rendezvous.Proofs.Handshake.Interruption
import Rendezvous.Proofs.Handshake.Polling
import Rendezvous.Proofs.Handshake.Watching

/-! A run ends by its deadline, and by the time at which it is cancelled. -/

namespace Rendezvous.Handshake

open Procedure

variable {σ : Type}

/-- The times at which a run that begins at `start` is cancelled: as was arranged beforehand, or
from outside during one of its calls. -/
inductive CancelledAt (start : Nat) (cancelAfter : Option Nat) (xs : List Exchange) : Nat → Prop
  | arranged {n : Nat} (after : cancelAfter = some n) : CancelledAt start cancelAfter xs (start + n)
  | during {x : Exchange} (mem : x ∈ xs) (cancels : x.reply.cancels = true) :
      CancelledAt start cancelAfter xs x.time

theorem World.armed_dueAt (w : World σ) (o : Options) (cancelAfter : Option Nat) :
    (w.armed o cancelAfter).DueAt (w.now + ticksOf o.limit) :=
  ⟨Nat.le_add_right .., _, rfl, rfl⟩

theorem World.armed_endsBy (w : World σ) (o : Options) (n : Nat) :
    (w.armed o (some n)).EndsBy (w.now + n) :=
  ⟨Nat.le_add_right .., _, rfl, .inr ⟨_, rfl, Nat.le_refl _⟩⟩

/-- No call is put after the end. -/
theorem perform_times (agents : Agents σ) (o : Options) (cancelAfter : Option Nat) (w : World σ) :
    ∀ e ∈ (perform agents o cancelAfter w).calls,
      e.time ≤ (perform agents o cancelAfter w).world.now := by
  rw [perform_eq]
  split
  · simp
  · exact fun e he => ((run_times _ _ _).2 e he).2

theorem perform_dueAt (agents : Agents σ) (o : Options) (cancelAfter : Option Nat) (w : World σ) :
    (perform agents o cancelAfter w).world.DueAt (w.now + ticksOf o.limit) ∧
      ((perform agents o cancelAfter w).ending = .interrupted .timedOut →
        (perform agents o cancelAfter w).world.now = w.now + ticksOf o.limit) := by
  have harmed := w.armed_dueAt o cancelAfter
  rw [perform_eq]
  split
  · exact ⟨harmed, by simp⟩
  · exact harmed.run _

theorem perform_endsBy (agents : Agents σ) (o : Options) {cancelAfter : Option Nat} (w : World σ)
    {c : Nat}
    (h : CancelledAt w.now cancelAfter
      (transcript agents w.agents (perform agents o cancelAfter w).calls) c) :
    (perform agents o cancelAfter w).world.EndsBy c := by
  rw [perform_eq] at h ⊢
  cases h with
  | @arranged n after =>
    subst after
    have harmed := w.armed_endsBy o n
    split
    · exact harmed
    · exact harmed.run _
  | @during x mem cancels =>
    by_cases hnone : cancelAfter = some 0
    · rw [if_pos hnone] at mem
      simp [transcript] at mem
    · rw [if_neg hnone] at mem ⊢
      exact run_cancels (w := w.armed o cancelAfter) rfl _ mem cancels

theorem perform_ends {o : Options} (hinitial : 0 < o.backoff.initial.nanos)
    (hcap : 0 < o.backoff.cap.nanos) (agents : Agents σ) (cancelAfter : Option Nat) (w : World σ) :
    (perform agents o cancelAfter w).ending ≠ .endless := by
  rw [perform_eq]
  split
  · simp
  · exact ends_handshake hinitial hcap agents _ _ _

/-- Only the deadline makes a run report that it is out of time. -/
theorem timedOut_of_result {agents : Agents σ} {o : Options} {cancelAfter : Option Nat}
    {w : World σ} {l : Span} {m : Milestone}
    (h : (perform agents o cancelAfter w).result o.limit = some (.error (.outOfTime l m))) :
    (perform agents o cancelAfter w).ending = .interrupted .timedOut := by
  rcases perform_cases agents o cancelAfter w with
    ⟨-, -, hending, -⟩ | ⟨-, answered, pending, g, ha⟩
  · rw [Run.result, hending] at h
    cases h
  · exact (ha.outOfTime_iff.mp h).1

/-- The invitee takes its time over the invitation, and meanwhile the handshake is called off. -/
def abruptWorld : World Agent.Script :=
  { quietWorld with
    agents := { quietScript with
      created := .always ⟨.ok ⟨⟨"inv-1"⟩, ⟨"{}"⟩⟩, 3, false⟩
      received := .always ⟨.ok ⟨"agt-2"⟩, 7, true⟩ } }

def fortyYears : Span := .ofSeconds 1261440000

/-- Each agent takes twenty years over its answer. -/
def slowWorld : World Agent.Script :=
  { quietWorld with
    agents := { quietScript with
      created := .always ⟨.ok ⟨⟨"inv-1"⟩, ⟨"{}"⟩⟩, 630720000000, false⟩
      received := .always ⟨.ok ⟨"agt-2"⟩, 630720000000, false⟩ } }

def slowRun : Run Agent.Script Outcome :=
  perform (Agent.Script.agents fun _ => "") { Options.standard with limit := fortyYears } none
    slowWorld

end Rendezvous.Handshake
