import Rendezvous.Proofs.Handshake.Performing
import Rendezvous.Proofs.Handshake.Trees

/-! Whom a failed handshake blames: the agent that the failed step belongs to, by the endpoint that
the handshake was given for it. -/

namespace Rendezvous.Handshake

open Procedure

variable {σ α : Type} {endpoint : Side → String} {f : Failure}

namespace Failure

/-- The endpoint that a failure names. None is named where no agent is at fault. -/
def endpoint? : Failure → Option String
  | unreachable _ e _ | refused _ e _ _ | malformed _ e _ | noRequest e .. => some e
  | outOfTime .. | cancelled .. | badTransition .. => none

/-- The failure of a step names the agent that the step belongs to. -/
def Blames (endpoint : Side → String) (f : Failure) : Prop :=
  ∀ s, f.step? = some s → f.endpoint? = some (endpoint s.side)

theorem blames_of_step?_eq_none (h : f.step? = none) : f.Blames endpoint := by
  intro s hs
  rw [h] at hs
  cases hs

end Failure

theorem side_stepOf (c : Agent.Call) : (stepOf c).side = c.side := by
  cases c <;> rfl

theorem blames_ofFault {c : Agent.Call} {fault : Agent.Fault}
    (h : fault.endpoint = endpoint c.side) :
    (Failure.ofFault (stepOf c) fault).Blames endpoint := by
  intro s hs
  rw [Failure.step?_ofFault] at hs
  obtain rfl := Option.some.inj hs
  rw [side_stepOf, ← h]
  cases fault <;> rfl

/-- Wherever a procedure itself gives up, it blames the right agent. -/
def Procedure.Blames (endpoint : Side → String) : Procedure α → Prop
  | .done _ | .stall => True
  | .fail f => f.Blames endpoint
  | .now k => ∀ m, (k m).Blames endpoint
  | .reach _ k => ∀ p, (k p).Blames endpoint
  | .pause _ k => k.Blames endpoint
  | .ask _ k => ∀ a, (k a).Blames endpoint

/-- If every fault of a call names the agent that was called, every failure blames the right one. -/
theorem blames_run {agents : Agents σ}
    (hagents : ∀ c s fault, (agents.ask c s).1.answer = .error fault →
      fault.endpoint = endpoint c.side)
    {p : Procedure α} (hp : p.Blames endpoint) {w : World σ}
    (h : (p.run agents w).ending = .failed f) : f.Blames endpoint := by
  induction p generalizing w with
  | done a => cases h
  | fail g =>
    cases h
    exact hp
  | stall => cases h
  | now k ih => exact ih w.moment (hp w.moment) h
  | reach m k ih =>
    simp only [run, Progress.advance] at h
    split at h
    · rename_i p hadvance
      exact ih p (hp p) h
    · rename_i g hadvance
      cases h
      split at hadvance
      · cases hadvance
      · cases hadvance
        exact Failure.blames_of_step?_eq_none rfl
  | pause d k ih =>
    rcases run_pause agents w d k with ⟨i, t, -, -, hrun⟩ | hrun
    · rw [hrun] at h
      cases h
    · rw [hrun] at h
      exact ih hp h
  | ask c k ih =>
    have hr := run_ask agents w c k
    generalize (ask c k).run agents w = r at hr h
    cases hr with
    | cut i w' called => cases h
    | failed fault w' called error =>
      cases h
      exact blames_ofFault (hagents c w.agents fault error)
    | answered a w' called ok => exact ih a (hp a) h

theorem blames_acceptSeen (invitee : ConnectionId .invitee) (seen : Sighting) :
    (acceptSeen invitee seen).Blames endpoint :=
  fun _ _ _ _ => trivial

theorem blames_look (o : Options) (c : Correlation) (since : Moment) (looks : Nat)
    (polls : UInt32) {rest : Sighting → Procedure α} (hrest : ∀ seen, (rest seen).Blames endpoint) :
    ((look o (endpoint .inviter) c since looks polls).bind rest).Blames endpoint := by
  induction looks generalizing polls with
  | zero => trivial
  | succ looks ih =>
    rw [bind_look_succ]
    intro listed
    dsimp only
    cases c.select o.matching o.targetState listed with
    | some record => exact hrest _
    | none =>
      intro m
      dsimp only
      cases o.backoff.next? polls.toNat (elapsed since m) with
      | none =>
        rintro s ⟨⟩
        rfl
      | some d => exact ih (polls + 1)

theorem blames_handshake (o : Options) (endpoint : Side → String) (stock : Nat) :
    (handshake o (endpoint .inviter) stock).Blames endpoint := by
  rw [handshake_eq]
  intro created _ invitee _ _ _ since
  exact blames_look o _ since _ 0 (blames_acceptSeen invitee)

/-- A handshake that fails at a step blames the agent that the step belongs to. -/
theorem blames_perform {agents : Agents σ}
    (hagents : ∀ c s fault, (agents.ask c s).1.answer = .error fault →
      fault.endpoint = agents.endpoint c.side)
    {o : Options} {cancelAfter : Option Nat} {w : World σ}
    (h : (perform agents o cancelAfter w).result o.limit = some (.error f)) :
    f.Blames agents.endpoint := by
  rcases Run.result_eq_error_iff.mp h with hfailed | ⟨-, rfl⟩ | ⟨-, rfl⟩
  · rw [perform_eq] at hfailed
    split at hfailed
    · cases hfailed
    · exact blames_run hagents (blames_handshake o agents.endpoint _) hfailed
  · exact Failure.blames_of_step?_eq_none rfl
  · exact Failure.blames_of_step?_eq_none rfl

end Rendezvous.Handshake
