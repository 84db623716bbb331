import Rendezvous.Proofs.Handshake.Trees
import Rendezvous.Proofs.Handshake.Performing

/-! The waits between two looks and the looks that a budget leaves room for. With waits that take
time a handshake does not go on for ever. -/

namespace Rendezvous.Handshake

open Procedure

variable {σ α : Type} {agents : Agents σ} {w : World σ}

theorem ticksOf_eq_zero_iff {d : Span} : ticksOf d = 0 ↔ d.nanos = 0 := by
  unfold ticksOf Span.millisUp longestWait
  omega

theorem ticksOf_le_ticksOf {d e : Span} (h : d.nanos ≤ e.nanos) : ticksOf d ≤ ticksOf e := by
  unfold ticksOf Span.millisUp
  omega

namespace Backoff

variable {b : Backoff} {attempt : Nat} {waited d : Span}

theorem growth_pos (factor : UInt32) (attempt : Nat) : 0 < growth factor attempt := by
  rw [growth_eq]
  have hpow : 0 < (max factor.toNat 1).pow attempt := Nat.pow_pos (by omega)
  have hsize : 0 < UInt32.size - 1 := by decide
  omega

theorem nanos_delay_eq_zero_iff (b : Backoff) (attempt : Nat) : (b.delay attempt).nanos = 0 ↔
    b.initial.nanos = 0 ∨ b.cap.nanos = 0 := by
  have hgrowth := growth_pos b.factor attempt
  rw [nanos_delay]
  constructor
  · intro h
    by_cases hcap : b.cap.nanos = 0
    · exact .inr hcap
    · have hmul : b.initial.nanos * growth b.factor attempt = 0 := by omega
      rcases Nat.mul_eq_zero.mp hmul with hi | hg
      · exact .inl hi
      · omega
  · rintro (h | h)
    · rw [h, Nat.zero_mul]
      omega
    · omega

/-- A further look is due while the budget lasts. -/
theorem next?_eq_some (attempt : Nat) (h : waited.nanos < b.budget.nanos) :
    ∃ d, b.next? attempt waited = some d ∧
      (d.nanos = 0 ↔ b.initial.nanos = 0 ∨ b.cap.nanos = 0) := by
  unfold next? Span.remaining?
  rw [if_pos h]
  refine ⟨_, rfl, ?_⟩
  rw [← nanos_delay_eq_zero_iff b attempt, Span.nanos_shorter]
  dsimp only
  omega

theorem lt_of_next? (h : b.next? attempt waited = some d) : waited.nanos < b.budget.nanos := by
  apply Nat.lt_of_not_le
  intro hle
  rw [next?_eq_none_iff.mpr hle] at h
  cases h

theorem nanos_next?_eq_zero_iff (h : b.next? attempt waited = some d) :
    d.nanos = 0 ↔ b.initial.nanos = 0 ∨ b.cap.nanos = 0 := by
  obtain ⟨d', hd', hzero⟩ := next?_eq_some attempt (lt_of_next? h)
  rw [h] at hd'
  cases hd'
  exact hzero

/-- While the budget lasts, the clock has gone on by fewer milliseconds than cover it. -/
theorem tick_lt_of_next? {since m : Moment} (h : b.next? attempt (elapsed since m) = some d) :
    m.tick < since.tick + b.budget.millisUp := by
  have hlt := lt_of_next? h
  have hbounded := b.budget.bounded
  unfold elapsed at hlt
  rw [Span.nanos_saturate] at hlt
  unfold Span.millisUp
  omega

end Backoff

theorem looksWithin_eq (b : Backoff) (stock : Nat) :
    looksWithin b stock = b.budget.millisUp + stock + 1 := by
  unfold looksWithin
  omega

def Ends (agents : Agents σ) (w : World σ) (p : Procedure α) : Prop :=
  (p.run agents w).ending ≠ .endless

namespace Ends

theorem ask {c : Agent.Call} {k : c.Answer → Procedure α}
    (hk : ∀ a w', w.now ≤ w'.now → Ends agents w' (k a)) : Ends agents w (.ask c k) := by
  have hr := run_ask agents w c k
  unfold Ends
  generalize (Procedure.ask c k).run agents w = r at hr ⊢
  cases hr with
  | cut i w' called => simp
  | failed f w' called error => simp
  | answered a w' called ok => exact hk a w' (World.after_of_called called).now_le

theorem reach {m : Milestone} {k : Progress → Procedure α}
    (hk : ∀ p : Progress, Ends agents { w with progress := p } (k p)) :
    Ends agents w (.reach m k) := by
  unfold Ends
  simp only [run]
  split
  · exact hk _
  · simp

theorem now {k : Moment → Procedure α} (hk : Ends agents w (k w.moment)) :
    Ends agents w (.now k) := hk

theorem pause {d : Span} {k : Procedure α}
    (hk : Ends agents { w with now := w.now + ticksOf d } k) : Ends agents w (.pause d k) := by
  rcases run_pause agents w d k with ⟨i, t, -, -, hr⟩ | hr
  · rw [Ends, hr]
    simp
  · rw [Ends, hr]
    exact hk

end Ends

section Look

variable {o : Options} {endpoint : String} {c : Correlation} {since : Moment}
  {rest : Sighting → Procedure α}

/-- A look that is followed by another one leaves some of the budget. -/
theorem ends_look_succ (hrest : ∀ seen w, Ends agents w (rest seen)) {looks : Nat} {polls : UInt32}
    (hmore : ∀ (w' : World σ) d, w.now ≤ w'.now →
      o.backoff.next? polls.toNat (elapsed since w'.moment) = some d →
      Ends agents { w' with now := w'.now + ticksOf d }
        ((look o endpoint c since looks (polls + 1)).bind rest)) :
    Ends agents w ((look o endpoint c since (looks + 1) polls).bind rest) := by
  rw [bind_look_succ]
  apply Ends.ask
  intro listed w' hnow
  split
  · exact hrest _ _
  · apply Ends.now
    split
    · simp [Ends, run]
    · rename_i d hd
      exact .pause (hmore w' d hnow hd)

/-- Looks between which time passes use up the budget. -/
theorem ends_look (hinitial : 0 < o.backoff.initial.nanos) (hcap : 0 < o.backoff.cap.nanos)
    (hrest : ∀ seen w, Ends agents w (rest seen)) (looks : Nat) (polls : UInt32) (w : World σ)
    (henough : since.tick + o.backoff.budget.millisUp ≤ w.now + looks) :
    Ends agents w ((look o endpoint c since (looks + 1) polls).bind rest) := by
  induction looks generalizing polls w with
  | zero =>
    apply ends_look_succ hrest
    intro w' d hnow hd
    have hlt : w'.now < since.tick + o.backoff.budget.millisUp := Backoff.tick_lt_of_next? hd
    omega
  | succ looks ih =>
    apply ends_look_succ hrest
    intro w' d hnow hd
    apply ih (polls + 1)
    have hpositive : ticksOf d ≠ 0 := by
      rw [Ne, ticksOf_eq_zero_iff, Backoff.nanos_next?_eq_zero_iff hd]
      omega
    dsimp only
    omega

end Look

theorem ends_acceptSeen (agents : Agents σ) (invitee : ConnectionId .invitee) (seen : Sighting)
    (w : World σ) : Ends agents w (acceptSeen invitee seen) := by
  apply Ends.reach
  intro _
  apply Ends.ask
  intro _ w' _
  apply Ends.reach
  intro p
  apply Ends.now
  simp [Ends, run]

/-- A handshake whose waits take time does not go on for ever. -/
theorem ends_handshake {o : Options} (hinitial : 0 < o.backoff.initial.nanos)
    (hcap : 0 < o.backoff.cap.nanos) (agents : Agents σ) (endpoint : String) (stock : Nat)
    (w : World σ) : Ends agents w (handshake o endpoint stock) := by
  rw [handshake_eq, looksWithin_eq]
  apply Ends.ask
  intro created w₁ _
  apply Ends.reach
  intro _
  apply Ends.ask
  intro invitee w₂ _
  apply Ends.reach
  intro _
  apply Ends.ask
  intro _ w₃ _
  apply Ends.reach
  intro p
  apply Ends.now
  apply ends_look hinitial hcap (ends_acceptSeen agents invitee)
  simp only [World.moment]
  omega

end Rendezvous.Handshake
