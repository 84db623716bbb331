import Rendezvous.Proofs.Handshake.Trees
import Rendezvous.Proofs.Handshake.Protocol

/-! Every performance of a handshake keeps to the protocol: its exchanges reach a stage, at most one
more call is open there, and how it ends is settled by both. -/

namespace Rendezvous.Handshake

open Procedure

variable {σ : Type}

/-- The ways to end at a stage at time `now`, with the calls that are open. -/
inductive Closing (o : Options) : Stage → List Exchange → Nat → Ending Outcome → Prop
  | done {own invitee polls inviter now out} (inviter_eq : out.inviter = inviter)
      (invitee_eq : out.invitee = invitee) (polls_eq : out.polls = .ofNat polls)
      (final : out.final = .finalized) :
      Closing o (.completed own invitee polls inviter) [] now (.done out)
  | refused {g x now f} (call : g.call? o = some x.call) (due : x.due ≤ now)
      (error : x.reply.answer = .error f) :
      Closing o g [x] now (.failed (.ofFault x.step f))
  | unseen {own invitee polls now endpoint waited} :
      Closing o (.accepted own invitee (polls + 1)) [] now
        (.failed (.noRequest endpoint o.targetState (.ofNat (polls + 1)) waited))
  | cut {g x now i} (call : g.call? o = some x.call) (early : now < x.due) :
      Closing o g [x] now (.interrupted i)
  | paused {own invitee polls now i} :
      Closing o (.accepted own invitee (polls + 1)) [] now (.interrupted i)
  | endless {own invitee polls now} :
      Closing o (.accepted own invitee polls) [] now .endless

/-- What the calls of `r` tell after the exchanges `before`: the answered ones lead to `g`, and with
the open ones the performance ends there. -/
structure Account (o : Options) (agents : Agents σ) (before : List Exchange) (s : σ)
    (r : Run σ Outcome) (answered pending : List Exchange) (g : Stage) : Prop where
  exchanges : transcript agents s r.calls = answered ++ pending
  reached : Reached o (before ++ answered) g
  due : ∀ x ∈ answered, x.due ≤ r.world.now
  milestone : r.world.progress.milestone = g.milestone
  closing : Closing o g pending r.world.now r.ending

/-- A procedure keeps to the protocol after the exchanges `before`. -/
def Adheres (o : Options) (agents : Agents σ) (before : List Exchange) (w : World σ)
    (p : Procedure Outcome) : Prop :=
  ∃ answered pending g, Account o agents before w.agents (p.run agents w) answered pending g

/-- A handshake that is not interrupted does not report that it was. -/
theorem Closing.not_interruption {o : Options} {g : Stage} {pending : List Exchange} {now : Nat}
    {f : Failure} (h : Closing o g pending now (.failed f)) :
    (∀ l m, f ≠ .outOfTime l m) ∧ ∀ m, f ≠ .cancelled m := by
  cases h with
  | @refused _ x _ fault _ _ _ => cases fault <;> simp [Failure.ofFault]
  | unseen => simp

section Account

variable {o : Options} {agents : Agents σ} {s : σ} {r : Run σ Outcome}
  {before answered pending : List Exchange} {g : Stage}

theorem Account.outOfTime_iff (h : Account o agents before s r answered pending g) {limit l : Span}
    {m : Milestone} : r.result limit = some (.error (.outOfTime l m)) ↔
      r.ending = .interrupted .timedOut ∧ l = limit ∧ m = g.milestone := by
  rw [Run.result_eq_error_iff, h.milestone]
  constructor
  · rintro (hf | ⟨hi, hf⟩ | ⟨-, hf⟩)
    · have hclosing := h.closing
      rw [hf] at hclosing
      exact absurd rfl (hclosing.not_interruption.1 l m)
    · cases hf
      exact ⟨hi, rfl, rfl⟩
    · cases hf
  · rintro ⟨hi, rfl, rfl⟩
    exact .inr (.inl ⟨hi, rfl⟩)

theorem Account.cancelled_iff (h : Account o agents before s r answered pending g) {limit : Span}
    {m : Milestone} : r.result limit = some (.error (.cancelled m)) ↔
      r.ending = .interrupted .cancelled ∧ m = g.milestone := by
  rw [Run.result_eq_error_iff, h.milestone]
  constructor
  · rintro (hf | ⟨-, hf⟩ | ⟨hi, hf⟩)
    · have hclosing := h.closing
      rw [hf] at hclosing
      exact absurd rfl (hclosing.not_interruption.2 m)
    · cases hf
    · cases hf
      exact ⟨hi, rfl⟩
  · rintro ⟨hi, rfl⟩
    exact .inr (.inr ⟨hi, rfl⟩)

end Account

namespace Adheres

variable {o : Options} {agents : Agents σ} {xs : List Exchange} {w : World σ} {g : Stage}

/-- A procedure that makes no further call. -/
theorem of_silent {p : Procedure Outcome} (hr : Reached o xs g)
    (hcalls : (p.run agents w).calls = [])
    (hm : (p.run agents w).world.progress.milestone = g.milestone)
    (hc : Closing o g [] (p.run agents w).world.now (p.run agents w).ending) :
    Adheres o agents xs w p := by
  refine ⟨[], [], g, ?_, by simpa using hr, by simp, hm, hc⟩
  rw [hcalls]
  rfl

theorem ask {c : Agent.Call} {k : c.Answer → Procedure Outcome} (hr : Reached o xs g)
    (hm : w.progress.milestone = g.milestone) (hc : g.call? o = some c)
    (hk : ∀ x a w', x.Brings c a → w'.progress.milestone = g.milestone →
      Adheres o agents (xs ++ [x]) w' (k a)) :
    Adheres o agents xs w (.ask c k) := by
  have h := run_ask agents w c k
  unfold Adheres
  generalize (Procedure.ask c k).run agents w = r at h ⊢
  cases h with
  | cut i w' called =>
    have after := World.after_of_called called
    refine ⟨[], [⟨w.now, c, (agents.ask c w.agents).1⟩], g, rfl, by simpa using hr, by simp, ?_, ?_⟩
    · rw [after.progress, hm]
    · exact .cut hc ((World.after_of_called called).early i rfl)
  | failed f w' called error =>
    have after := World.after_of_called called
    have late := after.late rfl
    refine ⟨[], [⟨w.now, c, (agents.ask c w.agents).1⟩], g, rfl, by simpa using hr, by simp, ?_, ?_⟩
    · rw [after.progress, hm]
    · exact .refused hc (Nat.le_of_eq late.symm) error
  | answered a w' called ok =>
    have after := World.after_of_called called
    have late := after.late rfl
    have hx : Exchange.Brings ⟨w.now, c, (agents.ask c w.agents).1⟩ c a := Exchange.brings_mk ok
    obtain ⟨answered, pending, g', ha⟩ := hk _ a w' hx (by rw [after.progress, hm])
    refine ⟨⟨w.now, c, (agents.ask c w.agents).1⟩ :: answered, pending, g', ?_, ?_, ?_, ?_, ?_⟩
    · simp only [transcript, List.cons_append, ← after.agents, ha.exchanges]
    · simpa using ha.reached
    · intro x hx
      rcases List.mem_cons.mp hx with rfl | hx
      · exact Nat.le_trans (Nat.le_of_eq late.symm) (now_le_run agents (k a) w')
      · exact ha.due x hx
    · exact ha.milestone
    · exact ha.closing

theorem reach {m : Milestone} {k : Progress → Procedure Outcome}
    (h : w.progress.milestone.next? = some m)
    (hk : ∀ p : Progress, p.milestone = m →
      Adheres o agents xs { w with progress := p } (k p)) :
    Adheres o agents xs w (.reach m k) := by
  obtain ⟨p, hp, hrun⟩ := run_reach agents k h
  obtain ⟨answered, pending, g', ha⟩ := hk p hp
  exact ⟨answered, pending, g', by rw [hrun]; exact ha⟩

theorem now {k : Moment → Procedure Outcome} (hk : ∀ m, Adheres o agents xs w (k m)) :
    Adheres o agents xs w (.now k) := hk w.moment

theorem pause {own : Agent.Created} {invitee : ConnectionId .invitee} {polls : Nat} {d : Span}
    {k : Procedure Outcome} (hr : Reached o xs (.accepted own invitee (polls + 1)))
    (hm : w.progress.milestone = .inviteeAccepted)
    (hk : ∀ w' : World σ, w'.progress.milestone = .inviteeAccepted → Adheres o agents xs w' k) :
    Adheres o agents xs w (.pause d k) := by
  rcases run_pause agents w d k with ⟨i, t, -, -, hrun⟩ | hrun
  · exact of_silent hr (by rw [hrun]) (by rw [hrun]; exact hm) (by rw [hrun]; exact .paused)
  · obtain ⟨answered, pending, g', ha⟩ := hk { w with now := w.now + ticksOf d } hm
    exact ⟨answered, pending, g', by rw [hrun]; exact ha⟩

end Adheres

/-- The search for the request keeps to the protocol, however often it looks. -/
theorem adheres_look {o : Options} {agents : Agents σ} {own : Agent.Created}
    {invitee : ConnectionId .invitee} {endpoint : String} {since : Moment}
    {rest : Sighting → Procedure Outcome}
    (hrest : ∀ xs polls inviter, ∀ w : World σ,
      Reached o xs (.observed own invitee polls inviter) →
        w.progress.milestone = .inviteeAccepted →
          Adheres o agents xs w (rest ⟨inviter, .ofNat polls⟩))
    (looks polls : Nat) (xs : List Exchange) (w : World σ)
    (hr : Reached o xs (.accepted own invitee polls))
    (hm : w.progress.milestone = .inviteeAccepted) :
    Adheres o agents xs w
      ((look o endpoint ⟨own.connection, o.aliasName⟩ since looks (.ofNat polls)).bind rest) := by
  induction looks generalizing polls xs w with
  | zero => exact .of_silent hr rfl hm .endless
  | succ looks ih =>
    rw [bind_look_succ, ← UInt32.ofNat_one, ← UInt32.ofNat_add]
    apply Adheres.ask hr hm rfl
    intro x listed w₁ hx hm₁
    cases hpick : o.pick own.connection listed with
    | some record =>
      simp only [Options.pick] at hpick
      simp only [hpick]
      exact hrest _ _ _ _ (.observed hr hx hpick) hm₁
    | none =>
      have hnext := Reached.unmatched hr hx hpick
      simp only [Options.pick] at hpick
      simp only [hpick]
      apply Adheres.now
      intro since'
      split
      · exact .of_silent hnext rfl hm₁ .unseen
      · apply Adheres.pause hnext hm₁
        intro w₂ hm₂
        exact ih _ _ _ hnext hm₂

theorem adheres_acceptSeen {o : Options} {agents : Agents σ} {own : Agent.Created}
    {invitee : ConnectionId .invitee} (xs : List Exchange) (polls : Nat)
    (inviter : ConnectionId .inviter) (w : World σ)
    (hr : Reached o xs (.observed own invitee polls inviter))
    (hm : w.progress.milestone = .inviteeAccepted) :
    Adheres o agents xs w (acceptSeen invitee ⟨inviter, .ofNat polls⟩) := by
  apply Adheres.reach (by rw [hm]; rfl)
  intro p hp
  apply Adheres.ask hr hp rfl
  intro x _ w₁ hx hm₁
  apply Adheres.reach (by rw [hm₁]; rfl)
  intro p hp
  exact .of_silent (.completed hr hx) rfl hp (.done rfl rfl rfl hp)

theorem adheres_handshake (o : Options) (agents : Agents σ) (endpoint : String) (stock : Nat)
    (w : World σ) (hm : w.progress.milestone = .start) :
    Adheres o agents [] w (handshake o endpoint stock) := by
  rw [handshake_eq]
  apply Adheres.ask .begun hm rfl
  intro x own w₁ hx hm₁
  have h₁ := Reached.created hx
  apply Adheres.reach (by rw [hm₁]; rfl)
  intro p hp
  apply Adheres.ask h₁ hp rfl
  intro x invitee w₂ hx hm₂
  have h₂ := Reached.received h₁ hx
  apply Adheres.reach (by rw [hm₂]; rfl)
  intro p hp
  apply Adheres.ask h₂ hp rfl
  intro x _ w₃ hx hm₃
  have h₃ := Reached.accepted h₂ hx
  apply Adheres.reach (by rw [hm₃]; rfl)
  intro p hp
  apply Adheres.now
  intro since
  exact adheres_look adheres_acceptSeen _ 0 _ _ h₃ hp

/-- A run that is called off beforehand, or one that keeps to the protocol. -/
theorem perform_cases (agents : Agents σ) (o : Options) (cancelAfter : Option Nat) (w : World σ) :
    (cancelAfter = some 0 ∧ (perform agents o cancelAfter w).calls = [] ∧
      (perform agents o cancelAfter w).ending = .interrupted .cancelled ∧
      (perform agents o cancelAfter w).world.progress.milestone = .start) ∨
    (cancelAfter ≠ some 0 ∧ ∃ answered pending g,
      Account o agents [] w.agents (perform agents o cancelAfter w) answered pending g) := by
  rw [perform_eq]
  by_cases h : cancelAfter = some 0
  · rw [if_pos h]
    exact .inl ⟨h, rfl, rfl, rfl⟩
  · rw [if_neg h]
    exact .inr ⟨h, adheres_handshake o agents _ _ (w.armed o cancelAfter) rfl⟩

end Rendezvous.Handshake
