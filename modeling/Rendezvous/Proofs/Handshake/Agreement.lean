import Rendezvous.Proofs.Handshake.Performing

/-! Two performances side by side, each with its own agents. What is asked and waited for on both
sides alike keeps them in step. -/

namespace Rendezvous.Handshake

open Procedure

variable {σ τ α : Type} {A : Agents σ} {B : Agents τ} {w : World σ} {v : World τ}

/-- Two worlds are alike but for their agents. -/
structure World.Alike (w : World σ) (v : World τ) : Prop where
  now : w.now = v.now
  epoch : w.epoch = v.epoch
  progress : w.progress = v.progress
  watch : w.watch = v.watch

/-- Two performances agree in all that can be seen of them. Of one that goes on for ever only the
first calls can be seen, and how many depends on the number of looks that were granted: `even` says
that these are as many on either side. -/
structure Agree (even : Prop) (r : Run σ α) (q : Run τ α) : Prop where
  ending : r.ending = q.ending
  time : r.world.now = q.world.now
  progress : r.world.progress = q.world.progress
  calls : even ∨ r.ending ≠ .endless → r.calls = q.calls

namespace World.Alike

theorem symm (h : w.Alike v) : v.Alike w :=
  ⟨h.now.symm, h.epoch.symm, h.progress.symm, h.watch.symm⟩

theorem stamp (h : w.Alike v) : w.stamp = v.stamp := by
  unfold World.stamp
  rw [h.now, h.epoch]

theorem moment (h : w.Alike v) : w.moment = v.moment := by
  unfold World.moment
  rw [h.now, h.stamp]

theorem goOn (h : w.Alike v) (n : Nat) :
    World.Alike { w with now := w.now + n } { v with now := v.now + n } := by
  obtain ⟨hnow, hepoch, hprogress, hwatch⟩ := h
  exact ⟨by dsimp only; rw [hnow], hepoch, hprogress, hwatch⟩

/-- What cuts a wait short on one side does so on the other. -/
theorem wait (h : w.Alike v) (n : Nat) :
    (∃ i w' v', w.wait n = (some i, w') ∧ v.wait n = (some i, v') ∧ w'.Alike v') ∨
      (w.wait n = (none, { w with now := w.now + n }) ∧
        v.wait n = (none, { v with now := v.now + n })) := by
  obtain ⟨now, epoch, s, progress, watch⟩ := w
  obtain ⟨_, _, t, _, _⟩ := v
  obtain ⟨rfl, rfl, rfl, rfl⟩ := h
  simp only [World.wait]
  by_cases hn : n = 0
  · subst hn
    exact .inr ⟨rfl, rfl⟩
  · rw [if_neg hn, if_neg hn]
    cases watch.bind fun g => g.interrupts now (now + n) with
    | none => exact .inr ⟨rfl, rfl⟩
    | some it => exact .inl ⟨it.1, _, _, rfl, rfl, rfl, rfl, rfl, rfl⟩

theorem ask (h : w.Alike v) {c : Agent.Call}
    (hcancels : (A.ask c w.agents).1.cancels = (B.ask c v.agents).1.cancels) :
    (w.ask A c).2.Alike (v.ask B c).2 := by
  obtain ⟨hnow, hepoch, hprogress, hwatch⟩ := h
  refine ⟨hnow, hepoch, hprogress, ?_⟩
  simp only [World.ask, hcancels, hwatch, hnow]

theorem called (h : w.Alike v) {c : Agent.Call}
    (hlatency : (A.ask c w.agents).1.latency = (B.ask c v.agents).1.latency)
    (hcancels : (A.ask c w.agents).1.cancels = (B.ask c v.agents).1.cancels) :
    ∃ i w' v', w.called A c = (i, w') ∧ v.called B c = (i, v') ∧ w'.Alike v' := by
  have hput := h.ask hcancels
  unfold World.called
  rw [hlatency]
  rcases hput.wait (B.ask c v.agents).1.latency with ⟨i, w', v', hw, hv, halike⟩ | ⟨hw, hv⟩
  · exact ⟨some i, w', v', hw, hv, halike⟩
  · exact ⟨none, _, _, hw, hv, hput.goOn _⟩

end World.Alike

namespace Agree

variable {even : Prop}

theorem cons {r : Run σ α} {q : Run τ α} (h : Agree even r q) (e : Logged) :
    Agree even ⟨e :: r.calls, r.ending, r.world⟩ ⟨e :: q.calls, q.ending, q.world⟩ := by
  refine ⟨h.ending, h.time, h.progress, fun hcalls => ?_⟩
  rw [h.calls hcalls]

/-- Performances that end at once and in the same way. -/
theorem of_ending {calls : List Logged} {e : Ending α} (h : w.Alike v) :
    Agree even ⟨calls, e, w⟩ ⟨calls, e, v⟩ :=
  ⟨rfl, h.now, h.progress, fun _ => rfl⟩

theorem now {k l : Moment → Procedure α} (h : w.Alike v)
    (hk : Agree even ((k w.moment).run A w) ((l w.moment).run B v)) :
    Agree even ((Procedure.now k).run A w) ((Procedure.now l).run B v) := by
  simp only [run]
  rw [← h.moment]
  exact hk

theorem reach {m : Milestone} {k l : Progress → Procedure α} (h : w.Alike v)
    (hk : ∀ p, World.Alike { w with progress := p } { v with progress := p } →
      Agree even ((k p).run A { w with progress := p })
        ((l p).run B { v with progress := p })) :
    Agree even ((Procedure.reach m k).run A w) ((Procedure.reach m l).run B v) := by
  simp only [run]
  rw [← h.progress, ← h.stamp]
  cases w.progress.advance m w.stamp with
  | error f => exact of_ending h
  | ok p => exact hk p ⟨h.now, h.epoch, rfl, h.watch⟩

theorem pause {d : Span} {p q : Procedure α} (h : w.Alike v)
    (hk : Agree even (p.run A { w with now := w.now + ticksOf d })
      (q.run B { v with now := v.now + ticksOf d })) :
    Agree even ((Procedure.pause d p).run A w) ((Procedure.pause d q).run B v) := by
  simp only [run]
  rcases h.wait (ticksOf d) with ⟨i, w', v', hw, hv, halike⟩ | ⟨hw, hv⟩
  · rw [hw, hv]
    exact of_ending halike
  · rw [hw, hv]
    exact hk

theorem ask {c : Agent.Call} {k l : c.Answer → Procedure α} (h : w.Alike v)
    (hlatency : (A.ask c w.agents).1.latency = (B.ask c v.agents).1.latency)
    (hcancels : (A.ask c w.agents).1.cancels = (B.ask c v.agents).1.cancels)
    (herror : ∀ f, (A.ask c w.agents).1.answer = .error f → (B.ask c v.agents).1.answer = .error f)
    (hok : ∀ a, (A.ask c w.agents).1.answer = .ok a → ∃ b, (B.ask c v.agents).1.answer = .ok b ∧
      ∀ w' v', w.called A c = (none, w') → v.called B c = (none, v') → w'.Alike v' →
        Agree even ((k a).run A w') ((l b).run B v')) :
    Agree even ((Procedure.ask c k).run A w) ((Procedure.ask c l).run B v) := by
  obtain ⟨i, w', v', hw, hv, halike⟩ := h.called hlatency hcancels
  cases i with
  | some i =>
    rw [run_ask_cut k hw, run_ask_cut l hv, h.now]
    exact of_ending halike
  | none =>
    cases ha : (A.ask c w.agents).1.answer with
    | error f =>
      rw [run_ask_failed k hw ha, run_ask_failed l hv (herror f ha), h.now]
      exact of_ending halike
    | ok a =>
      obtain ⟨b, hb, hgo⟩ := hok a ha
      rw [run_ask_answered k hw ha, run_ask_answered l hv hb, h.now]
      exact (hgo w' v' hw hv halike).cons _

/-- A call to which both sides have the same reply. -/
theorem ask_eq {c : Agent.Call} {k l : c.Answer → Procedure α} (h : w.Alike v)
    (hreply : (A.ask c w.agents).1 = (B.ask c v.agents).1)
    (hk : ∀ a w' v', (A.ask c w.agents).1.answer = .ok a → w.called A c = (none, w') →
      v.called B c = (none, v') → w'.Alike v' → Agree even ((k a).run A w') ((l a).run B v')) :
    Agree even ((Procedure.ask c k).run A w) ((Procedure.ask c l).run B v) :=
  .ask h (by rw [hreply]) (by rw [hreply]) (fun f hf => by rw [← hreply, hf])
    fun a ha => ⟨a, by rw [← hreply, ha], fun w' v' => hk a w' v' ha⟩

end Agree

/-- Agents that reply alike whatever they are asked, as long as `R` holds of what their answers
depend on, which it goes on doing. -/
structure ReplyAlike (R : σ → τ → Prop) (A : Agents σ) (B : Agents τ) : Prop where
  endpoint : A.endpoint .inviter = B.endpoint .inviter
  stock : ∀ s t, R s t → A.stock s = B.stock t
  reply : ∀ c s t, R s t → (A.ask c s).1 = (B.ask c t).1
  rest : ∀ c s t, R s t → R (A.ask c s).2 (B.ask c t).2

namespace ReplyAlike

variable {R : σ → τ → Prop}

theorem run (h : ReplyAlike R A B) (p : Procedure α) (halike : w.Alike v)
    (hagents : R w.agents v.agents) : Agree True (p.run A w) (p.run B v) := by
  induction p generalizing w v with
  | done a => exact .of_ending halike
  | fail f => exact .of_ending halike
  | stall => exact .of_ending halike
  | now k ih => exact .now halike (halike.moment ▸ ih w.moment halike hagents)
  | reach m k ih => exact .reach halike fun p hp => ih p hp hagents
  | pause d k ih => exact .pause halike (ih (halike.goOn _) hagents)
  | ask c k ih =>
    refine .ask_eq halike (h.reply c _ _ hagents) fun a w' v' _ hw hv halike' => ?_
    refine ih a halike' ?_
    rw [(World.after_of_called hw).agents, (World.after_of_called hv).agents]
    exact h.rest c _ _ hagents

theorem perform (h : ReplyAlike R A B) (o : Options) (cancelAfter : Option Nat)
    (halike : w.Alike v) (hagents : R w.agents v.agents) :
    Agree True (Handshake.perform A o cancelAfter w) (Handshake.perform B o cancelAfter v) := by
  have harmed : (w.armed o cancelAfter).Alike (v.armed o cancelAfter) :=
    ⟨halike.now, halike.epoch, congrArg Progress.begin halike.stamp,
      by simp only [World.armed, halike.now]⟩
  rw [perform_eq, perform_eq, h.endpoint, h.stock _ _ hagents]
  split
  · exact .of_ending harmed
  · exact h.run _ harmed hagents

end ReplyAlike

end Rendezvous.Handshake
