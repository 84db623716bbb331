import Rendezvous.Proofs.Handshake.Performing

/-! Performances that nobody watches. Nothing cuts them short, so they come to what a watched one
comes to that is not interrupted. -/

namespace Rendezvous.Handshake

open Procedure

variable {σ α : Type} {agents : Agents σ} {w : World σ}

namespace World

def unwatched (w : World σ) : World σ := { w with watch := none }

theorem wait_of_unwatched (h : w.watch = none) (n : Nat) :
    w.wait n = (none, { w with now := w.now + n }) := by
  have hw := w.waits n
  generalize w.wait n = r at hw ⊢
  cases hw with
  | whole quiet => rfl
  | cut g i t watched interrupts =>
    rw [h] at watched
    cases watched

/-- The world behind a call that is not cut short. -/
def answered (agents : Agents σ) (w : World σ) (c : Agent.Call) : World σ :=
  { w with
    now := w.now + (agents.ask c w.agents).1.latency
    agents := (agents.ask c w.agents).2 }

theorem called_of_unwatched (agents : Agents σ) (h : w.watch = none) (c : Agent.Call) :
    w.called agents c = (none, w.answered agents c) := by
  have hwatch : (w.ask agents c).2.watch = none := by simp [ask_watch, h]
  have hput : (w.ask agents c).2 = { w with agents := (agents.ask c w.agents).2 } := by
    have hkept : (w.ask agents c).2 =
        { w with agents := (agents.ask c w.agents).2, watch := (w.ask agents c).2.watch } := rfl
    rw [hkept, hwatch, h]
  rw [called, wait_of_unwatched hwatch, hput, answered]

theorem unwatched_of_called {w' : World σ} {c : Agent.Call}
    (called : w.called agents c = (none, w')) :
    w'.unwatched = w.unwatched.answered agents c := by
  have hw := (w.ask agents c).2.waits (agents.ask c w.agents).1.latency
  rw [World.called] at called
  rw [called] at hw
  cases hw with
  | whole quiet => rfl

end World

theorem performStep_eq (agents : Agents σ) (p : Procedure α) (w : World σ) :
    performStep agents p w = p.run agents w.unwatched := rfl

theorem run_pause_of_unwatched (agents : Agents σ) (h : w.watch = none) (d : Span)
    (k : Procedure α) :
    (pause d k).run agents w = k.run agents { w with now := w.now + ticksOf d } := by
  simp only [run, World.wait_of_unwatched h]

/-- Left alone, a performance goes on where it would be cut short, and else comes to the same. -/
theorem run_unwatched_cases (p : Procedure α) (w : World σ) :
    (∃ i, (p.run agents w).ending = .interrupted i ∧
      (p.run agents w).calls <+: (p.run agents w.unwatched).calls) ∨
    p.run agents w.unwatched = ⟨(p.run agents w).calls, (p.run agents w).ending,
      (p.run agents w).world.unwatched⟩ := by
  induction p generalizing w with
  | done a => exact .inr rfl
  | fail f => exact .inr rfl
  | stall => exact .inr rfl
  | now k ih => exact ih w.moment w
  | reach m k ih =>
    have hstamp : w.unwatched.stamp = w.stamp := rfl
    simp only [run]
    rw [hstamp, show w.unwatched.progress = w.progress from rfl]
    cases w.progress.advance m w.stamp with
    | ok p => exact ih p { w with progress := p }
    | error f => exact .inr rfl
  | pause d k ih =>
    have hquiet : (pause d k).run agents w.unwatched =
        k.run agents { w with now := w.now + ticksOf d }.unwatched :=
      run_pause_of_unwatched agents rfl d k
    rcases run_pause agents w d k with ⟨i, t, -, -, hr⟩ | hr
    · rw [hr]
      exact .inl ⟨i, rfl, List.nil_prefix⟩
    · rw [hquiet, hr]
      exact ih { w with now := w.now + ticksOf d }
  | ask c k ih =>
    have hcalled := World.called_of_unwatched agents (w := w.unwatched) rfl c
    have hr := run_ask agents w c k
    generalize (ask c k).run agents w = r at hr ⊢
    cases hr with
    | cut i w' called =>
      exact .inl ⟨i, rfl, run_ask_calls agents w.unwatched c k⟩
    | failed f w' called error =>
      rw [run_ask_failed k hcalled error, World.unwatched_of_called called]
      exact .inr rfl
    | answered a w' called ok =>
      rw [run_ask_answered k hcalled ok, ← World.unwatched_of_called called]
      rcases ih a w' with ⟨i, hending, hprefix⟩ | heq
      · exact .inl ⟨i, hending, List.cons_prefix_cons.mpr ⟨rfl, hprefix⟩⟩
      · exact .inr (by rw [heq]; rfl)

theorem run_unwatched (p : Procedure α) (w : World σ)
    (h : ∀ i, (p.run agents w).ending ≠ .interrupted i) :
    p.run agents w.unwatched = ⟨(p.run agents w).calls, (p.run agents w).ending,
      (p.run agents w).world.unwatched⟩ := by
  rcases run_unwatched_cases p w with ⟨i, hending, -⟩ | heq
  · exact absurd hending (h i)
  · exact heq

theorem calls_prefix_unwatched (p : Procedure α) (w : World σ) :
    (p.run agents w).calls <+: (p.run agents w.unwatched).calls := by
  rcases run_unwatched_cases p w with ⟨-, -, hprefix⟩ | heq
  · exact hprefix
  · have hcalls : (p.run agents w.unwatched).calls = (p.run agents w).calls := by rw [heq]
    exact hcalls ▸ List.prefix_rfl

end Rendezvous.Handshake
