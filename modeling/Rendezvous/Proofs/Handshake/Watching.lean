import Rendezvous.Proofs.Handshake.Exchange

/-! What a watch promises: whatever is performed under it ends by the time at which it goes off. -/

namespace Rendezvous.Handshake

open Procedure

variable {σ α : Type} {agents : Agents σ}

/-- The watch goes off by the time `t`. -/
def Watch.GoesOffBy (g : Watch) (t : Nat) : Prop :=
  g.deadline ≤ t ∨ ∃ c, g.cancelAt = some c ∧ c ≤ t

namespace Watch

variable {g : Watch} {now wake t u : Nat} {i : Interruption}

theorem GoesOffBy.wake_le (hg : g.GoesOffBy t) (hnow : now ≤ t)
    (h : g.interrupts now wake = none) : wake ≤ t := by
  have hw := g.watches now wake
  rw [h] at hw
  cases hw with
  | quiet deadline cancelAt =>
    rcases hg with hd | ⟨c, hc, hct⟩
    · omega
    · have := cancelAt c hc
      omega

theorem GoesOffBy.interrupted_le (hg : g.GoesOffBy t) (hnow : now ≤ t)
    (h : g.interrupts now wake = some (i, u)) : u ≤ t := by
  have hw := g.watches now wake
  rw [h] at hw
  cases hw with
  | timedOut early first =>
    rcases hg with hd | ⟨c, hc, hct⟩
    · omega
    · have := first c hc
      omega
  | cancelled c hc early first =>
    rcases hg with hd | ⟨c', hc', hct⟩
    · omega
    · rw [hc] at hc'
      cases hc'
      omega

theorem eq_deadline_of_timedOut (hnow : now ≤ g.deadline)
    (h : g.interrupts now wake = some (.timedOut, u)) : u = g.deadline := by
  have hw := g.watches now wake
  rw [h] at hw
  cases hw with
  | timedOut _ _ => omega

theorem GoesOffBy.cancel (hg : g.GoesOffBy t) (now : Nat) : (g.cancel now).GoesOffBy t := by
  rcases hg with hd | ⟨c, hc, hct⟩
  · exact .inl hd
  · refine .inr ⟨min c now, ?_, by omega⟩
    simp only [Watch.cancel, hc]

theorem goesOffBy_cancel (g : Watch) (now : Nat) : (g.cancel now).GoesOffBy now := by
  cases hc : g.cancelAt with
  | none => exact .inr ⟨now, by simp [Watch.cancel, hc], Nat.le_refl _⟩
  | some c => exact .inr ⟨min c now, by simp [Watch.cancel, hc], Nat.min_le_right ..⟩

end Watch

namespace World

variable {w w' : World σ} {t n : Nat}

def EndsBy (w : World σ) (t : Nat) : Prop := w.now ≤ t ∧ ∃ g, w.watch = some g ∧ g.GoesOffBy t

def DueAt (w : World σ) (t : Nat) : Prop := w.now ≤ t ∧ ∃ g, w.watch = some g ∧ g.deadline = t

theorem EndsBy.wait (h : w.EndsBy t) (n : Nat) : (w.wait n).2.EndsBy t := by
  obtain ⟨hnow, g, hg, hoff⟩ := h
  have hw := w.waits n
  generalize w.wait n = r at hw ⊢
  cases hw with
  | whole quiet =>
    refine ⟨?_, g, hg, hoff⟩
    rcases quiet g hg with hn | hi
    · simpa [hn] using hnow
    · exact hoff.wake_le hnow hi
  | cut g' i u watched interrupts =>
    rw [hg] at watched
    cases watched
    exact ⟨hoff.interrupted_le hnow interrupts, g, hg, hoff⟩

theorem EndsBy.ask (h : w.EndsBy t) (c : Agent.Call) : (w.ask agents c).2.EndsBy t := by
  obtain ⟨hnow, g, hg, hoff⟩ := h
  rw [EndsBy, ask_watch]
  split
  · exact ⟨hnow, g.cancel w.now, by rw [hg]; rfl, hoff.cancel _⟩
  · exact ⟨hnow, g, hg, hoff⟩

theorem DueAt.endsBy (h : w.DueAt t) : w.EndsBy t := by
  obtain ⟨hnow, g, hg, rfl⟩ := h
  exact ⟨hnow, g, hg, .inl (Nat.le_refl _)⟩

theorem DueAt.wait (h : w.DueAt t) (n : Nat) : (w.wait n).2.DueAt t := by
  have hnow := (h.endsBy.wait n).1
  obtain ⟨-, g, hg, hd⟩ := h
  have hw := w.waits n
  generalize w.wait n = r at hw hnow ⊢
  cases hw with
  | whole quiet => exact ⟨hnow, g, hg, hd⟩
  | cut g' i u watched interrupts => exact ⟨hnow, g, hg, hd⟩

theorem DueAt.ask (h : w.DueAt t) (c : Agent.Call) : (w.ask agents c).2.DueAt t := by
  obtain ⟨hnow, g, hg, hd⟩ := h
  rw [DueAt, ask_watch]
  split
  · exact ⟨hnow, g.cancel w.now, by rw [hg]; rfl, hd⟩
  · exact ⟨hnow, g, hg, hd⟩

theorem DueAt.now_eq (h : w.DueAt t) (hw : w.wait n = (some .timedOut, w')) : w'.now = t := by
  obtain ⟨hnow, g, hg, rfl⟩ := h
  have hwaits := w.waits n
  rw [hw] at hwaits
  cases hwaits with
  | cut g' i u watched interrupts =>
    rw [hg] at watched
    cases watched
    exact Watch.eq_deadline_of_timedOut hnow interrupts

end World

theorem World.EndsBy.run {w : World σ} {t : Nat} (h : w.EndsBy t) (p : Procedure α) :
    (p.run agents w).world.EndsBy t :=
  (run_keeps agents (P := fun w => w.EndsBy t) (fun _ c h => h.ask c) (fun _ n h => h.wait n)
    (fun _ _ h => h) p h).1

theorem World.DueAt.run {w : World σ} {t : Nat} (h : w.DueAt t) (p : Procedure α) :
    (p.run agents w).world.DueAt t ∧
      ((p.run agents w).ending = .interrupted .timedOut → (p.run agents w).world.now = t) := by
  have hkept := run_keeps agents (P := fun w => w.DueAt t) (fun _ c h => h.ask c)
    (fun _ n h => h.wait n) (fun _ _ h => h) p h
  refine ⟨hkept.1, fun hi => ?_⟩
  obtain ⟨w', n, hdue, hw⟩ := hkept.2 _ hi
  exact hdue.now_eq hw

/-- A call whose reply cancels brings the end with it. -/
theorem run_cancels {w : World σ} {g : Watch} (hg : w.watch = some g) (p : Procedure α)
    {x : Exchange} (hx : x ∈ transcript agents w.agents (p.run agents w).calls)
    (hc : x.reply.cancels = true) : (p.run agents w).world.EndsBy x.time := by
  induction p generalizing w g with
  | done a => simp [run, transcript] at hx
  | fail f => simp [run, transcript] at hx
  | stall => simp [run, transcript] at hx
  | now k ih => exact ih w.moment hg hx
  | reach m k ih =>
    simp only [run] at hx ⊢
    split at hx
    · rename_i p _
      exact ih p hg hx
    · simp [transcript] at hx
  | pause d k ih =>
    rcases run_pause agents w d k with ⟨i, t, -, -, hr⟩ | hr
    · rw [hr] at hx
      simp [transcript] at hx
    · rw [hr] at hx ⊢
      exact ih hg hx
  | ask c k ih =>
    have hwatch := w.ask_watch agents c
    rw [hg] at hwatch
    have hkept : ∀ w' i, w.called agents c = (i, w') →
        (agents.ask c w.agents).1.cancels = true → w'.EndsBy w.now := by
      intro w' i called hcancels
      rw [if_pos hcancels] at hwatch
      have hput : (w.ask agents c).2.EndsBy w.now :=
        ⟨Nat.le_refl _, _, hwatch, g.goesOffBy_cancel _⟩
      have h := hput.wait (agents.ask c w.agents).1.latency
      rw [World.called] at called
      rwa [called] at h
    have hr := run_ask agents w c k
    generalize (ask c k).run agents w = r at hr hx ⊢
    cases hr with
    | cut i w' called | failed f w' called error =>
      simp only [transcript, List.mem_singleton] at hx
      subst hx
      exact hkept w' _ called hc
    | answered a w' called ok =>
      simp only [transcript, List.mem_cons] at hx
      have after := World.after_of_called called
      rcases hx with rfl | hx
      · exact (hkept w' _ called hc).run (k a)
      · rw [← after.agents] at hx
        have hsome : ∃ g', w'.watch = some g' := by
          rw [after.watch, hwatch]
          split
          · exact ⟨_, rfl⟩
          · exact ⟨_, rfl⟩
        obtain ⟨g', hg'⟩ := hsome
        exact ih a hg' hx

end Rendezvous.Handshake
