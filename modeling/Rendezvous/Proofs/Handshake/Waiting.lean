import Rendezvous.Handshake.Run

/-! What waits and calls can come to: they are cut short or last to their end, and only a call
changes anything but the clock. -/

namespace Rendezvous.Handshake

variable {σ : Type}

/-- What a watch does during a wait from `now` to `wake`. -/
inductive Watch.Watches (g : Watch) (now wake : Nat) : Option (Interruption × Nat) → Prop
  | quiet (deadline : wake ≤ max now g.deadline)
      (cancelAt : ∀ c, g.cancelAt = some c → wake ≤ max now c) : Watches g now wake none
  | timedOut (early : max now g.deadline < wake)
      (first : ∀ c, g.cancelAt = some c → max now g.deadline < max now c) :
      Watches g now wake (some (.timedOut, max now g.deadline))
  | cancelled (c : Nat) (cancelAt : g.cancelAt = some c) (early : max now c < wake)
      (first : max now c ≤ max now g.deadline) :
      Watches g now wake (some (.cancelled, max now c))

theorem Watch.watches (g : Watch) (now wake : Nat) :
    g.Watches now wake (g.interrupts now wake) := by
  unfold Watch.interrupts
  cases hc : g.cancelAt with
  | none =>
    dsimp only
    split
    · exact .timedOut ‹_› (by simp [hc])
    · exact .quiet (by omega) (by simp [hc])
  | some c =>
    dsimp only
    split
    · rename_i h
      exact .cancelled c hc h.1 h.2
    · split
      · refine .timedOut ‹_› fun c' hc' => ?_
        rw [hc] at hc'
        cases hc'
        omega
      · refine .quiet (by omega) fun c' hc' => ?_
        rw [hc] at hc'
        cases hc'
        omega

theorem Watch.interrupts_bounds {g : Watch} {now wake t : Nat} {i : Interruption}
    (h : g.interrupts now wake = some (i, t)) : now ≤ t ∧ t < wake := by
  have hw := g.watches now wake
  rw [h] at hw
  cases hw with
  | timedOut early _ => omega
  | cancelled c _ early _ => omega

namespace World

/-- The ways in which a wait ends: nothing goes off until it is over, or it is cut short. Only the
clock changes. -/
inductive Waits (w : World σ) (n : Nat) : Option Interruption × World σ → Prop
  | whole (quiet : ∀ g, w.watch = some g → n = 0 ∨ g.interrupts w.now (w.now + n) = none) :
      Waits w n (none, { w with now := w.now + n })
  | cut (g : Watch) (i : Interruption) (t : Nat) (watched : w.watch = some g)
      (interrupts : g.interrupts w.now (w.now + n) = some (i, t)) :
      Waits w n (some i, { w with now := t })

theorem waits (w : World σ) (n : Nat) : w.Waits n (w.wait n) := by
  unfold wait
  by_cases hn : n = 0
  · subst hn
    exact .whole fun _ _ => .inl rfl
  · rw [if_neg hn]
    cases hi : w.watch.bind fun g => g.interrupts w.now (w.now + n) with
    | none =>
      refine .whole fun g hg => .inr ?_
      rw [hg] at hi
      exact hi
    | some it =>
      obtain ⟨g, hg, hgi⟩ := Option.bind_eq_some_iff.mp hi
      exact .cut g it.1 it.2 hg hgi

theorem ask_watch (agents : Agents σ) (w : World σ) (c : Agent.Call) :
    (w.ask agents c).2.watch =
      if (agents.ask c w.agents).1.cancels then w.watch.map fun g => g.cancel w.now
      else w.watch := rfl

/-- Puts a call and waits until it returns or is cut short. -/
def called (agents : Agents σ) (w : World σ) (c : Agent.Call) :
    Option Interruption × World σ :=
  (w.ask agents c).2.wait (agents.ask c w.agents).1.latency

/-- How a call leaves the world. It returns when its latency is over, unless it is cut short before
that. -/
structure After (agents : Agents σ) (w : World σ) (c : Agent.Call) (i : Option Interruption)
    (w' : World σ) : Prop where
  progress : w'.progress = w.progress
  watch : w'.watch = (w.ask agents c).2.watch
  now_le : w.now ≤ w'.now
  early : ∀ j, i = some j → w'.now < w.now + (agents.ask c w.agents).1.latency
  late : i = none → w'.now = w.now + (agents.ask c w.agents).1.latency
  agents : w'.agents = (agents.ask c w.agents).2

theorem after_of_called {agents : Agents σ} {w w' : World σ} {c : Agent.Call}
    {i : Option Interruption} (h : w.called agents c = (i, w')) : w.After agents c i w' := by
  have hw := (w.ask agents c).2.waits (agents.ask c w.agents).1.latency
  unfold called at h
  rw [h] at hw
  cases hw with
  | whole quiet => exact ⟨rfl, rfl, Nat.le_add_right .., by simp, fun _ => rfl, rfl⟩
  | cut g i t watched interrupts =>
    obtain ⟨hle, hlt⟩ := Watch.interrupts_bounds interrupts
    exact ⟨rfl, rfl, hle, fun _ _ => hlt, by simp, rfl⟩

end World

end Rendezvous.Handshake
