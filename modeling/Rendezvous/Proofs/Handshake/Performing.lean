import Rendezvous.Proofs.Handshake.Waiting

/-! What a procedure can come to step by step, and what it keeps on its way. The clock never goes
back. -/

namespace Rendezvous.Handshake

variable {σ α β : Type}

/-- The ways on from a call: it is cut short, it fails, or it brings an answer. -/
inductive Asked (agents : Agents σ) (w : World σ) (c : Agent.Call)
    (k : c.Answer → Procedure α) : Run σ α → Prop
  | cut (i : Interruption) (w' : World σ) (called : w.called agents c = (some i, w')) :
      Asked agents w c k ⟨[⟨w.now, c⟩], .interrupted i, w'⟩
  | failed (f : Agent.Fault) (w' : World σ) (called : w.called agents c = (none, w'))
      (error : (agents.ask c w.agents).1.answer = .error f) :
      Asked agents w c k ⟨[⟨w.now, c⟩], .failed (.ofFault (stepOf c) f), w'⟩
  | answered (a : c.Answer) (w' : World σ) (called : w.called agents c = (none, w'))
      (ok : (agents.ask c w.agents).1.answer = .ok a) :
      Asked agents w c k
        ⟨⟨w.now, c⟩ :: ((k a).run agents w').calls, ((k a).run agents w').ending,
          ((k a).run agents w').world⟩

namespace Procedure

section Ask

variable {agents : Agents σ} {w w' : World σ} {c : Agent.Call}

theorem run_ask_cut (k : c.Answer → Procedure α) {i : Interruption}
    (called : w.called agents c = (some i, w')) :
    (ask c k).run agents w = ⟨[⟨w.now, c⟩], .interrupted i, w'⟩ := by
  have hwait : (w.ask agents c).2.wait (w.ask agents c).1.latency = (some i, w') := called
  simp only [run, hwait]

theorem run_ask_failed (k : c.Answer → Procedure α) {f : Agent.Fault}
    (called : w.called agents c = (none, w'))
    (error : (agents.ask c w.agents).1.answer = .error f) :
    (ask c k).run agents w = ⟨[⟨w.now, c⟩], .failed (.ofFault (stepOf c) f), w'⟩ := by
  have hwait : (w.ask agents c).2.wait (w.ask agents c).1.latency = (none, w') := called
  have hanswer : (w.ask agents c).1.answer = .error f := error
  simp only [run, hwait, hanswer]

theorem run_ask_answered (k : c.Answer → Procedure α) {a : c.Answer}
    (called : w.called agents c = (none, w')) (ok : (agents.ask c w.agents).1.answer = .ok a) :
    (ask c k).run agents w =
      ⟨⟨w.now, c⟩ :: ((k a).run agents w').calls, ((k a).run agents w').ending,
        ((k a).run agents w').world⟩ := by
  have hwait : (w.ask agents c).2.wait (w.ask agents c).1.latency = (none, w') := called
  have hanswer : (w.ask agents c).1.answer = .ok a := ok
  simp only [run, hwait, hanswer]

end Ask

theorem run_ask (agents : Agents σ) (w : World σ) (c : Agent.Call)
    (k : c.Answer → Procedure α) : Asked agents w c k ((ask c k).run agents w) := by
  rcases hc : w.called agents c with ⟨i | i, w'⟩
  · cases ha : (agents.ask c w.agents).1.answer with
    | error f =>
      rw [run_ask_failed k hc ha]
      exact .failed f w' hc ha
    | ok a =>
      rw [run_ask_answered k hc ha]
      exact .answered a w' hc ha
  · rw [run_ask_cut k hc]
    exact .cut i w' hc

/-- A call is put before anything else happens. -/
theorem run_ask_calls (agents : Agents σ) (w : World σ) (c : Agent.Call)
    (k : c.Answer → Procedure α) : [⟨w.now, c⟩] <+: ((ask c k).run agents w).calls := by
  have hr := run_ask agents w c k
  generalize (ask c k).run agents w = r at hr ⊢
  cases hr <;> simp

/-- A pause is cut short, or the procedure goes on after it. -/
theorem run_pause (agents : Agents σ) (w : World σ) (d : Span) (k : Procedure α) :
    (∃ i t, w.now ≤ t ∧ t < w.now + ticksOf d ∧
        (pause d k).run agents w = ⟨[], .interrupted i, { w with now := t }⟩) ∨
      (pause d k).run agents w = k.run agents { w with now := w.now + ticksOf d } := by
  simp only [run]
  have hw := w.waits (ticksOf d)
  generalize w.wait (ticksOf d) = r at hw ⊢
  cases hw with
  | whole quiet => exact .inr rfl
  | cut g i t watched interrupts =>
    obtain ⟨hle, hlt⟩ := Watch.interrupts_bounds interrupts
    exact .inl ⟨i, t, hle, hlt, rfl⟩

/-- What calls, waits and milestones keep is kept by a performance, up to the wait in which it is
cut short. -/
theorem run_keeps (agents : Agents σ) {P : World σ → Prop}
    (hask : ∀ w c, P w → P (w.ask agents c).2) (hwait : ∀ w n, P w → P (w.wait n).2)
    (hreach : ∀ (w : World σ) (p : Progress), P w → P { w with progress := p })
    (p : Procedure α) {w : World σ} (h : P w) :
    P (p.run agents w).world ∧
      ∀ i, (p.run agents w).ending = .interrupted i →
        ∃ w' n, P w' ∧ w'.wait n = (some i, (p.run agents w).world) := by
  induction p generalizing w with
  | done a => simpa [run] using h
  | fail f => simpa [run] using h
  | stall => simpa [run] using h
  | now k ih => exact ih w.moment h
  | reach m k ih =>
    simp only [run]
    split
    · rename_i p _
      exact ih p (hreach w p h)
    · simpa using h
  | pause d k ih =>
    have hkept := hwait w (ticksOf d) h
    simp only [run]
    rcases hw : w.wait (ticksOf d) with ⟨i | i, w'⟩
    · rw [hw] at hkept
      exact ih hkept
    · rw [hw] at hkept
      refine ⟨hkept, fun j hj => ⟨w, ticksOf d, h, ?_⟩⟩
      cases hj
      exact hw
  | ask c k ih =>
    have hput := hask w c h
    have hkept := hwait _ (agents.ask c w.agents).1.latency hput
    have hr := run_ask agents w c k
    generalize (ask c k).run agents w = r at hr ⊢
    cases hr with
    | cut i w' called =>
      rw [World.called] at called
      rw [called] at hkept
      refine ⟨hkept, fun j hj =>
        ⟨(w.ask agents c).2, (agents.ask c w.agents).1.latency, hput, ?_⟩⟩
      cases hj
      exact called
    | failed f w' called error =>
      rw [World.called] at called
      rw [called] at hkept
      simpa using hkept
    | answered a w' called ok =>
      rw [World.called] at called
      rw [called] at hkept
      exact ih a hkept

/-- Calls are put between the start and the end of a performance. -/
theorem run_times (agents : Agents σ) (p : Procedure α) (w : World σ) :
    w.now ≤ (p.run agents w).world.now ∧
      ∀ e ∈ (p.run agents w).calls, w.now ≤ e.time ∧ e.time ≤ (p.run agents w).world.now := by
  induction p generalizing w with
  | done a => simp [run]
  | fail f => simp [run]
  | stall => simp [run]
  | now k ih => exact ih w.moment w
  | reach m k ih =>
    simp only [run]
    split
    · rename_i p _
      exact ih p { w with progress := p }
    · simp
  | pause d k ih =>
    rcases run_pause agents w d k with ⟨i, t, hle, -, hr⟩ | hr
    · rw [hr]
      exact ⟨hle, by simp⟩
    · have h := ih { w with now := w.now + ticksOf d }
      rw [hr]
      refine ⟨by have := h.1; dsimp only at this; omega, fun e he => ?_⟩
      have := h.2 e he
      dsimp only at this
      omega
  | ask c k ih =>
    have hr := run_ask agents w c k
    generalize (ask c k).run agents w = r at hr ⊢
    cases hr with
    | cut i w' called => simpa using (World.after_of_called called).now_le
    | failed f w' called error => simpa using (World.after_of_called called).now_le
    | answered a w' called ok =>
      have h := ih a w'
      have hnow := (World.after_of_called called).now_le
      refine ⟨by dsimp only; omega, fun e he => ?_⟩
      rcases List.mem_cons.mp he with rfl | he
      · dsimp only
        omega
      · have := h.2 e he
        dsimp only
        omega

theorem now_le_run (agents : Agents σ) (p : Procedure α) (w : World σ) :
    w.now ≤ (p.run agents w).world.now := (run_times agents p w).1

end Procedure

theorem Run.result_eq_ok_iff {limit : Span} {r : Run σ α} {a : α} :
    r.result limit = some (.ok a) ↔ r.ending = .done a := by
  unfold Run.result
  cases r.ending with
  | interrupted i => cases i <;> simp
  | _ => simp

theorem Run.result_eq_error_iff {limit : Span} {r : Run σ α} {f : Failure} :
    r.result limit = some (.error f) ↔ r.ending = .failed f ∨
      r.ending = .interrupted .timedOut ∧ f = .outOfTime limit r.world.progress.milestone ∨
      r.ending = .interrupted .cancelled ∧ f = .cancelled r.world.progress.milestone := by
  unfold Run.result
  cases r.ending with
  | interrupted i => cases i <;> simp [eq_comm]
  | _ => simp

theorem Run.result_eq_none_iff {limit : Span} {r : Run σ α} :
    r.result limit = none ↔ r.ending = .endless := by
  unfold Run.result
  cases r.ending with
  | interrupted i => cases i <;> simp
  | _ => simp

def Ending.map (f : α → β) : Ending α → Ending β
  | done a => done (f a)
  | failed e => failed e
  | interrupted i => interrupted i
  | endless => endless

theorem Ending.map_eq_done_iff {f : α → β} {e : Ending α} {b : β} :
    e.map f = .done b ↔ ∃ a, e = .done a ∧ f a = b := by
  cases e <;> simp [map]

/-- Endings that match have matching results, if an interruption finds both handshakes at the same
milestone. -/
theorem Run.result_map {f : α → β} {r : Run σ α} {q : Run σ β} (limit : Span)
    (hending : q.ending = r.ending.map f)
    (hmilestone : ∀ i, r.ending = .interrupted i →
      q.world.progress.milestone = r.world.progress.milestone) :
    q.result limit = (r.result limit).map (Except.map f) := by
  rw [result, result, hending]
  cases he : r.ending with
  | interrupted i =>
    cases i with
    | timedOut | cancelled => simp [Ending.map, Except.map, hmilestone _ he]
  | done | failed | endless => rfl

def World.armed (w : World σ) (o : Options) (cancelAfter : Option Nat) : World σ :=
  { w with
    progress := .begin w.stamp
    watch := some ⟨w.now + ticksOf o.limit, cancelAfter.map (w.now + ·)⟩ }

theorem perform_eq (agents : Agents σ) (o : Options) (cancelAfter : Option Nat) (w : World σ) :
    perform agents o cancelAfter w =
      if cancelAfter = some 0 then ⟨[], .interrupted .cancelled, w.armed o cancelAfter⟩
      else (handshake o (agents.endpoint .inviter) (agents.stock w.agents)).run agents
        (w.armed o cancelAfter) := rfl

end Rendezvous.Handshake
