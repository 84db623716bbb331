import Rendezvous.Proofs.Handshake.Limits

/-! What an interruption does to a run: it cuts it short and changes nothing before the cut. A run
is held against one with the same agents that is interrupted later, or not at all. -/

namespace Rendezvous

/-- The same agents, during whose calls nobody cancels. -/
def Agents.calm {σ : Type} (agents : Agents σ) : Agents σ :=
  { agents with ask := fun c s =>
      ({ (agents.ask c s).1 with cancels := false }, (agents.ask c s).2) }

namespace Handshake

open Procedure

variable {σ α : Type} {A B : Agents σ} {S : Interruption → Prop} {R : Watch → Watch → Prop}

/-- The watches cut a wait short alike, unless the first one does it for a reason in `S`. -/
def Watch.AgreesUnless (S : Interruption → Prop) (g g' : Watch) : Prop :=
  ∀ now wake, (∃ i t, S i ∧ g.interrupts now wake = some (i, t)) ∨
    g'.interrupts now wake = g.interrupts now wake

def Watch.LaterUncancelled (g g' : Watch) : Prop := g.deadline ≤ g'.deadline ∧ g'.cancelAt = none

def Watch.LaterDeadline (g g' : Watch) : Prop := g.deadline ≤ g'.deadline ∧ g'.cancelAt = g.cancelAt

theorem Watch.LaterUncancelled.agreesUnless {g g' : Watch} (h : g.LaterUncancelled g') :
    g.AgreesUnless (fun _ => True) g' := by
  obtain ⟨hdeadline, hnone⟩ := h
  intro now wake
  cases hi : g.interrupts now wake with
  | some it => exact .inl ⟨it.1, it.2, trivial, rfl⟩
  | none =>
    right
    have hw := g.watches now wake
    rw [hi] at hw
    cases hw with
    | quiet deadline _ =>
      have hlate : ¬ max now g'.deadline < wake := by omega
      simp only [Watch.interrupts, hnone, if_neg hlate]

theorem Watch.LaterDeadline.agreesUnless {g g' : Watch} (h : g.LaterDeadline g') :
    g.AgreesUnless (· = .timedOut) g' := by
  obtain ⟨hdeadline, hcancel⟩ := h
  intro now wake
  have hw := g.watches now wake
  generalize hi : g.interrupts now wake = i at hw
  cases hw with
  | timedOut early first => exact .inl ⟨_, _, rfl, rfl⟩
  | quiet deadline cancelAt =>
    right
    have hlate : ¬ max now g'.deadline < wake := by omega
    cases hc : g.cancelAt with
    | none => simp only [Watch.interrupts, hcancel, hc, if_neg hlate]
    | some c =>
      have hcut : ¬ (max now c < wake ∧ max now c ≤ max now g'.deadline) := by
        have := cancelAt c hc
        omega
      simp only [Watch.interrupts, hcancel, hc, if_neg hlate, if_neg hcut]
  | cancelled c cancelAt early first =>
    right
    have hcut : max now c < wake ∧ max now c ≤ max now g'.deadline := ⟨early, by omega⟩
    simp only [Watch.interrupts, hcancel, cancelAt, if_pos hcut]

/-- What a call leaves of a watch. -/
def heard (agents : Agents σ) (c : Agent.Call) (s : σ) (now : Nat) (g : Watch) : Watch :=
  if (agents.ask c s).1.cancels then g.cancel now else g

/-- The agents `B` reply as `A` do. Their calls may cancel otherwise, but keep watches related. -/
structure Follows (R : Watch → Watch → Prop) (A B : Agents σ) : Prop where
  answer : ∀ c s, (B.ask c s).1.answer = (A.ask c s).1.answer
  latency : ∀ c s, (B.ask c s).1.latency = (A.ask c s).1.latency
  rest : ∀ c s, (B.ask c s).2 = (A.ask c s).2
  heard : ∀ c s now g g', R g g' → R (heard A c s now g) (heard B c s now g')

theorem follows_calm (A : Agents σ) : Follows Watch.LaterUncancelled A A.calm := by
  refine ⟨fun _ _ => rfl, fun _ _ => rfl, fun _ _ => rfl, fun c s now g g' h => ?_⟩
  unfold Handshake.heard
  split
  · exact h
  · exact h

theorem follows_refl (A : Agents σ) : Follows Watch.LaterDeadline A A := by
  refine ⟨fun _ _ => rfl, fun _ _ => rfl, fun _ _ => rfl, fun c s now g g' h => ?_⟩
  unfold Handshake.heard
  split
  · exact ⟨h.1, by simp only [Watch.cancel, h.2]⟩
  · exact h

namespace World

def under (w : World σ) (g : Watch) : World σ := { w with watch := some g }

/-- Two watches see a wait to the same end, unless the first one cuts it short for a reason in
`S`. -/
theorem wait_under (w : World σ) {g g' : Watch} (h : g.AgreesUnless S g') (n : Nat) :
    (∃ i w', S i ∧ (w.under g).wait n = (some i, w')) ∨
      ∃ i t, (w.under g).wait n = (i, { w with now := t }.under g) ∧
        (w.under g').wait n = (i, { w with now := t }.under g') := by
  by_cases hn : n = 0
  · subst hn
    exact .inr ⟨none, w.now, rfl, rfl⟩
  · simp only [wait, under, if_neg hn, Option.bind_some]
    rcases h w.now (w.now + n) with ⟨i, t, hi, hinterrupts⟩ | heq
    · rw [hinterrupts]
      exact .inl ⟨i, _, hi, rfl⟩
    · rw [heq]
      cases g.interrupts w.now (w.now + n) with
      | none => exact .inr ⟨none, w.now + n, rfl, rfl⟩
      | some it => exact .inr ⟨some it.1, it.2, rfl, rfl⟩

theorem ask_under (agents : Agents σ) (w : World σ) (g : Watch) (c : Agent.Call) :
    ((w.under g).ask agents c).2 =
      { w with agents := (agents.ask c w.agents).2 }.under (heard agents c w.agents w.now g) := by
  have hwatch : (if (agents.ask c w.agents).1.cancels then some (g.cancel w.now) else some g) =
      some (heard agents c w.agents w.now g) := by
    unfold heard
    split <;> rfl
  exact congrArg
    (World.mk w.now w.epoch (agents.ask c w.agents).2 w.progress) hwatch

theorem called_under (hagrees : ∀ g g', R g g' → g.AgreesUnless S g') (hfollows : Follows R A B)
    (w : World σ) {g g' : Watch} (h : R g g') (c : Agent.Call) :
    (∃ i w', S i ∧ (w.under g).called A c = (some i, w')) ∨
      ∃ i w' h h', R h h' ∧ (w.under g).called A c = (i, World.under w' h) ∧
        (w.under g').called B c = (i, World.under w' h') := by
  have hheard := hfollows.heard c w.agents w.now g g' h
  unfold called
  rw [ask_under, ask_under]
  simp only [under, hfollows.latency, hfollows.rest]
  rcases wait_under { w with agents := (A.ask c w.agents).2 } (hagrees _ _ hheard)
    (A.ask c w.agents).1.latency with ⟨i, w', hi, hcut⟩ | ⟨i, t, hw, hv⟩
  · exact .inl ⟨i, w', hi, hcut⟩
  · exact .inr ⟨i, _, _, _, hheard, hw, hv⟩

end World

/-- The performance `q` goes on where `r` is cut short for a reason in `S`, and is the same as `r`
if that is not so. -/
inductive Extends (S : Interruption → Prop) (r q : Run σ α) : Prop
  | cut {i : Interruption} (reason : S i) (ending : r.ending = .interrupted i)
      (calls : r.calls <+: q.calls)
  | whole (calls : r.calls = q.calls) (ending : r.ending = q.ending)
      (now : r.world.now = q.world.now) (progress : r.world.progress = q.world.progress)

namespace Extends

variable {r q : Run σ α}

theorem calls_prefix (h : Extends S r q) : r.calls <+: q.calls := by
  cases h with
  | cut _ _ calls => exact calls
  | whole calls _ _ _ => exact calls ▸ List.prefix_rfl

theorem cons (h : Extends S r q) (e : Logged) :
    Extends S ⟨e :: r.calls, r.ending, r.world⟩ ⟨e :: q.calls, q.ending, q.world⟩ := by
  cases h with
  | cut reason ending calls =>
    exact .cut reason ending (List.cons_prefix_cons.mpr ⟨rfl, calls⟩)
  | whole calls ending now progress =>
    exact .whole (congrArg (e :: ·) calls) ending now progress

/-- Apart from runs that are cut short for a reason in `S` the results are the same. -/
theorem result_eq (h : Extends S r q) (hcut : ∀ i, S i → r.ending ≠ .interrupted i)
    {l l' : Span} (htime : r.ending ≠ .interrupted .timedOut) :
    r.result l = q.result l' ∧ r.calls = q.calls ∧ r.world.now = q.world.now := by
  cases h with
  | cut reason ending _ => exact absurd ending (hcut _ reason)
  | whole calls ending now progress =>
    refine ⟨?_, calls, now⟩
    unfold Run.result
    rw [← ending, ← progress]
    cases he : r.ending with
    | interrupted i =>
      cases i with
      | timedOut => exact absurd he htime
      | cancelled => rfl
    | _ => rfl

end Extends

/-- The same procedure under two watches. -/
theorem extends_run (hagrees : ∀ g g', R g g' → g.AgreesUnless S g') (hfollows : Follows R A B)
    (p : Procedure α) (w : World σ) {g g' : Watch} (h : R g g') :
    Extends S (p.run A (w.under g)) (p.run B (w.under g')) := by
  induction p generalizing w g g' with
  | done a => exact .whole rfl rfl rfl rfl
  | fail f => exact .whole rfl rfl rfl rfl
  | stall => exact .whole rfl rfl rfl rfl
  | now k ih => exact ih w.moment w h
  | reach m k ih =>
    have hadvance : ∀ g, (w.under g).progress.advance m (w.under g).stamp =
        w.progress.advance m w.stamp := fun _ => rfl
    simp only [run, hadvance]
    cases w.progress.advance m w.stamp with
    | error f => exact .whole rfl rfl rfl rfl
    | ok p => exact ih p { w with progress := p } h
  | pause d k ih =>
    simp only [run]
    rcases w.wait_under (hagrees g g' h) (ticksOf d) with ⟨i, w', hi, hcut⟩ | ⟨i, t, hw, hv⟩
    · rw [hcut]
      exact .cut hi rfl List.nil_prefix
    · rw [hw, hv]
      cases i with
      | some i => exact .whole rfl rfl rfl rfl
      | none => exact ih { w with now := t } h
  | ask c k ih =>
    rcases w.called_under hagrees hfollows h c with
      ⟨i, w', hi, hcut⟩ | ⟨i, w', h, h', hR, hw, hv⟩
    · rw [run_ask_cut k hcut]
      exact .cut hi rfl (run_ask_calls B (w.under g') c k)
    · cases i with
      | some i =>
        rw [run_ask_cut k hw, run_ask_cut k hv]
        exact .whole rfl rfl rfl rfl
      | none =>
        have hanswer : (B.ask c w.agents).1.answer = (A.ask c w.agents).1.answer :=
          hfollows.answer c w.agents
        cases ha : (A.ask c w.agents).1.answer with
        | error f =>
          rw [run_ask_failed k hw ha, run_ask_failed k hv (hanswer.trans ha)]
          exact .whole rfl rfl rfl rfl
        | ok a =>
          rw [run_ask_answered k hw ha, run_ask_answered k hv (hanswer.trans ha)]
          exact (ih a w' hR).cons _

theorem look_limit (o : Options) (limit : Span) (endpoint : String) (c : Correlation)
    (since : Moment) (looks : Nat) (polls : UInt32) :
    look { o with limit := limit } endpoint c since looks polls =
      look o endpoint c since looks polls := by
  induction looks generalizing polls with
  | zero => rfl
  | succ looks ih => simp only [look, ih]

/-- A handshake does not know its own limit. -/
theorem handshake_limit (o : Options) (limit : Span) (endpoint : String) (stock : Nat) :
    handshake { o with limit := limit } endpoint stock = handshake o endpoint stock := by
  simp only [handshake, createInvitation, receiveInvitation, acceptInvitation, awaitRequest,
    look_limit]

/-- A run with a later deadline and without cancellation. -/
theorem perform_calm_extends (agents : Agents σ) (o : Options) (cancelAfter : Option Nat)
    (w : World σ) {limit : Span} (h : ticksOf o.limit ≤ ticksOf limit) :
    Extends (fun _ => True) (perform agents o cancelAfter w)
      (perform agents.calm { o with limit := limit } none w) := by
  rw [perform_eq, perform_eq, if_neg (by simp : ¬ (none : Option Nat) = some 0)]
  by_cases hcancel : cancelAfter = some 0
  · rw [if_pos hcancel]
    exact .cut trivial rfl List.nil_prefix
  · rw [if_neg hcancel, handshake_limit o limit]
    refine extends_run (fun _ _ h => h.agreesUnless) (follows_calm agents) _
      { w with progress := .begin w.stamp } ⟨?_, rfl⟩
    exact Nat.add_le_add_left h w.now

/-- A run with a later deadline and the same cancellation. -/
theorem perform_prolonged_extends (agents : Agents σ) (o : Options) (cancelAfter : Option Nat)
    (w : World σ) {limit : Span} (h : ticksOf o.limit ≤ ticksOf limit) :
    Extends (· = .timedOut) (perform agents o cancelAfter w)
      (perform agents { o with limit := limit } cancelAfter w) := by
  rw [perform_eq, perform_eq]
  by_cases hcancel : cancelAfter = some 0
  · rw [if_pos hcancel, if_pos hcancel]
    exact .whole rfl rfl rfl rfl
  · rw [if_neg hcancel, if_neg hcancel, handshake_limit o limit]
    refine extends_run (fun _ _ h => h.agreesUnless) (follows_refl agents) _
      { w with progress := .begin w.stamp } ⟨?_, rfl⟩
    exact Nat.add_le_add_left h w.now

theorem Run.ending_ne_timedOut {r : Run σ α} {limit : Span}
    (h : ∀ l m, r.result limit ≠ some (.error (.outOfTime l m))) :
    r.ending ≠ .interrupted .timedOut := by
  intro he
  apply h limit r.world.progress.milestone
  rw [Run.result, he]

theorem Run.ending_ne_cancelled {r : Run σ α} {limit : Span}
    (h : ∀ m, r.result limit ≠ some (.error (.cancelled m))) :
    r.ending ≠ .interrupted .cancelled := by
  intro he
  apply h r.world.progress.milestone
  rw [Run.result, he]

end Handshake

end Rendezvous
