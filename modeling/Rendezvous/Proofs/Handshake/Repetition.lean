import Rendezvous.Agent.Script
import Rendezvous.Proofs.Handshake.Polling

/-! Agents that go through a script, and looks that go on for ever: from the last reply on the
inviter repeats itself, and then nothing changes on a clock that stands still. -/

namespace Rendezvous.Agent.Cues

variable {α : Type} {c : Cues α}

def nth (c : Cues α) : Nat → Reply (Except Fault α)
  | 0 => c.current
  | n + 1 => nth c.next.2 n

theorem next_fst (c : Cues α) : c.next.1 = c.nth 0 := by
  unfold next
  split <;> rfl

theorem next_of_later_eq_nil (h : c.later = []) : c.next.2 = c := by
  unfold next
  rw [h]

theorem length_next_le (c : Cues α) : c.next.2.later.length ≤ c.later.length := by
  unfold next
  cases hl : c.later with
  | nil => simp [hl]
  | cons r rs => simp

theorem length_next_lt (h : c.later ≠ []) : c.next.2.later.length < c.later.length := by
  unfold next
  cases hl : c.later with
  | nil => exact absurd hl h
  | cons r rs => simp

theorem nth_of_later_eq_nil (h : c.later = []) (n : Nat) : c.nth n = c.current := by
  induction n with
  | zero => rfl
  | succ n ih =>
    rw [nth, next_of_later_eq_nil h]
    exact ih

theorem nth_always (r : Reply (Except Fault α)) (n : Nat) : (always r).nth n = r :=
  nth_of_later_eq_nil rfl n

end Rendezvous.Agent.Cues

namespace Rendezvous.Handshake

open Agent (Script)
open Procedure

variable {α : Type} {o : Options} {c : Correlation} {since : Moment} {w : World Script}

/-- Nothing changes any more: the inviter lists at once and never lists the request, the waits take
no time, and there is budget left. -/
structure Idle (o : Options) (c : Correlation) (since : Moment) (w : World Script) : Prop where
  latency : ∀ n, (w.agents.listed.nth n).latency = 0
  unseen : ∀ n, ∃ listed, (w.agents.listed.nth n).answer = .ok listed ∧
    c.select o.matching o.targetState listed = none
  budget : (elapsed since w.moment).nanos < o.backoff.budget.nanos
  still : o.backoff.initial.nanos = 0 ∨ o.backoff.cap.nanos = 0

/-- The world after one more look that takes no time. -/
theorem Idle.called (h : Idle o c since w) (endpoint : Side → String) (aliasName : Option String) :
    ∃ w', w.called (Script.agents endpoint) (.listConnections aliasName) = (none, w') ∧
      w'.now = w.now ∧ w'.progress = w.progress ∧ Idle o c since w' := by
  have hreply : ((Script.agents endpoint).ask (.listConnections aliasName) w.agents).1 =
      w.agents.listed.nth 0 := w.agents.listed.next_fst
  refine ⟨(w.ask (Script.agents endpoint) (.listConnections aliasName)).2, ?_, rfl, rfl, ?_⟩
  · unfold World.called
    rw [hreply, h.latency 0]
    rfl
  · exact ⟨fun n => h.latency (n + 1), fun n => h.unseen (n + 1), h.budget, h.still⟩

/-- Idle looks go on for ever. -/
theorem Idle.run_look (h : Idle o c since w) (endpoint : Side → String) (name : String)
    (rest : Sighting → Procedure α) (looks : Nat) (polls : UInt32) :
    ∃ w', ((look o name c since looks polls).bind rest).run (Script.agents endpoint) w =
        ⟨List.replicate looks ⟨w.now, .listConnections o.aliasName⟩, .endless, w'⟩ ∧
      w'.now = w.now ∧ w'.progress = w.progress := by
  induction looks generalizing polls w with
  | zero => exact ⟨w, rfl, rfl, rfl⟩
  | succ looks ih =>
    obtain ⟨w₁, hcalled, hnow, hprogress, hidle⟩ :=
      h.called endpoint o.aliasName
    obtain ⟨listed, hlisted, hnone⟩ := h.unseen 0
    obtain ⟨d, hd, hzero⟩ := Backoff.next?_eq_some polls.toNat hidle.budget
    have hticks : ticksOf d = 0 := ticksOf_eq_zero_iff.mpr (hzero.mpr hidle.still)
    obtain ⟨w₂, hrun, hnow₂, hprogress₂⟩ := ih hidle (polls + 1)
    refine ⟨w₂, ?_, hnow₂.trans hnow, hprogress₂.trans hprogress⟩
    have hanswer : ((Script.agents endpoint).ask (.listConnections o.aliasName) w.agents).1.answer =
        .ok listed := by
      rw [← hlisted, ← Agent.Cues.next_fst]
      rfl
    rw [bind_look_succ, run_ask_answered _ hcalled hanswer]
    simp only [hnone, run, hd, World.wait, hticks, if_pos, hrun, hnow, List.replicate_succ]

/-- A look that takes the world from `w` to `w'`, finds no request and is followed by a wait of
`d`. -/
structure Missed (endpoint : Side → String) (o : Options) (c : Correlation) (since : Moment)
    (polls : UInt32) (w w' : World Script) (d : Span) : Prop where
  called : w.called (Script.agents endpoint) (.listConnections o.aliasName) = (none, w')
  unseen : ∃ listed, (w.agents.listed.nth 0).answer = .ok listed ∧
    c.select o.matching o.targetState listed = none
  next : o.backoff.next? polls.toNat (elapsed since w'.moment) = some d

namespace Missed

variable {endpoint : Side → String} {polls : UInt32} {w' : World Script} {d : Span}

theorem lt (h : Missed endpoint o c since polls w w' d) :
    w.now < since.tick + o.backoff.budget.millisUp := by
  have hlt : w'.now < since.tick + o.backoff.budget.millisUp := Backoff.tick_lt_of_next? h.next
  have hle := (World.after_of_called h.called).now_le
  omega

theorem listed_eq (h : Missed endpoint o c since polls w w' d) :
    w'.agents.listed = w.agents.listed.next.2 := by
  rw [(World.after_of_called h.called).agents]
  rfl

theorem now_eq (h : Missed endpoint o c since polls w w' d) :
    w'.now = w.now + (w.agents.listed.nth 0).latency := by
  have hnow := (World.after_of_called h.called).late rfl
  have hreply : ((Script.agents endpoint).ask (.listConnections o.aliasName) w.agents).1 =
      w.agents.listed.nth 0 := w.agents.listed.next_fst
  rwa [hreply] at hnow

/-- From the last reply on, a look that takes no time and is followed by no wait repeats itself. -/
theorem idle (h : Missed endpoint o c since polls w w' d) (hlast : w.agents.listed.later = [])
    (hstill : w'.now + ticksOf d ≤ w.now) :
    Idle o c since { w' with now := w'.now + ticksOf d } := by
  have hnow := h.now_eq
  have hlatency : (w.agents.listed.nth 0).latency = 0 := by omega
  have hticks : ticksOf d = 0 := by omega
  have hsame : ∀ n, w'.agents.listed.nth n = w.agents.listed.nth 0 := by
    intro n
    rw [h.listed_eq, Agent.Cues.next_of_later_eq_nil hlast, Agent.Cues.nth_of_later_eq_nil hlast]
    rfl
  obtain ⟨listed, hlisted, hnone⟩ := h.unseen
  constructor
  · intro n
    exact (congrArg Agent.Reply.latency (hsame n)).trans hlatency
  · intro n
    exact ⟨listed, (congrArg Agent.Reply.answer (hsame n)).trans hlisted, hnone⟩
  · rw [hticks]
    exact Backoff.lt_of_next? h.next
  · rwa [← Backoff.nanos_next?_eq_zero_iff h.next, ← ticksOf_eq_zero_iff]

/-- Looks that are enough for the budget and for the listings to come are so after one more look,
unless nothing changes any more. -/
theorem enough_or_idle (h : Missed endpoint o c since polls w w' d) {looks : Nat}
    (henough : since.tick + o.backoff.budget.millisUp + w.agents.listed.later.length ≤
      w.now + (looks + 1)) :
    since.tick + o.backoff.budget.millisUp + w'.agents.listed.later.length ≤
        w'.now + ticksOf d + looks ∨
      Idle o c since { w' with now := w'.now + ticksOf d } := by
  have hle := (World.after_of_called h.called).now_le
  rw [h.listed_eq]
  by_cases hlast : w.agents.listed.later = []
  · by_cases hstill : w'.now + ticksOf d ≤ w.now
    · exact .inr (h.idle hlast hstill)
    · have hlength := w.agents.listed.length_next_le
      exact .inl (by omega)
  · have hlength := Agent.Cues.length_next_lt hlast
    exact .inl (by omega)

end Missed

end Rendezvous.Handshake
