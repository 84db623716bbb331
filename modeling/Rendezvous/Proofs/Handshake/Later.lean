import Rendezvous.Proofs.Handshake.Performing
import Rendezvous.Proofs.Handshake.Trees

/-! A later start. What a handshake does depends on how much time goes by, not on what the clock
shows when it begins: if it begins some milliseconds later, all of it happens that much later. -/

namespace Rendezvous

theorem Stamp.addMillis_addMillis (s : Stamp) (m n : Nat) :
    (s.addMillis m).addMillis n = s.addMillis (m + n) := by
  simp only [addMillis, Stamp.mk.injEq]
  omega

namespace Handshake

open Procedure

variable {σ α β : Type} {n : Nat}

def Moment.later (n : Nat) (m : Moment) : Moment := ⟨m.tick + n, m.stamp.addMillis n⟩

def Transition.later (n : Nat) (t : Transition) : Transition :=
  { t with time := t.time.addMillis n }

def Progress.later (n : Nat) (p : Progress) : Progress :=
  { p with
    startedAt := p.startedAt.addMillis n
    transitions := p.transitions.map (Transition.later n) }

def Outcome.later (n : Nat) (out : Outcome) : Outcome :=
  { out with
    transitions := out.transitions.map (Transition.later n)
    startedAt := out.startedAt.addMillis n
    finishedAt := out.finishedAt.addMillis n }

def Watch.later (n : Nat) (g : Watch) : Watch := ⟨g.deadline + n, g.cancelAt.map (· + n)⟩

def Logged.later (n : Nat) (e : Logged) : Logged := { e with time := e.time + n }

def World.later (n : Nat) (w : World σ) : World σ :=
  { w with
    now := w.now + n
    progress := w.progress.later n
    watch := w.watch.map (Watch.later n) }

/-- The same performance at a later time, where `f` tells what becomes of its value. -/
def Run.later (n : Nat) (f : α → β) (r : Run σ α) : Run σ β :=
  ⟨r.calls.map (Logged.later n), r.ending.map f, r.world.later n⟩

theorem Progress.advance_later (p : Progress) (m : Milestone) (t : Stamp) :
    (p.later n).advance m (t.addMillis n) = (p.advance m t).map (Progress.later n) := by
  by_cases h : p.milestone.next? = some m
  · simp [advance, later, Transition.later, Except.map, h]
  · simp [advance, later, Except.map, h]

namespace Watch

theorem cancel_later (g : Watch) (now : Nat) :
    (g.later n).cancel (now + n) = (g.cancel now).later n := by
  cases hc : g.cancelAt with
  | none => simp [cancel, later, hc]
  | some c => simp [cancel, later, hc, Nat.add_min_add_right]

theorem interrupts_later (g : Watch) (now wake : Nat) :
    (g.later n).interrupts (now + n) (wake + n) =
      (g.interrupts now wake).map fun it => (it.1, it.2 + n) := by
  simp only [interrupts, later, Nat.add_max_add_right, Nat.add_lt_add_iff_right]
  cases g.cancelAt with
  | none =>
    dsimp only [Option.map_none]
    split <;> rfl
  | some c =>
    simp only [Option.map_some, Nat.add_max_add_right, Nat.add_lt_add_iff_right,
      Nat.add_le_add_iff_right]
    split
    · rfl
    · split <;> rfl

end Watch

namespace World

variable (w : World σ)

theorem stamp_later : (w.later n).stamp = w.stamp.addMillis n :=
  (Stamp.addMillis_addMillis w.epoch w.now n).symm

theorem moment_later : (w.later n).moment = w.moment.later n := by
  rw [moment, stamp_later]
  rfl

theorem wait_later (k : Nat) : (w.later n).wait k = ((w.wait k).1, (w.wait k).2.later n) := by
  unfold wait
  split
  · rfl
  · have hwake : w.now + n + k = w.now + k + n := by omega
    have hinterrupts : ((w.later n).watch.bind fun g => g.interrupts (w.later n).now
          ((w.later n).now + k)) =
        (w.watch.bind fun g => g.interrupts w.now (w.now + k)).map fun it => (it.1, it.2 + n) := by
      cases hw : w.watch with
      | none => simp [later, hw]
      | some g => simp [later, hw, hwake, Watch.interrupts_later]
    rw [hinterrupts]
    cases w.watch.bind fun g => g.interrupts w.now (w.now + k) with
    | none => simp [later, hwake]
    | some it => rfl

theorem called_later (agents : Agents σ) (c : Agent.Call) :
    (w.later n).called agents c = ((w.called agents c).1, (w.called agents c).2.later n) := by
  have hwatch : ((w.later n).ask agents c).2.watch =
      (w.ask agents c).2.watch.map (Watch.later n) := by
    simp only [ask_watch, later]
    split
    · cases w.watch with
      | none => rfl
      | some g => exact congrArg some (Watch.cancel_later g w.now)
    · rfl
  have hask : ((w.later n).ask agents c).2 = (w.ask agents c).2.later n :=
    congrArg (World.mk (w.now + n) w.epoch (agents.ask c w.agents).2 (w.progress.later n)) hwatch
  rw [called, hask]
  exact wait_later _ _

end World

/-- The second procedure goes through the same steps as the first one if all that it reads is `n`
milliseconds later, and comes to what `f` makes of the first one's value. -/
inductive Procedure.Echoes (n : Nat) (f : α → β) : Procedure α → Procedure β → Prop
  | done (a : α) : Echoes n f (done a) (done (f a))
  | fail (e : Failure) : Echoes n f (fail e) (fail e)
  | stall : Echoes n f stall stall
  | now {k : Moment → Procedure α} {l : Moment → Procedure β}
      (next : ∀ m, Echoes n f (k m) (l (m.later n))) : Echoes n f (now k) (now l)
  | reach (m : Milestone) {k : Progress → Procedure α} {l : Progress → Procedure β}
      (next : ∀ p, Echoes n f (k p) (l (p.later n))) : Echoes n f (reach m k) (reach m l)
  | pause (d : Span) {k : Procedure α} {l : Procedure β} (next : Echoes n f k l) :
      Echoes n f (pause d k) (pause d l)
  | ask (c : Agent.Call) {k : c.Answer → Procedure α} {l : c.Answer → Procedure β}
      (next : ∀ a, Echoes n f (k a) (l a)) : Echoes n f (ask c k) (ask c l)

theorem run_later {f : α → β} {p : Procedure α} {q : Procedure β} (h : p.Echoes n f q)
    (agents : Agents σ) (w : World σ) :
    q.run agents (w.later n) = (p.run agents w).later n f := by
  -- On how the trees match: nothing but the clock tells the two worlds apart at any node.
  induction h generalizing w with
  | done a => rfl
  | fail e => rfl
  | stall => rfl
  | now next ih =>
    rw [run, World.moment_later]
    exact ih w.moment w
  | reach m next ih =>
    simp only [run]
    rw [World.stamp_later, show (w.later n).progress = w.progress.later n from rfl,
      Progress.advance_later]
    cases w.progress.advance m w.stamp with
    | ok p => exact ih p { w with progress := p }
    | error e => rfl
  | pause d next ih =>
    simp only [run]
    rw [World.wait_later]
    rcases w.wait (ticksOf d) with ⟨i | i, w'⟩
    · exact ih w'
    · rfl
  | @ask c k l next ih =>
    have hlater := w.called_later (n := n) agents c
    have hr := run_ask agents w c k
    generalize (Procedure.ask c k).run agents w = r at hr ⊢
    cases hr with
    | cut i w' called =>
      rw [called] at hlater
      exact run_ask_cut l hlater
    | failed e w' called error =>
      rw [called] at hlater
      exact run_ask_failed l hlater error
    | answered a w' called ok =>
      rw [called] at hlater
      rw [run_ask_answered l hlater ok, ih a w']
      rfl

theorem elapsed_later (since m : Moment) :
    elapsed (since.later n) (m.later n) = elapsed since m := by
  have htick : m.tick + n - (since.tick + n) = m.tick - since.tick := by omega
  simp only [elapsed, Moment.later, htick]

/-- The search knows only how long ago it began. -/
theorem echoes_look {f : α → β} (o : Options) (endpoint : String) (c : Correlation)
    (since : Moment) (looks : Nat) (polls : UInt32) {rest : Sighting → Procedure α}
    {rest' : Sighting → Procedure β} (hrest : ∀ seen, (rest seen).Echoes n f (rest' seen)) :
    ((look o endpoint c since looks polls).bind rest).Echoes n f
      ((look o endpoint c (since.later n) looks polls).bind rest') := by
  induction looks generalizing polls with
  | zero => exact .stall
  | succ looks ih =>
    rw [bind_look_succ, bind_look_succ]
    refine .ask _ fun listed => ?_
    cases c.select o.matching o.targetState listed with
    | some r => exact hrest _
    | none =>
      refine .now fun m => ?_
      rw [elapsed_later]
      cases o.backoff.next? polls.toNat (elapsed since m) with
      | none => exact .fail _
      | some d => exact .pause d (ih (polls + 1))

theorem echoes_handshake (o : Options) (endpoint : String) (stock : Nat) :
    (handshake o endpoint stock).Echoes n (Outcome.later n) (handshake o endpoint stock) := by
  rw [handshake_eq]
  refine .ask _ fun created => .reach _ fun _ => ?_
  refine .ask _ fun invitee => .reach _ fun _ => ?_
  refine .ask _ fun _ => .reach _ fun _ => .now fun since => ?_
  refine echoes_look _ _ _ _ _ _ fun seen => ?_
  refine .reach _ fun _ => .ask _ fun _ => .reach _ fun progress => .now fun finished => ?_
  exact .done _

theorem World.armed_later (w : World σ) (o : Options) (cancelAfter : Option Nat) :
    (w.later n).armed o cancelAfter = (w.armed o cancelAfter).later n := by
  have hadd : ∀ k, w.now + n + k = w.now + k + n := by omega
  have hprogress : Progress.begin (w.later n).stamp = (Progress.begin w.stamp).later n := by
    rw [World.stamp_later]
    rfl
  have hwatch : Watch.mk (w.now + n + ticksOf o.limit) (cancelAfter.map (w.now + n + ·)) =
      Watch.later n ⟨w.now + ticksOf o.limit, cancelAfter.map (w.now + ·)⟩ := by
    simp [Watch.later, hadd, Function.comp_def]
  rw [armed, hprogress]
  exact congrArg (fun g => World.mk (w.now + n) w.epoch w.agents _ (some g)) hwatch

/-- A run that begins later does the same later. -/
theorem perform_later (agents : Agents σ) (o : Options) (cancelAfter : Option Nat) (w : World σ) :
    perform agents o cancelAfter (w.later n) =
      (perform agents o cancelAfter w).later n (Outcome.later n) := by
  rw [perform_eq, perform_eq, World.armed_later]
  split
  · rfl
  · exact run_later (echoes_handshake ..) agents _

end Handshake

end Rendezvous
