import Rendezvous.Proofs.Handshake.Patience
import Rendezvous.Proofs.Handshake.Unwatched

/-! The handshake step by step. Five operations, one after the other, do what a run does that is not
interrupted: the limit, the watch and the progress that a run keeps make no difference to a call. -/

namespace Rendezvous.Handshake

open Procedure

variable {σ α β γ : Type} {agents : Agents σ} {w : World σ}

def Run.andThen (r : Run σ α) (f : α → World σ → Run σ β) : Run σ β :=
  match r.ending with
  | .done a => ⟨r.calls ++ (f a r.world).calls, (f a r.world).ending, (f a r.world).world⟩
  | .failed e => ⟨r.calls, .failed e, r.world⟩
  | .interrupted i => ⟨r.calls, .interrupted i, r.world⟩
  | .endless => ⟨r.calls, .endless, r.world⟩

theorem Run.andThen_cons (e : Logged) (r : Run σ α) (f : α → World σ → Run σ β) :
    Run.andThen ⟨e :: r.calls, r.ending, r.world⟩ f =
      ⟨e :: (r.andThen f).calls, (r.andThen f).ending, (r.andThen f).world⟩ := by
  simp only [andThen]
  cases r.ending <;> rfl

theorem run_bind (agents : Agents σ) (p : Procedure α) (f : α → Procedure β) (w : World σ) :
    (p.bind f).run agents w = (p.run agents w).andThen fun a w' => (f a).run agents w' := by
  induction p generalizing w with
  | done a => rfl
  | fail e => rfl
  | stall => rfl
  | now k ih => exact ih w.moment w
  | reach m k ih =>
    simp only [Procedure.bind, run]
    cases w.progress.advance m w.stamp with
    | ok p => exact ih p { w with progress := p }
    | error e => rfl
  | pause d k ih =>
    simp only [Procedure.bind, run]
    rcases w.wait (ticksOf d) with ⟨i | i, w'⟩
    · exact ih w'
    · rfl
  | ask c k ih =>
    have hr := run_ask agents w c k
    generalize (ask c k).run agents w = r at hr ⊢
    rw [Procedure.bind]
    cases hr with
    | cut i w' called => exact run_ask_cut _ called
    | failed f w' called error => exact run_ask_failed _ called error
    | answered a w' called ok => rw [run_ask_answered _ called ok, ih a w', Run.andThen_cons]

/-- No milestone is reached on the way. -/
inductive Procedure.Steady : Procedure α → Prop
  | done (a : α) : Steady (done a)
  | fail (f : Failure) : Steady (fail f)
  | stall : Steady stall
  | now {k : Moment → Procedure α} (next : ∀ m, Steady (k m)) : Steady (now k)
  | pause (d : Span) {k : Procedure α} (next : Steady k) : Steady (pause d k)
  | ask (c : Agent.Call) {k : c.Answer → Procedure α} (next : ∀ a, Steady (k a)) : Steady (ask c k)

theorem steady_call (c : Agent.Call) : (call c).Steady := .ask c fun a => .done a

theorem steady_look (o : Options) (endpoint : String) (c : Correlation) (since : Moment)
    (looks : Nat) (polls : UInt32) : (look o endpoint c since looks polls).Steady := by
  induction looks generalizing polls with
  | zero => exact .stall
  | succ looks ih =>
    rw [← bind_done (look o endpoint c since (looks + 1) polls), bind_look_succ]
    refine .ask _ fun listed => ?_
    cases c.select o.matching o.targetState listed with
    | some r => exact .done _
    | none =>
      refine .now fun m => ?_
      cases o.backoff.next? polls.toNat (elapsed since m) with
      | none => exact .fail _
      | some d =>
        simp only [bind_done]
        exact .pause d (ih (polls + 1))

theorem steady_awaitRequest (o : Options) (endpoint : String) (stock : Nat) (c : Correlation) :
    (awaitRequest o endpoint stock c).Steady :=
  .now fun since => steady_look o endpoint c since _ 0

def World.midway (w : World σ) (p : Progress) : World σ := { w with progress := p, watch := none }

/-- A step within a handshake is the step by itself. -/
theorem run_midway {p : Procedure α} (h : p.Steady) (agents : Agents σ) (w : World σ)
    (q : Progress) :
    p.run agents (w.midway q) =
      ⟨(performStep agents p w).calls, (performStep agents p w).ending,
        (performStep agents p w).world.midway q⟩ := by
  induction h generalizing w with
  | done a => rfl
  | fail f => rfl
  | stall => rfl
  | now next ih => exact ih w.moment w
  | @pause d k next ih =>
    have hmidway : (pause d k).run agents (w.midway q) =
        k.run agents ({ w with now := w.now + ticksOf d }.midway q) :=
      run_pause_of_unwatched agents rfl d k
    have hstep : performStep agents (pause d k) w =
        performStep agents k { w with now := w.now + ticksOf d } :=
      run_pause_of_unwatched agents rfl d k
    rw [hmidway, hstep, ih]
  | @ask c k next ih =>
    have hmidway := World.called_of_unwatched agents (w := w.midway q) rfl c
    have hstep := World.called_of_unwatched agents (w := w.unwatched) rfl c
    cases ha : (agents.ask c w.agents).1.answer with
    | error f =>
      rw [performStep_eq, run_ask_failed k hmidway ha, run_ask_failed k hstep ha]
      rfl
    | ok a =>
      have hanswered : (w.midway q).answered agents c = (w.answered agents c).midway q := rfl
      rw [performStep_eq, run_ask_answered k hmidway ha, run_ask_answered k hstep ha, hanswered,
        ih a (w.answered agents c)]
      rfl

/-- The second performance makes the same calls at the same times as the first one, and comes to
what `f` makes of the first one's ending. -/
structure MapsEnding (f : α → β) (r : Run σ α) (q : Run σ β) : Prop where
  calls : q.calls = r.calls
  ending : q.ending = r.ending.map f
  now : q.world.now = r.world.now
  agents : q.world.agents = r.world.agents

section Steps

variable {m : β → γ} {q : Progress}

/-- A step is taken on both sides. -/
theorem MapsEnding.step {p : Procedure α} (hp : p.Steady) {f : α → Procedure β}
    {g : α → World σ → Run σ γ}
    (next : ∀ a v, v.agents = (performStep agents p w).world.agents →
      MapsEnding m ((f a).run agents (v.midway q)) (g a v)) :
    MapsEnding m ((p.bind f).run agents (w.midway q)) ((performStep agents p w).andThen g) := by
  rw [run_bind, run_midway hp]
  simp only [Run.andThen]
  cases (performStep agents p w).ending with
  | done a =>
    have h := next a (performStep agents p w).world rfl
    exact ⟨congrArg _ h.calls, h.ending, h.now, h.agents⟩
  | failed e => exact ⟨rfl, rfl, rfl, rfl⟩
  | interrupted i => exact ⟨rfl, rfl, rfl, rfl⟩
  | endless => exact ⟨rfl, rfl, rfl, rfl⟩

/-- A milestone is reached on the way through the handshake only. -/
theorem MapsEnding.milestone {n : Milestone} (hn : q.milestone.next? = some n)
    {k : Progress → Procedure β} {r : Run σ γ}
    (next : ∀ q', q'.milestone = n → MapsEnding m ((k q').run agents (w.midway q')) r) :
    MapsEnding m ((reach n k).run agents (w.midway q)) r := by
  obtain ⟨q', hq', hr⟩ := run_reach agents (w := w.midway q) k hn
  rw [hr]
  exact next q' hq'

end Steps

/-- What two agents get from a handshake, apart from when. -/
structure Meeting where
  inviter : ConnectionId .inviter
  invitee : ConnectionId .invitee
  /-- The number of times that the inviter's connections were listed. -/
  polls : UInt32
deriving DecidableEq

def Outcome.meeting (out : Outcome) : Meeting := ⟨out.inviter, out.invitee, out.polls⟩

/-- The five operations one after the other, each with what the earlier ones have brought. -/
def performSteps (agents : Agents σ) (o : Options) (w : World σ) : Run σ Meeting :=
  (performStep agents (createInvitation o) w).andThen fun created w₁ =>
    (performStep agents (receiveInvitation o created.invitation) w₁).andThen fun invitee w₂ =>
      (performStep agents (acceptInvitation o invitee) w₂).andThen fun _ w₃ =>
        (performStep agents (awaitRequest o (agents.endpoint .inviter) (agents.stock w₃.agents)
            ⟨created.connection, o.aliasName⟩) w₃).andThen fun seen w₄ =>
          (performStep agents (acceptRequest seen.connection) w₄).andThen fun _ w₅ =>
            ⟨[], .done ⟨seen.connection, invitee, seen.polls⟩, w₅⟩

/-- A call leaves the agents as its reply says. -/
theorem performStep_call_agents (agents : Agents σ) (c : Agent.Call) (w : World σ) :
    (performStep agents (call c) w).world.agents = (agents.ask c w.agents).2 := by
  have hcalled := World.called_of_unwatched agents (w := w.unwatched) rfl c
  cases ha : (agents.ask c w.agents).1.answer with
  | error f =>
    rw [performStep_eq, call, run_ask_failed _ hcalled ha]
    rfl
  | ok a =>
    rw [performStep_eq, call, run_ask_answered _ hcalled ha]
    rfl

section Stock

-- The listings in stock are used up by listings only.
variable (hstock : ∀ c s, stepOf c ≠ .awaitRequest →
  agents.stock (agents.ask c s).2 = agents.stock s)

include hstock

/-- A handshake that nobody watches takes the five steps. -/
theorem mapsEnding_handshake (o : Options) (w : World σ) (q : Progress)
    (hq : q.milestone = .start) :
    MapsEnding Outcome.meeting
      ((handshake o (agents.endpoint .inviter) (agents.stock w.agents)).run agents (w.midway q))
      (performSteps agents o w) := by
  have hkept : ∀ (c : Agent.Call) (v v' : World σ), stepOf c ≠ .awaitRequest →
      v'.agents = (performStep agents (call c) v).world.agents →
      agents.stock v'.agents = agents.stock v.agents := by
    intro c v v' hc hv
    rw [hv, performStep_call_agents, hstock c v.agents hc]
  -- A step is taken on both sides, a milestone is reached on one.
  refine .step (steady_call _) fun created w₁ h₁ => ?_
  refine .milestone (by rw [hq]; rfl) fun q₁ hq₁ => ?_
  refine .step (steady_call _) fun invitee w₂ h₂ => ?_
  refine .milestone (by rw [hq₁]; rfl) fun q₂ hq₂ => ?_
  refine .step (steady_call _) fun _ w₃ h₃ => ?_
  refine .milestone (by rw [hq₂]; rfl) fun q₃ hq₃ => ?_
  have hw : agents.stock w₃.agents = agents.stock w.agents := by
    rw [hkept _ _ _ (by simp [stepOf]) h₃, hkept _ _ _ (by simp [stepOf]) h₂,
      hkept _ _ _ (by simp [stepOf]) h₁]
  rw [hw]
  refine .step (steady_awaitRequest ..) fun seen w₄ _ => ?_
  refine .milestone (by rw [hq₃]; rfl) fun q₄ hq₄ => ?_
  refine .step (steady_call _) fun _ w₅ _ => ?_
  refine .milestone (by rw [hq₄]; rfl) fun q₅ _ => ?_
  exact ⟨rfl, rfl, rfl, rfl⟩

/-- So does a run, if nothing cuts it short. -/
theorem mapsEnding_perform (o : Options) (cancelAfter : Option Nat) (w : World σ)
    (hquiet : ∀ i, (perform agents o cancelAfter w).ending ≠ .interrupted i) :
    MapsEnding Outcome.meeting (perform agents o cancelAfter w) (performSteps agents o w) := by
  rw [perform_eq] at hquiet ⊢
  by_cases hcancel : cancelAfter = some 0
  · rw [if_pos hcancel] at hquiet
    exact absurd rfl (hquiet .cancelled)
  · rw [if_neg hcancel] at hquiet ⊢
    have hsteps := mapsEnding_handshake hstock o w (.begin w.stamp) rfl
    have hrun := run_unwatched _ (w.armed o cancelAfter) hquiet
    rw [show w.midway (.begin w.stamp) = (w.armed o cancelAfter).unwatched from rfl, hrun] at hsteps
    exact ⟨hsteps.calls, hsteps.ending, hsteps.now, hsteps.agents⟩

end Stock

/-- Listings alone go through the listings that a script has in stock. -/
theorem stock_reply (endpoint : Side → String) (c : Agent.Call) (s : Agent.Script)
    (hc : stepOf c ≠ .awaitRequest) :
    (Agent.Script.agents endpoint).stock ((Agent.Script.agents endpoint).ask c s).2 =
      (Agent.Script.agents endpoint).stock s := by
  cases c with
  | listConnections a => exact absurd rfl hc
  | _ => rfl

/-- A run that is neither out of time nor cancelled makes the same calls at the same times as the
five operations by themselves, and comes to what they come to. -/
theorem run_agrees_with_steps (endpoint : Side → String) (o : Options) (cancelAfter : Option Nat)
    (w : World Agent.Script) :
    let r := perform (Agent.Script.agents endpoint) o cancelAfter w
    let q := performSteps (Agent.Script.agents endpoint) o w
    (∀ l m, r.result o.limit ≠ some (.error (.outOfTime l m))) →
      (∀ m, r.result o.limit ≠ some (.error (.cancelled m))) →
      q.calls = r.calls ∧ q.world.now = r.world.now ∧ q.world.agents = r.world.agents ∧
        q.result o.limit = (r.result o.limit).map (Except.map Outcome.meeting) := by
  intro r q htime hcancel
  have hquiet : ∀ i, r.ending ≠ .interrupted i := by
    intro i
    cases i with
    | timedOut => exact Run.ending_ne_timedOut htime
    | cancelled => exact Run.ending_ne_cancelled hcancel
  have h : MapsEnding Outcome.meeting r q :=
    mapsEnding_perform (stock_reply endpoint) o cancelAfter w hquiet
  exact ⟨h.calls, h.now, h.agents,
    Run.result_map o.limit h.ending fun i hi => absurd hi (hquiet i)⟩

/-- The invitation takes its time, and the request arrives after the first look. -/
def lateWorld : World Agent.Script :=
  { quietWorld with
    agents := { quietScript with
      created := .always ⟨.ok ⟨⟨"inv-1"⟩, ⟨"{}"⟩⟩, 3, false⟩
      listed := ⟨⟨.ok [], 0, false⟩, [⟨.ok [.bare "inv-1" "request"], 2, false⟩]⟩ } }

theorem late_run_agrees_with_steps :
    let r := perform (Agent.Script.agents fun _ => "") hastyOptions none lateWorld
    let q := performSteps (Agent.Script.agents fun _ => "") hastyOptions lateWorld
    (∀ l m, r.result hastyOptions.limit ≠ some (.error (.outOfTime l m))) ∧
      (∀ m, r.result hastyOptions.limit ≠ some (.error (.cancelled m))) ∧
      q.calls = r.calls ∧ r.calls.map Logged.time = [0, 3, 3, 3, 13, 15] ∧
      q.result hastyOptions.limit = some (.ok ⟨⟨"inv-1"⟩, ⟨"agt-2"⟩, 2⟩) := by
  intro r q
  have hending : r.ending.map Outcome.meeting = .done ⟨⟨"inv-1"⟩, ⟨"agt-2"⟩, 2⟩ := by
    decide +kernel
  have htimes : r.calls.map Logged.time = [0, 3, 3, 3, 13, 15] := by decide +kernel
  obtain ⟨out, hdone, hout⟩ := Ending.map_eq_done_iff.mp hending
  have hresult : r.result hastyOptions.limit = some (.ok out) := Run.result_eq_ok_iff.mpr hdone
  have htime : ∀ l m, r.result hastyOptions.limit ≠ some (.error (.outOfTime l m)) := by
    simp [hresult]
  have hcancel : ∀ m, r.result hastyOptions.limit ≠ some (.error (.cancelled m)) := by
    simp [hresult]
  obtain ⟨hcalls, -, -, hq⟩ :=
    run_agrees_with_steps (fun _ => "") hastyOptions none lateWorld htime hcancel
  refine ⟨htime, hcancel, hcalls, htimes, hq.trans ?_⟩
  rw [hresult, Option.map_some, Except.map, hout]

end Rendezvous.Handshake
