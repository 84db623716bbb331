import Rendezvous.Proofs.Handshake.Interruption
import Rendezvous.Proofs.Handshake.Later
import Rendezvous.Proofs.Handshake.Transitions

/-! The history that a handshake keeps is the true one: a milestone is set down when the last call
of its step has just been answered, and nothing else is. -/

namespace Rendezvous.Handshake

open Procedure

variable {σ : Type}

/-! ### Steps and transitions -/

namespace Step

def source : Step → Milestone
  | createInvitation => .start
  | receiveInvitation => .invitationCreated
  | acceptInvitation => .invitationReceived
  | awaitRequest => .inviteeAccepted
  | acceptRequest => .requestObserved

def target : Step → Milestone
  | createInvitation => .invitationCreated
  | receiveInvitation => .invitationReceived
  | acceptInvitation => .inviteeAccepted
  | awaitRequest => .requestObserved
  | acceptRequest => .finalized

def transition (s : Step) (time : Stamp) : Transition := ⟨s.source, s.target, time⟩

theorem map_ends_inOrder : inOrder.map (fun s => (s.source, s.target)) = Milestone.forward := rfl

theorem next?_source (s : Step) : s.source.next? = some s.target := by
  cases s <;> rfl

theorem take_target (s : Step) :
    inOrder.take s.target.index = inOrder.take s.source.index ++ [s] := by
  cases s <;> rfl

theorem not_mem_take_source (s : Step) : s ∉ inOrder.take s.source.index := by
  cases s <;> decide

end Step

/-! ### The last call of a step -/

def lastOf (s : Step) (xs : List Exchange) : Option Exchange :=
  xs.reverse.find? fun x => x.step = s

/-- When each step before a milestone came to its end. -/
def historyOf (epoch : Stamp) (xs : List Exchange) (m : Milestone) : List Transition :=
  (Step.inOrder.take m.index).filterMap fun s =>
    (lastOf s xs).map fun x => s.transition (epoch.addMillis x.due)

/-- The last call of each step before a milestone is the one that completed it. -/
def Concluded (o : Options) (own : Option (ConnectionId .inviter)) (now : Nat) (m : Milestone)
    (xs : List Exchange) : Prop :=
  ∀ s ∈ Step.inOrder.take m.index, ∃ x, lastOf s xs = some x ∧ x.completes o own now = true

section Last

variable {o : Options} {own : Option (ConnectionId .inviter)} {now : Nat} {epoch : Stamp}
  {s : Step} {m : Milestone} {x : Exchange} {xs : List Exchange}

theorem lastOf_concat_of_eq (xs : List Exchange) (h : x.step = s) :
    lastOf s (xs ++ [x]) = some x := by
  simp [lastOf, h]

theorem lastOf_concat_of_ne (xs : List Exchange) (h : x.step ≠ s) :
    lastOf s (xs ++ [x]) = lastOf s xs := by
  simp [lastOf, h]

/-- A call of a step that is not over has no part in the history. -/
theorem historyOf_concat (epoch : Stamp) (xs : List Exchange)
    (h : x.step ∉ Step.inOrder.take m.index) :
    historyOf epoch (xs ++ [x]) m = historyOf epoch xs m := by
  apply List.filterMap_congr
  intro s hs
  have hne : x.step ≠ s := fun heq => h (heq ▸ hs)
  rw [lastOf_concat_of_ne xs hne]

theorem historyOf_target (epoch : Stamp) (h : lastOf s xs = some x) :
    historyOf epoch xs s.target =
      historyOf epoch xs s.source ++ [s.transition (epoch.addMillis x.due)] := by
  rw [historyOf, s.take_target, List.filterMap_append]
  simp [historyOf, h]

theorem Concluded.concat (h : Concluded o own now m xs)
    (hx : x.step ∉ Step.inOrder.take m.index) : Concluded o own now m (xs ++ [x]) := by
  intro s hs
  have hne : x.step ≠ s := fun heq => hx (heq ▸ hs)
  rw [lastOf_concat_of_ne xs hne]
  exact h s hs

theorem Concluded.target (h : Concluded o own now s.source xs) (hs : x.step = s)
    (hx : x.completes o own now = true) : Concluded o own now s.target (xs ++ [x]) := by
  intro s' hs'
  rw [s.take_target, List.mem_append, List.mem_singleton] at hs'
  rcases hs' with hs' | rfl
  · exact h.concat (hs ▸ s.not_mem_take_source) s' hs'
  · exact ⟨x, lastOf_concat_of_eq xs hs, hx⟩

theorem Reached.concluded {g : Stage} (h : Reached o xs g)
    (hown : ∀ c, g.own? = some c → own = some c.connection) (hdue : ∀ x ∈ xs, x.due ≤ now) :
    Concluded o own now g.milestone xs := by
  induction h with
  | begun => simp [Concluded, Stage.milestone, Milestone.index]
  | created hb =>
    have hfirst : Concluded o own now Step.createInvitation.source [] := by
      simp [Concluded, Step.source, Milestone.index]
    exact hfirst.target hb.step_eq
      (Exchange.completes_of_brings hb (hdue _ (by simp)) (by simp [stepOf]))
  | received _ hb ih =>
    have hpast := ih hown fun x hx => hdue x (by simp [hx])
    exact hpast.target (s := .receiveInvitation) hb.step_eq
      (Exchange.completes_of_brings hb (hdue _ (by simp)) (by simp [stepOf]))
  | accepted _ hb ih =>
    have hpast := ih hown fun x hx => hdue x (by simp [hx])
    exact hpast.target (s := .acceptInvitation) hb.step_eq
      (Exchange.completes_of_brings hb (hdue _ (by simp)) (by simp [stepOf]))
  | unmatched _ hb _ ih =>
    have hpast := ih hown fun x hx => hdue x (by simp [hx])
    refine hpast.concat ?_
    rw [hb.step_eq]
    exact Step.awaitRequest.not_mem_take_source
  | @observed xs x c _ _ listed record _ hb hsome ih =>
    have hpast := ih hown fun x hx => hdue x (by simp [hx])
    refine hpast.target (s := .awaitRequest) hb.step_eq ?_
    rw [hown c rfl, Exchange.completes_listing hb (hdue x (by simp)), hsome]
    rfl
  | completed _ hb ih =>
    have hpast := ih hown fun x hx => hdue x (by simp [hx])
    exact hpast.target (s := .acceptRequest) hb.step_eq
      (Exchange.completes_of_brings hb (hdue _ (by simp)) (by simp [stepOf]))

end Last

/-! ### What the world keeps -/

def Timely (ts : List Stamp) : Prop := ts.Pairwise fun s t => s.nanos ≤ t.nanos

theorem timely_concat_iff {ts : List Stamp} {t : Stamp} :
    Timely (ts ++ [t]) ↔ Timely ts ∧ ∀ s ∈ ts, s.nanos ≤ t.nanos := by
  simp [Timely, List.pairwise_append]

def Progress.times (p : Progress) : List Stamp := p.startedAt :: p.transitions.map Transition.time

/-- The progress in a world is the true history of a handshake that began at `start`. -/
structure Records (epoch start : Stamp) (xs : List Exchange) (m : Milestone) (w : World σ) :
    Prop where
  epoch_eq : w.epoch = epoch
  startedAt : w.progress.startedAt = start
  milestone : w.progress.milestone = m
  transitions : w.progress.transitions = historyOf epoch xs m
  timely : Timely (w.progress.times ++ [w.stamp])

namespace Records

variable {epoch start : Stamp} {xs : List Exchange} {m : Milestone} {w w' : World σ}

/-- Only time goes by. -/
theorem later (h : Records epoch start xs m w) (hepoch : w'.epoch = w.epoch)
    (hprogress : w'.progress = w.progress) (hnow : w.now ≤ w'.now) :
    Records epoch start xs m w' := by
  obtain ⟨hsorted, hlast⟩ := timely_concat_iff.mp h.timely
  refine ⟨hepoch.trans h.epoch_eq, by rw [hprogress, h.startedAt], by rw [hprogress, h.milestone],
    by rw [hprogress, h.transitions], ?_⟩
  rw [hprogress, timely_concat_iff]
  refine ⟨hsorted, fun s hs => Nat.le_trans (hlast s hs) ?_⟩
  simp only [World.stamp, Stamp.addMillis, hepoch]
  omega

theorem concat {x : Exchange} (h : Records epoch start xs m w)
    (hx : x.step ∉ Step.inOrder.take m.index) : Records epoch start (xs ++ [x]) m w :=
  ⟨h.epoch_eq, h.startedAt, h.milestone, by rw [historyOf_concat epoch xs hx, h.transitions],
    h.timely⟩

/-- A milestone is set down just when the last call of its step has been answered. -/
theorem target {s : Step} {x : Exchange} (h : Records epoch start xs s.source w)
    (hlast : lastOf s xs = some x) (hdue : x.due = w.now) :
    ∃ p, w.progress.advance s.target w.stamp = .ok p ∧
      Records epoch start xs s.target { w with progress := p } := by
  have hnext : w.progress.milestone.next? = some s.target := by
    rw [h.milestone, s.next?_source]
  have htransition : (⟨w.progress.milestone, s.target, w.stamp⟩ : Transition) =
      s.transition (epoch.addMillis x.due) := by
    rw [h.milestone, hdue, World.stamp, h.epoch_eq]
    rfl
  obtain ⟨-, hpast⟩ := timely_concat_iff.mp h.timely
  refine ⟨_, if_pos hnext, h.epoch_eq, h.startedAt, rfl, ?_, ?_⟩
  · dsimp only
    rw [historyOf_target epoch hlast, ← h.transitions, htransition]
  · simp only [Progress.times, List.map_append, List.map_singleton]
    rw [← List.cons_append, timely_concat_iff]
    refine ⟨h.timely, fun t ht => ?_⟩
    rcases List.mem_append.mp ht with ht | ht
    · exact hpast t ht
    · rw [List.mem_singleton.mp ht]
      exact Nat.le_refl _

end Records

theorem World.epoch_of_called {agents : Agents σ} {w w' : World σ} {c : Agent.Call}
    {i : Option Interruption} (h : w.called agents c = (i, w')) : w'.epoch = w.epoch := by
  have hw := (w.ask agents c).2.waits (agents.ask c w.agents).1.latency
  unfold called at h
  rw [h] at hw
  cases hw <;> rfl

/-! ### Performances -/

/-- However it ends, a performance keeps the true history of the exchanges `xs`, which an outcome
holds. Its last call is answered as it ends. -/
structure RecordsHistory (epoch start : Stamp) (xs : List Exchange) (r : Run σ Outcome) : Prop where
  records : Records epoch start xs r.world.progress.milestone r.world
  outcome : ∀ out, r.ending = .done out → out.final = r.world.progress.milestone ∧
    out.startedAt = r.world.progress.startedAt ∧
    out.transitions = r.world.progress.transitions ∧ out.finishedAt = r.world.stamp ∧
    ∃ x, lastOf .acceptRequest xs = some x ∧ x.due = r.world.now

theorem RecordsHistory.of_records {epoch start : Stamp} {xs : List Exchange} {m : Milestone}
    {r : Run σ Outcome} (hr : Records epoch start xs m r.world)
    (hending : ∀ out, r.ending ≠ .done out) : RecordsHistory epoch start xs r := by
  refine ⟨?_, fun out hout => absurd hout (hending out)⟩
  rw [hr.milestone]
  exact hr

/-- A procedure keeps the true history after the exchanges `before`. -/
def KeepsHistory (agents : Agents σ) (epoch start : Stamp) (before : List Exchange) (w : World σ)
    (p : Procedure Outcome) : Prop :=
  RecordsHistory epoch start (before ++ transcript agents w.agents (p.run agents w).calls)
    (p.run agents w)

namespace KeepsHistory

variable {agents : Agents σ} {epoch start : Stamp} {xs : List Exchange} {m : Milestone}
  {w : World σ}

/-- A procedure that ends without an outcome or another call. -/
theorem of_silent {p : Procedure Outcome} (hr : Records epoch start xs m (p.run agents w).world)
    (hcalls : (p.run agents w).calls = []) (hending : ∀ out, (p.run agents w).ending ≠ .done out) :
    KeepsHistory agents epoch start xs w p := by
  refine RecordsHistory.of_records (m := m) ?_ hending
  rw [hcalls]
  simpa [transcript] using hr

theorem done {x : Exchange} {out : Outcome} (hr : Records epoch start xs m w)
    (hlast : lastOf .acceptRequest xs = some x) (hdue : x.due = w.now)
    (hfinal : out.final = w.progress.milestone) (hstart : out.startedAt = w.progress.startedAt)
    (htransitions : out.transitions = w.progress.transitions) (hfinish : out.finishedAt = w.stamp) :
    KeepsHistory agents epoch start xs w (.done out) := by
  constructor
  · rw [run, hr.milestone]
    simpa [transcript] using hr
  · intro out' hout
    cases hout
    exact ⟨hfinal, hstart, htransitions, hfinish, x, by simpa [run, transcript] using hlast, hdue⟩

theorem ask {s : Step} {c : Agent.Call} {k : c.Answer → Procedure Outcome}
    (hr : Records epoch start xs s.source w) (hc : stepOf c = s)
    (hk : ∀ x a w', x.step = s → x.due = w'.now → Records epoch start (xs ++ [x]) s.source w' →
      KeepsHistory agents epoch start (xs ++ [x]) w' (k a)) :
    KeepsHistory agents epoch start xs w (.ask c k) := by
  have h := run_ask agents w c k
  unfold KeepsHistory
  generalize (Procedure.ask c k).run agents w = r at h ⊢
  have hnext : ∀ {i w'}, w.called agents c = (i, w') →
      Records epoch start (xs ++ [⟨w.now, c, (agents.ask c w.agents).1⟩]) s.source w' := by
    intro i w' called
    have hopen : stepOf c ∉ Step.inOrder.take s.source.index := hc ▸ s.not_mem_take_source
    have after := World.after_of_called called
    have hlater := hr.later (World.epoch_of_called called) after.progress after.now_le
    exact hlater.concat hopen
  cases h with
  | cut i w' called => exact .of_records (hnext called) nofun
  | failed f w' called error => exact .of_records (hnext called) nofun
  | answered a w' called ok =>
    have after := World.after_of_called called
    have hrest := hk ⟨w.now, c, (agents.ask c w.agents).1⟩ a w' hc (after.late rfl).symm
      (hnext called)
    have htranscript :
        xs ++ transcript agents w.agents (⟨w.now, c⟩ :: ((k a).run agents w').calls) =
          xs ++ [⟨w.now, c, (agents.ask c w.agents).1⟩] ++
            transcript agents w'.agents ((k a).run agents w').calls := by
      rw [transcript, ← after.agents, List.append_assoc]
      rfl
    rw [htranscript]
    exact ⟨hrest.records, hrest.outcome⟩

theorem reach {s : Step} {x : Exchange} {k : Progress → Procedure Outcome}
    (hr : Records epoch start xs s.source w) (hlast : lastOf s xs = some x) (hdue : x.due = w.now)
    (hk : ∀ p : Progress, Records epoch start xs s.target { w with progress := p } →
      KeepsHistory agents epoch start xs { w with progress := p } (k p)) :
    KeepsHistory agents epoch start xs w (.reach s.target k) := by
  obtain ⟨p, hp, hnext⟩ := hr.target hlast hdue
  have hrun : (Procedure.reach s.target k).run agents w =
      (k p).run agents { w with progress := p } := by
    simp only [run, hp]
  have hrest := hk p hnext
  unfold KeepsHistory at hrest ⊢
  rw [hrun]
  exact hrest

theorem now {k : Moment → Procedure Outcome}
    (hk : KeepsHistory agents epoch start xs w (k w.moment)) :
    KeepsHistory agents epoch start xs w (.now k) := hk

theorem pause {d : Span} {k : Procedure Outcome} (hr : Records epoch start xs m w)
    (hk : ∀ w' : World σ, Records epoch start xs m w' → KeepsHistory agents epoch start xs w' k) :
    KeepsHistory agents epoch start xs w (.pause d k) := by
  rcases run_pause agents w d k with ⟨i, t, hle, -, hrun⟩ | hrun
  · have hlater : Records epoch start xs m { w with now := t } := hr.later rfl rfl hle
    exact of_silent (by rw [hrun]; exact hlater) (by rw [hrun]) (by rw [hrun]; nofun)
  · have hrest := hk { w with now := w.now + ticksOf d } (hr.later rfl rfl (Nat.le_add_right ..))
    unfold KeepsHistory at hrest ⊢
    rw [hrun]
    exact hrest

end KeepsHistory

/-- The search sets nothing down, however often it looks. -/
theorem keepsHistory_look {o : Options} {agents : Agents σ} {epoch start : Stamp} {c : Correlation}
    {endpoint : String} {since : Moment} {rest : Sighting → Procedure Outcome}
    (hrest : ∀ xs x seen, ∀ w : World σ, lastOf .awaitRequest xs = some x → x.due = w.now →
      Records epoch start xs .inviteeAccepted w → KeepsHistory agents epoch start xs w (rest seen))
    (looks : Nat) (polls : UInt32) (xs : List Exchange) (w : World σ)
    (hr : Records epoch start xs .inviteeAccepted w) :
    KeepsHistory agents epoch start xs w ((look o endpoint c since looks polls).bind rest) := by
  induction looks generalizing polls xs w with
  | zero => exact .of_silent hr rfl nofun
  | succ looks ih =>
    rw [bind_look_succ]
    -- The history stays the same over a listing: its step is still open.
    apply KeepsHistory.ask (s := .awaitRequest) hr rfl
    intro x listed w₁ hstep hdue hr₁
    cases c.select o.matching o.targetState listed with
    | some record => exact hrest _ x _ _ (lastOf_concat_of_eq xs hstep) hdue hr₁
    | none =>
      apply KeepsHistory.now
      split
      · exact .of_silent hr₁ rfl nofun
      · exact .pause hr₁ fun w₂ hr₂ => ih _ _ _ hr₂

theorem keepsHistory_acceptSeen {agents : Agents σ} {epoch start : Stamp}
    {invitee : ConnectionId .invitee} (xs : List Exchange) (x : Exchange) (seen : Sighting)
    (w : World σ) (hlast : lastOf .awaitRequest xs = some x) (hdue : x.due = w.now)
    (hr : Records epoch start xs .inviteeAccepted w) :
    KeepsHistory agents epoch start xs w (acceptSeen invitee seen) := by
  apply KeepsHistory.reach (s := .awaitRequest) hr hlast hdue
  intro p hr
  apply KeepsHistory.ask (s := .acceptRequest) hr rfl
  intro x _ w₁ hstep hdue hr
  have hlast := lastOf_concat_of_eq xs hstep
  apply KeepsHistory.reach (s := .acceptRequest) hr hlast hdue
  intro p hr
  apply KeepsHistory.now
  exact .done hr hlast hdue rfl rfl rfl rfl

theorem keepsHistory_handshake (o : Options) (agents : Agents σ) (endpoint : String) (stock : Nat)
    {epoch start : Stamp} {w : World σ} (hr : Records epoch start [] .start w) :
    KeepsHistory agents epoch start [] w (handshake o endpoint stock) := by
  rw [handshake_eq]
  apply KeepsHistory.ask (s := .createInvitation) hr rfl
  intro x own w₁ hstep hdue hr
  apply KeepsHistory.reach (s := .createInvitation) hr (lastOf_concat_of_eq _ hstep) hdue
  intro p hr
  apply KeepsHistory.ask (s := .receiveInvitation) hr rfl
  intro x invitee w₂ hstep hdue hr
  apply KeepsHistory.reach (s := .receiveInvitation) hr (lastOf_concat_of_eq _ hstep) hdue
  intro p hr
  apply KeepsHistory.ask (s := .acceptInvitation) hr rfl
  intro x _ w₃ hstep hdue hr
  apply KeepsHistory.reach (s := .acceptInvitation) hr (lastOf_concat_of_eq _ hstep) hdue
  intro p hr
  apply KeepsHistory.now
  exact keepsHistory_look keepsHistory_acceptSeen _ 0 _ _ hr

/-! ### Outcomes -/

/-- The transition `t` is the one of the step `s`, made when `x`, the last call of that step, was
answered. It is the call that completed the step; of the listings it is the one with the record. -/
structure Marks (o : Options) (epoch : Stamp) (now : Nat) (xs : List Exchange) (s : Step)
    (t : Transition) (x : Exchange) : Prop where
  last : lastOf s xs = some x
  completes : x.completes o (ownConnection xs) now = true
  transition : t = s.transition (epoch.addMillis x.due)

/-- The outcome of a run `r` from the world `w` on, with the exchanges `xs`, is a true account
of it. -/
structure Outcome.TrueTo (o : Options) (w : World σ) (r : Run σ Outcome) (xs : List Exchange)
    (out : Outcome) : Prop where
  final : out.final = .finalized
  steps : out.transitions.map Transition.ends = Milestone.forward
  startedAt : out.startedAt = w.stamp
  marks : List.Forall₂ (fun s t => ∃ x, Marks o w.epoch r.world.now xs s t x) Step.inOrder
    out.transitions
  finishedAt : out.transitions.getLast?.map Transition.time = some out.finishedAt
  timely : Timely (out.startedAt :: out.transitions.map Transition.time ++ [out.finishedAt])
  duration : w.now ≤ r.world.now ∧
    out.finishedAt = out.startedAt.addMillis (r.world.now - w.now)

theorem Concluded.marks {o : Options} {now : Nat} {m : Milestone} {xs : List Exchange}
    (h : Concluded o (ownConnection xs) now m xs) (epoch : Stamp) :
    List.Forall₂ (fun s t => ∃ x, Marks o epoch now xs s t x) (Step.inOrder.take m.index)
      (historyOf epoch xs m) := by
  rw [Concluded] at h
  rw [historyOf]
  generalize Step.inOrder.take m.index = ss at h ⊢
  induction ss with
  | nil => exact .nil
  | cons s ss ih =>
    obtain ⟨x, hlast, hx⟩ := h s List.mem_cons_self
    have hrest := ih fun s' hs' => h s' (List.mem_cons_of_mem s hs')
    rw [List.filterMap_cons_some (by rw [hlast, Option.map_some])]
    exact .cons ⟨x, hlast, hx, rfl⟩ hrest

theorem ends_of_marks {o : Options} {epoch : Stamp} {now : Nat} {xs : List Exchange}
    {ss : List Step} {ts : List Transition}
    (h : List.Forall₂ (fun s t => ∃ x, Marks o epoch now xs s t x) ss ts) :
    ts.map Transition.ends = ss.map fun s => (s.source, s.target) := by
  induction h with
  | nil => rfl
  | cons hmarks _ ih =>
    obtain ⟨x, hx⟩ := hmarks
    rw [List.map_cons, List.map_cons, ih, hx.transition]
    rfl

theorem World.armed_records (w : World σ) (o : Options) (cancelAfter : Option Nat) :
    Records w.epoch w.stamp [] .start (w.armed o cancelAfter) :=
  ⟨rfl, rfl, rfl, rfl, by simp [Timely, Progress.times, armed, Progress.begin, stamp]⟩

/-- Whatever comes of a run, what it keeps is the true history. -/
theorem recordsHistory_perform (agents : Agents σ) (o : Options) (cancelAfter : Option Nat)
    (w : World σ) :
    RecordsHistory w.epoch w.stamp
      (transcript agents w.agents (perform agents o cancelAfter w).calls)
      (perform agents o cancelAfter w) := by
  have hr := w.armed_records o cancelAfter
  rw [perform_eq]
  by_cases hcancel : cancelAfter = some 0
  · rw [if_pos hcancel]
    exact .of_records hr nofun
  · rw [if_neg hcancel]
    exact keepsHistory_handshake o agents _ _ hr

theorem now_le_perform (agents : Agents σ) (o : Options) (cancelAfter : Option Nat) (w : World σ) :
    w.now ≤ (perform agents o cancelAfter w).world.now := by
  rw [perform_eq]
  by_cases hcancel : cancelAfter = some 0
  · rw [if_pos hcancel]
    exact Nat.le_refl _
  · rw [if_neg hcancel]
    exact now_le_run agents _ (w.armed o cancelAfter)

/-- A run that is done has completed each of its steps. -/
theorem Account.concluded {o : Options} {agents : Agents σ} {s : σ} {r : Run σ Outcome}
    {answered pending : List Exchange} {g : Stage} {out : Outcome}
    (h : Account o agents [] s r answered pending g) (hout : r.ending = .done out) :
    r.world.progress.milestone = .finalized ∧
      Concluded o (ownConnection (transcript agents s r.calls)) r.world.now .finalized
        (transcript agents s r.calls) := by
  have hr : Reached o answered g := by simpa using h.reached
  have hclosing := h.closing
  rw [hout] at hclosing
  cases hclosing with
  | @done own invitee seen =>
    have hown : ownConnection (answered ++ []) = some own.connection :=
      hr.ownConnection_eq rfl []
    rw [List.append_nil] at hown
    refine ⟨h.milestone, ?_⟩
    rw [h.exchanges, List.append_nil]
    refine hr.concluded (fun c hc => ?_) h.due
    cases hc
    exact hown

/-- What a successful run reports of its history is true: it has gone through the five steps, each
was over when its last call was answered, and the run took the time between its start and its
end. -/
theorem outcome_tells_history {agents : Agents σ} {o : Options} {cancelAfter : Option Nat}
    {w : World σ} {out : Outcome}
    (h : (perform agents o cancelAfter w).result o.limit = some (.ok out)) :
    out.TrueTo o w (perform agents o cancelAfter w)
      (transcript agents w.agents (perform agents o cancelAfter w).calls) := by
  have htells := recordsHistory_perform agents o cancelAfter w
  have hnow := now_le_perform agents o cancelAfter w
  rw [Run.result_eq_ok_iff] at h
  rcases perform_cases agents o cancelAfter w with
    ⟨-, -, hending, -⟩ | ⟨-, answered, pending, g, account⟩
  · rw [hending] at h
    cases h
  obtain ⟨hmilestone, hconcluded⟩ := account.concluded h
  generalize perform agents o cancelAfter w = r at *
  have hr := htells.records
  rw [hmilestone] at hr
  obtain ⟨hfinal, hstart, htransitions, hfinish, x, hlast, hdue⟩ := htells.outcome out h
  rw [hr.startedAt] at hstart
  rw [hr.transitions] at htransitions
  have hmarks := hconcluded.marks w.epoch
  rw [← htransitions] at hmarks
  have hstamp : r.world.stamp = w.epoch.addMillis r.world.now := by
    rw [World.stamp, hr.epoch_eq]
  -- The last transition is that of the call whose return ends the run.
  refine ⟨hfinal.trans hmilestone, (ends_of_marks hmarks).trans Step.map_ends_inOrder,
    hstart, hmarks, ?_, ?_, hnow, ?_⟩
  · have hhistory := historyOf_target (s := .acceptRequest) w.epoch hlast
    rw [htransitions, hfinish, hstamp, ← hdue]
    simp only [Step.target] at hhistory
    rw [hhistory]
    simp [Step.transition]
  · have htimely := hr.timely
    rw [Progress.times, hr.startedAt, hr.transitions] at htimely
    rwa [hstart, htransitions, hfinish]
  · rw [hfinish, hstart, hstamp, World.stamp, Stamp.addMillis_addMillis]
    congr 1
    omega

/-- A run in which every call takes its time, and whose request is seen at the second look. -/
def unhurriedWorld : World Agent.Script :=
  { quietWorld with
    now := 7
    agents :=
      { created := .always ⟨.ok ⟨⟨"inv-1"⟩, ⟨"{}"⟩⟩, 3, false⟩
        received := .always ⟨.ok ⟨"agt-2"⟩, 1, false⟩
        invitationAccepted := .always ⟨.ok (), 4, false⟩
        listed := ⟨⟨.ok [], 0, false⟩, [⟨.ok [.bare "inv-1" "request"], 2, false⟩]⟩
        requestAccepted := .always ⟨.ok (), 5, false⟩ } }

theorem unhurried_outcome_tells_history :
    let r := perform (Agent.Script.agents fun _ => "") hastyOptions none unhurriedWorld
    ∃ out, r.result hastyOptions.limit = some (.ok out) ∧
      out.TrueTo hastyOptions unhurriedWorld r
        (transcript (Agent.Script.agents fun _ => "") unhurriedWorld.agents r.calls) ∧
      out.transitions.map (fun t => t.time.nanos / 1000000) = [10, 11, 15, 27, 32] ∧
      r.world.now = 32 := by
  intro r
  have hnow : r.world.now = 32 := by decide +kernel
  have hending : r.ending = .done {
      inviter := ⟨"inv-1"⟩
      invitee := ⟨"agt-2"⟩
      final := .finalized
      transitions := [⟨.start, .invitationCreated, ⟨10000000⟩⟩,
        ⟨.invitationCreated, .invitationReceived, ⟨11000000⟩⟩,
        ⟨.invitationReceived, .inviteeAccepted, ⟨15000000⟩⟩,
        ⟨.inviteeAccepted, .requestObserved, ⟨27000000⟩⟩,
        ⟨.requestObserved, .finalized, ⟨32000000⟩⟩]
      polls := 2
      startedAt := ⟨7000000⟩
      finishedAt := ⟨32000000⟩ } := by decide +kernel
  have hresult : r.result hastyOptions.limit = some (.ok _) := Run.result_eq_ok_iff.mpr hending
  exact ⟨_, hresult, outcome_tells_history hresult, rfl, hnow⟩

end Rendezvous.Handshake
