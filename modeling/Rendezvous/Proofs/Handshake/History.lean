import Rendezvous.Proofs.Handshake.Exchange
import Rendezvous.Proofs.Handshake.Later
import Rendezvous.Proofs.Handshake.Limits

/-! What earlier operations leave behind. Whatever has been done with two agents, a run depends on
it only by the replies that are used up and the time that has gone by. -/

namespace Rendezvous.Handshake

variable {σ α : Type} {agents : Agents σ}

/-- What can be done with two agents: a whole run, and each of its steps by itself. -/
inductive Operation
  | run (cancelAfter : Option Nat)
  | createInvitation
  | receiveInvitation (invitation : Invitation)
  | acceptInvitation (connection : ConnectionId .invitee)
  | awaitRequest (correlation : Correlation)
  | acceptRequest (connection : ConnectionId .inviter)

/-- Calls that have been made, and the world that they have led to. -/
structure Past (σ : Type) where
  calls : List Logged
  world : World σ

def Run.past (r : Run σ α) : Past σ := ⟨r.calls, r.world⟩

def Operation.perform (agents : Agents σ) (o : Options) (w : World σ) : Operation → Past σ
  | run cancelAfter => (Handshake.perform agents o cancelAfter w).past
  | createInvitation => (performStep agents (Handshake.createInvitation o) w).past
  | receiveInvitation i => (performStep agents (Handshake.receiveInvitation o i) w).past
  | acceptInvitation id => (performStep agents (Handshake.acceptInvitation o id) w).past
  | awaitRequest c =>
    (performStep agents
      (Handshake.awaitRequest o (agents.endpoint .inviter) (agents.stock w.agents) c) w).past
  | acceptRequest id => (performStep agents (Handshake.acceptRequest id) w).past

/-- Performs one operation after the other. -/
def Past.of (agents : Agents σ) (o : Options) : List Operation → World σ → Past σ
  | [], w => ⟨[], w⟩
  | op :: ops, w =>
    let first := op.perform agents o w
    let rest := of agents o ops first.world
    ⟨first.calls ++ rest.calls, rest.world⟩

/-- The clock has not been set anew, and the agents have replied to the calls and to nothing
else. -/
structure Past.From (agents : Agents σ) (w : World σ) (past : Past σ) : Prop where
  epoch : past.world.epoch = w.epoch
  agents : past.world.agents = agentsAfter agents w.agents past.calls

theorem epoch_run (agents : Agents σ) (p : Procedure α) (w : World σ) :
    (p.run agents w).world.epoch = w.epoch := by
  refine (Procedure.run_keeps agents (P := fun v => v.epoch = w.epoch) ?_ ?_ ?_ p rfl).1
  · exact fun v c h => h
  · intro v n h
    have hw := v.waits n
    generalize v.wait n = r at hw ⊢
    cases hw <;> exact h
  · exact fun v q h => h

namespace Past.From

theorem of_performStep (agents : Agents σ) (p : Procedure α) (w : World σ) :
    (performStep agents p w).past.From agents w :=
  ⟨epoch_run agents p _, agentsAfter_run agents p _⟩

theorem of_perform (agents : Agents σ) (o : Options) (cancelAfter : Option Nat) (w : World σ) :
    (perform agents o cancelAfter w).past.From agents w := by
  refine ⟨?_, agentsAfter_perform agents o cancelAfter w⟩
  rw [Run.past, perform_eq]
  split
  · rfl
  · exact epoch_run agents _ _

theorem of_operation (agents : Agents σ) (o : Options) (w : World σ) (op : Operation) :
    (op.perform agents o w).From agents w := by
  cases op with
  | run cancelAfter => exact of_perform agents o cancelAfter w
  | createInvitation | receiveInvitation | acceptInvitation | awaitRequest | acceptRequest =>
    exact of_performStep agents _ w

theorem append {w : World σ} {first rest : Past σ} (h : first.From agents w)
    (h' : rest.From agents first.world) :
    Past.From agents w ⟨first.calls ++ rest.calls, rest.world⟩ := by
  refine ⟨h'.epoch.trans h.epoch, ?_⟩
  rw [h'.agents, h.agents, agentsAfter, agentsAfter, agentsAfter, List.foldl_append]

theorem of_history (agents : Agents σ) (o : Options) (history : List Operation) (w : World σ) :
    (Past.of agents o history w).From agents w := by
  induction history generalizing w with
  | nil => exact ⟨rfl, rfl⟩
  | cons op ops ih => exact (of_operation agents o w op).append (ih _)

end Past.From

def World.fresh (epoch : Stamp) (s : σ) : World σ := ⟨0, epoch, s, .begin epoch, none⟩

/-- A run takes from its world the time and what the agents' answers depend on. -/
theorem perform_fresh (agents : Agents σ) (o : Options) (cancelAfter : Option Nat) (w : World σ) :
    perform agents o cancelAfter w =
      (perform agents o cancelAfter (.fresh w.epoch w.agents)).later w.now
        (Outcome.later w.now) := by
  have harmed : w.armed o cancelAfter =
      ((World.fresh w.epoch w.agents).later w.now).armed o cancelAfter := by
    simp [World.armed, World.later, World.fresh, World.stamp]
  rw [← perform_later, perform_eq, perform_eq, harmed]
  rfl

/-- Nothing is kept from one run to the next. After any history a run makes the calls, and has the
result, of a first run with the replies that are left, at times that are later by what the clock
shows when it begins. -/
theorem run_keeps_nothing (agents : Agents σ) (o : Options) (epoch : Stamp) (s : σ)
    (history : List Operation) (cancelAfter : Option Nat) :
    let past := Past.of agents o history (.fresh epoch s)
    let r := perform agents o cancelAfter past.world
    let q := perform agents o cancelAfter (.fresh epoch (agentsAfter agents s past.calls))
    r.calls = q.calls.map (Logged.later past.world.now) ∧
      r.world.now = q.world.now + past.world.now ∧ r.world.agents = q.world.agents ∧
      r.result o.limit = (q.result o.limit).map (Except.map (Outcome.later past.world.now)) ∧
      (0 < o.backoff.initial.nanos → 0 < o.backoff.cap.nanos → (r.result o.limit).isSome) := by
  intro past r q
  have hpast : past.From agents (.fresh epoch s) := .of_history agents o history _
  have hr : r = q.later past.world.now (Outcome.later past.world.now) := by
    have h := perform_fresh agents o cancelAfter past.world
    rwa [hpast.epoch, hpast.agents] at h
  refine ⟨by rw [hr]; rfl, by rw [hr]; rfl, by rw [hr]; rfl, ?_, ?_⟩
  · rw [hr]
    exact Run.result_map o.limit rfl fun _ _ => rfl
  · intro hinitial hcap
    rw [Option.isSome_iff_ne_none, Ne, Run.result_eq_none_iff]
    exact perform_ends hinitial hcap agents cancelAfter past.world

end Rendezvous.Handshake
