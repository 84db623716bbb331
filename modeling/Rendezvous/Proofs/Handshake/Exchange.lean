import Rendezvous.Proofs.Handshake.Performing

/-! The exchanges of a performance: its calls together with the replies that the agents have for
them. -/

namespace Rendezvous.Handshake

variable {σ α : Type}

/-- A call, the time at which it was put, and the reply to it. -/
structure Exchange where
  time : Nat
  call : Agent.Call
  reply : Agent.Reply (Agent.Result call)

namespace Exchange

/-- When the call returns, unless it is cut short. -/
def due (x : Exchange) : Nat := x.time + x.reply.latency

def step (x : Exchange) : Step := stepOf x.call

/-- The call is `c`, and it is answered with `a`. -/
def Brings (x : Exchange) (c : Agent.Call) (a : c.Answer) : Prop :=
  ∃ time latency cancels, x = ⟨time, c, ⟨.ok a, latency, cancels⟩⟩

theorem brings_mk {time : Nat} {c : Agent.Call} {reply : Agent.Reply (Agent.Result c)}
    {a : c.Answer} (h : reply.answer = .ok a) : Brings ⟨time, c, reply⟩ c a := by
  obtain ⟨answer, latency, cancels⟩ := reply
  subst h
  exact ⟨time, latency, cancels, rfl⟩

theorem Brings.answer_eq {time : Nat} {c : Agent.Call} {reply : Agent.Reply (Agent.Result c)}
    {a : c.Answer} (h : Brings ⟨time, c, reply⟩ c a) : reply.answer = .ok a := by
  obtain ⟨_, _, _, heq⟩ := h
  cases heq
  rfl

theorem Brings.call_eq {x : Exchange} {c : Agent.Call} {a : c.Answer} (h : x.Brings c a) :
    x.call = c := by
  obtain ⟨_, _, _, rfl⟩ := h
  rfl

theorem Brings.exists_answer {x : Exchange} {c : Agent.Call} {a : c.Answer} (h : x.Brings c a) :
    ∃ a, x.reply.answer = .ok a := by
  obtain ⟨_, _, _, rfl⟩ := h
  exact ⟨a, rfl⟩

theorem Brings.answer_ne {x : Exchange} {c : Agent.Call} {a : c.Answer} (h : x.Brings c a)
    (f : Agent.Fault) : x.reply.answer ≠ .error f := by
  obtain ⟨_, _, _, rfl⟩ := h
  simp

end Exchange

/-- Goes through calls with the agents and sets down their replies. -/
def transcript (agents : Agents σ) : σ → List Logged → List Exchange
  | _, [] => []
  | s, e :: es =>
    ⟨e.time, e.call, (agents.ask e.call s).1⟩ :: transcript agents (agents.ask e.call s).2 es

theorem transcript_logged (agents : Agents σ) (s : σ) (es : List Logged) :
    (transcript agents s es).map (fun x => ⟨x.time, x.call⟩) = es := by
  induction es generalizing s with
  | nil => rfl
  | cons e es ih => simp [transcript, ih]

theorem transcript_calls (agents : Agents σ) (s : σ) (es : List Logged) :
    (transcript agents s es).map Exchange.call = es.map Logged.call := by
  have h := congrArg (List.map Logged.call) (transcript_logged agents s es)
  rw [← h, List.map_map]
  rfl

def agentsAfter (agents : Agents σ) (s : σ) (es : List Logged) : σ :=
  es.foldl (fun s e => (agents.ask e.call s).2) s

theorem agentsAfter_run (agents : Agents σ) (p : Procedure α) (w : World σ) :
    (p.run agents w).world.agents = agentsAfter agents w.agents (p.run agents w).calls := by
  induction p generalizing w with
  | done a => rfl
  | fail f => rfl
  | stall => rfl
  | now k ih => exact ih w.moment w
  | reach m k ih =>
    simp only [Procedure.run]
    split
    · rename_i p _
      exact ih p { w with progress := p }
    · rfl
  | pause d k ih =>
    rcases Procedure.run_pause agents w d k with ⟨i, t, -, -, hr⟩ | hr
    · rw [hr]
      rfl
    · rw [hr]
      exact ih { w with now := w.now + ticksOf d }
  | ask c k ih =>
    have hr := Procedure.run_ask agents w c k
    generalize (Procedure.ask c k).run agents w = r at hr ⊢
    cases hr with
    | cut i w' called => exact (World.after_of_called called).agents
    | failed f w' called error => exact (World.after_of_called called).agents
    | answered a w' called ok =>
      rw [ih a w', (World.after_of_called called).agents]
      rfl

theorem agentsAfter_perform (agents : Agents σ) (o : Options) (cancelAfter : Option Nat)
    (w : World σ) :
    (perform agents o cancelAfter w).world.agents =
      agentsAfter agents w.agents (perform agents o cancelAfter w).calls := by
  rw [perform_eq]
  by_cases h : cancelAfter = some 0
  · rw [if_pos h]
    rfl
  · rw [if_neg h, agentsAfter_run]
    rfl

theorem length_transcript (agents : Agents σ) (s : σ) (es : List Logged) :
    (transcript agents s es).length = es.length := by
  rw [← List.length_map (f := Exchange.call), transcript_calls, List.length_map]

theorem transcript_take (agents : Agents σ) (s : σ) (es : List Logged) (k : Nat) :
    transcript agents s (es.take k) = (transcript agents s es).take k := by
  induction es generalizing s k with
  | nil => simp [transcript]
  | cons e es ih =>
    cases k with
    | zero => rfl
    | succ k => simp [transcript, ih]

/-- The reply to a call is the one that the agents have after the calls before it. -/
theorem getElem?_transcript (agents : Agents σ) (s : σ) (es : List Logged) (k : Nat) :
    (transcript agents s es)[k]? =
      es[k]?.map fun e =>
        ⟨e.time, e.call, (agents.ask e.call (agentsAfter agents s (es.take k))).1⟩ := by
  induction es generalizing s k with
  | nil => simp [transcript]
  | cons e es ih =>
    cases k with
    | zero => rfl
    | succ k => simpa [transcript, agentsAfter] using ih (agents.ask e.call s).2 k

theorem acceptRequest_mem_steps {agents : Agents σ} {s : σ} {es : List Logged} :
    .acceptRequest ∈ (transcript agents s es).map Exchange.step ↔
      ∃ e ∈ es, ∃ id, e.call = .acceptRequest id := by
  have hsteps : (transcript agents s es).map Exchange.step = es.map fun e => stepOf e.call := by
    rw [show Exchange.step = stepOf ∘ Exchange.call from rfl, ← List.map_map, transcript_calls,
      List.map_map]
    rfl
  have hcall : ∀ c : Agent.Call, stepOf c = .acceptRequest ↔ ∃ id, c = .acceptRequest id := by
    intro c
    cases c <;> simp [stepOf]
  simp only [hsteps, List.mem_map, hcall]

end Rendezvous.Handshake
