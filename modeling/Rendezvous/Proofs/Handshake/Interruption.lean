import Rendezvous.Agent.Script
import Rendezvous.Proofs.Handshake.Ledger

/-! What an interrupted run reports: the milestone is the number of steps behind it, and of its
calls those after the last completed step all belong to the next one. -/

namespace Rendezvous.Handshake

variable {σ : Type} {o : Options}

theorem Stage.step?_milestone {g : Stage} {c : Agent.Call} (h : g.call? o = some c) :
    g.milestone.step? = some (stepOf c) := by
  cases g <;> cases h <;> rfl

/-- What the exchanges of an interrupted run come to at milestone `m`: those of the completed steps,
and then one or more calls of the next step, none of which completes it. -/
structure CutShort (o : Options) (now : Nat) (xs : List Exchange) (m : Milestone)
    (past current : List Exchange) (step : Step) : Prop where
  exchanges : xs = past ++ current
  completed : completedSteps o now xs = Step.inOrder.take m.index
  calls : ∃ looks, 1 ≤ looks ∧ past.map Exchange.step = callsOf looks (Step.inOrder.take m.index)
  next : m.step? = some step
  open_ne : current ≠ []
  opened : ∀ x ∈ current, x.step = step ∧ x.completes o (ownConnection xs) now = false
  single : step ≠ .awaitRequest → current.length = 1

theorem Ledger.cutShort {own : Option (ConnectionId .inviter)} {now : Nat} {m : Milestone}
    {past loose pending : List Exchange} {step : Step}
    (h : Ledger o own now m past loose) (hown : ownConnection (past ++ loose ++ pending) = own)
    (hnext : m.step? = some step) (hne : loose ++ pending ≠ [])
    (hpending : ∀ x ∈ pending, x.step = step ∧ x.completes o own now = false)
    (hlength : pending.length ≤ 1) :
    CutShort o now (past ++ loose ++ pending) m past (loose ++ pending) step := by
  have hopen : ∀ x ∈ loose ++ pending, x.step = step ∧ x.completes o own now = false := by
    intro x hx
    rcases List.mem_append.mp hx with hx | hx
    · have hm := h.awaiting (List.ne_nil_of_mem hx)
      subst hm
      cases hnext
      exact h.idle x hx
    · exact hpending x hx
  have hfilter : (loose ++ pending).filter (Exchange.completes o own now) = [] := by
    rw [List.filter_eq_nil_iff]
    intro x hx
    simp [(hopen x hx).2]
  refine ⟨List.append_assoc .., ?_, h.calls, hnext, hne, by rwa [hown], fun hs => ?_⟩
  · rw [completedSteps, hown, List.append_assoc, List.filter_append, hfilter, List.append_nil]
    exact h.completed
  · have hm : m ≠ .inviteeAccepted := by
      rintro rfl
      cases hnext
      exact hs rfl
    rw [h.loose_eq_nil hm] at hne ⊢
    have := List.length_pos_iff.mpr hne
    simp only [List.nil_append] at this ⊢
    omega

theorem Account.cutShort {agents : Agents σ} {s : σ} {r : Run σ Outcome}
    {answered pending : List Exchange} {g : Stage} {i : Interruption}
    (h : Account o agents [] s r answered pending g) (hi : r.ending = .interrupted i) :
    ∃ past current step,
      CutShort o r.world.now (answered ++ pending) g.milestone past current step := by
  have hr : Reached o answered g := by simpa using h.reached
  have hown : ∀ c, g.own? = some c → ownConnection (answered ++ pending) = some c.connection :=
    fun c hc => hr.ownConnection_eq hc pending
  obtain ⟨past, loose, rfl, hl⟩ := hr.ledger hown h.due
  have hclosing := h.closing
  rw [hi] at hclosing
  generalize r.world.now = now at hclosing hl ⊢
  cases hclosing with
  | cut hc hearly =>
    refine ⟨past, _, _, hl.cutShort rfl (Stage.step?_milestone hc) (by simp) ?_ (by simp)⟩
    intro x hx
    rw [List.mem_singleton.mp hx]
    exact ⟨rfl, Exchange.not_completes_of_lt hearly⟩
  | @paused own invitee polls =>
    refine ⟨past, _, _, hl.cutShort rfl rfl ?_ (by simp) (by simp)⟩
    -- Some listing has been answered here, and those of the completed steps are none.
    intro hloose
    obtain ⟨looks, -, hc⟩ := hl.calls
    have hlength := hr.length_eq
    have hpast : past.length = 3 := by
      rw [← List.length_map (f := Exchange.step), hc]
      rfl
    simp only [List.append_nil] at hloose
    simp [hloose, hpast, Stage.calls] at hlength

/-- The call that accepts the request belongs to an interrupted run just if it is the open one. -/
theorem CutShort.acceptRequest_iff {now : Nat} {xs : List Exchange} {m : Milestone}
    {past current : List Exchange} {step : Step} (h : CutShort o now xs m past current step) :
    .acceptRequest ∈ xs.map Exchange.step ↔ m = .requestObserved := by
  obtain ⟨looks, -, hpast⟩ := h.calls
  have hcurrent : .acceptRequest ∈ current.map Exchange.step ↔ step = .acceptRequest := by
    rw [List.mem_map]
    constructor
    · rintro ⟨x, hx, heq⟩
      rw [← (h.opened x hx).1, heq]
    · rintro rfl
      obtain ⟨x, hx⟩ := List.exists_mem_of_ne_nil _ h.open_ne
      exact ⟨x, hx, (h.opened x hx).1⟩
  rw [h.exchanges, List.map_append, List.mem_append, hpast, mem_callsOf (by simp), hcurrent]
  have hnext := h.next
  cases m <;> cases hnext <;> simp [Step.inOrder, Milestone.index]

/-- A run that ends by its limit or by cancellation reports the milestone that its completed steps
have reached, and its other calls are those of the next step. Only a run that is called off
beforehand has made no call. -/
theorem interrupted_run_report (agents : Agents σ) (o : Options) (cancelAfter : Option Nat)
    (w : World σ) (m : Milestone) :
    let r := perform agents o cancelAfter w
    let xs := transcript agents w.agents r.calls
    ((∃ l, r.result o.limit = some (.error (.outOfTime l m))) ∨
      r.result o.limit = some (.error (.cancelled m))) →
    m.index = (completedSteps o r.world.now xs).length ∧ m ≠ .finalized ∧
      (cancelAfter = some 0 →
        r.result o.limit = some (.error (.cancelled .start)) ∧ m = .start ∧ r.calls = []) ∧
      (cancelAfter ≠ some 0 →
        ∃ past current step, CutShort o r.world.now xs m past current step) ∧
      ((∃ e ∈ r.calls, ∃ id, e.call = .acceptRequest id) ↔ m = .requestObserved) := by
  intro r xs hres
  rcases perform_cases agents o cancelAfter w with
    ⟨hc, hcalls, hending, hm⟩ | ⟨hc, answered, pending, g, h⟩
  · have hresult : r.result o.limit = some (.error (.cancelled .start)) := by
      rw [Run.result_eq_error_iff]
      exact .inr (.inr ⟨hending, by rw [hm]⟩)
    have hstart : m = .start := by
      rw [hresult] at hres
      rcases hres with ⟨l, hl⟩ | hl
      · cases hl
      · cases hl
        rfl
    have hxs : xs = [] := by simp only [xs, r, hcalls, transcript]
    subst hstart
    refine ⟨?_, by simp, fun _ => ⟨hresult, rfl, hcalls⟩, fun h => absurd hc h, ?_⟩
    · simp [hxs, completedSteps, Milestone.index]
    · simp [r, hcalls]
  · have hxs : xs = answered ++ pending := h.exchanges
    have hcut : m = g.milestone ∧ ∃ i, r.ending = .interrupted i := by
      rcases hres with ⟨l, hl⟩ | hl
      · obtain ⟨hi, -, hm⟩ := h.outOfTime_iff.mp hl
        exact ⟨hm, _, hi⟩
      · obtain ⟨hi, hm⟩ := h.cancelled_iff.mp hl
        exact ⟨hm, _, hi⟩
    obtain ⟨rfl, i, hi⟩ := hcut
    obtain ⟨past, current, step, hshort⟩ := h.cutShort hi
    rw [← hxs] at hshort
    refine ⟨?_, ?_, fun h => absurd h hc, fun _ => ⟨past, current, step, hshort⟩, ?_⟩
    · rw [hshort.completed]
      cases g <;> rfl
    · intro hm
      have hnext := hshort.next
      rw [hm] at hnext
      cases hnext
    · rw [← hshort.acceptRequest_iff]
      exact acceptRequest_mem_steps.symm

/-- Both agents answer at once, but the inviter never lists a connection. -/
def quietScript : Agent.Script where
  created := .always ⟨.ok ⟨⟨"inv-1"⟩, ⟨"{}"⟩⟩, 0, false⟩
  received := .always ⟨.ok ⟨"agt-2"⟩, 0, false⟩
  invitationAccepted := .always ⟨.ok (), 0, false⟩
  listed := .always ⟨.ok [], 0, false⟩
  requestAccepted := .always ⟨.ok (), 0, false⟩

def quietWorld : World Agent.Script := ⟨0, ⟨0⟩, quietScript, .begin ⟨0⟩, none⟩

/-- A look every ten milliseconds, for less time than the looks may take. -/
def hastyOptions : Options :=
  { Options.standard with
    backoff := .fixed (.ofMillis 10) (.ofSeconds 30)
    limit := .ofMillis 80 }

/-- The run that waits in vain reports three steps. -/
theorem quiet_run_report :
    (perform (Agent.Script.agents fun _ => "") hastyOptions none quietWorld).result
        hastyOptions.limit = some (.error (.outOfTime hastyOptions.limit .inviteeAccepted)) ∧
      Milestone.inviteeAccepted.index =
        (completedSteps hastyOptions
          (perform (Agent.Script.agents fun _ => "") hastyOptions none quietWorld).world.now
          (transcript (Agent.Script.agents fun _ => "") quietScript
            (perform (Agent.Script.agents fun _ => "") hastyOptions none
              quietWorld).calls)).length := by
  have hending : (perform (Agent.Script.agents fun _ => "") hastyOptions none
      quietWorld).ending = .interrupted .timedOut := by decide +kernel
  have hmilestone : (perform (Agent.Script.agents fun _ => "") hastyOptions none
      quietWorld).world.progress.milestone = .inviteeAccepted := by decide +kernel
  have h : (perform (Agent.Script.agents fun _ => "") hastyOptions none quietWorld).result
      hastyOptions.limit = some (.error (.outOfTime hastyOptions.limit .inviteeAccepted)) := by
    rw [Run.result, hending, hmilestone]
  exact ⟨h, (interrupted_run_report _ _ _ _ _ (.inl ⟨_, h⟩)).1⟩

end Rendezvous.Handshake
