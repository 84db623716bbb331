import Rendezvous.Proofs.Handshake.Course

/-! The first error ends a run, and a run succeeds just when the request has been accepted. -/

namespace Rendezvous.Handshake

variable {σ : Type} {o : Options}

/-- An exchange by which a stage was reached is one that succeeded. -/
theorem Reached.brings {xs : List Exchange} {g : Stage} (h : Reached o xs g) :
    ∀ x ∈ xs, ∃ c a, x.Brings c a := by
  induction h with
  | begun => simp
  | created hx =>
    intro y hy
    rw [List.mem_singleton.mp hy]
    exact ⟨_, _, hx⟩
  | received _ hx ih | accepted _ hx ih | unmatched _ hx _ ih | observed _ hx _ ih
  | completed _ hx ih =>
    intro y hy
    rcases List.mem_append.mp hy with hy | hy
    · exact ih y hy
    · rw [List.mem_singleton.mp hy]
      exact ⟨_, _, hx⟩

/-- Only a completed handshake has had its request accepted. -/
theorem Reached.completed_of_mem {xs : List Exchange} {g : Stage} (h : Reached o xs g)
    {x : Exchange} (hx : x ∈ xs) {id : ConnectionId .inviter} (hc : x.call = .acceptRequest id) :
    ∃ own invitee polls inviter, g = .completed own invitee polls inviter := by
  induction h with
  | begun => simp at hx
  | created hb =>
    rw [List.mem_singleton.mp hx, hb.call_eq] at hc
    cases hc
  | received _ hb ih | accepted _ hb ih | unmatched _ hb _ ih | observed _ hb _ ih =>
    rcases List.mem_append.mp hx with hx | hx
    · obtain ⟨own, invitee, polls, inviter, hg⟩ := ih hx
      cases hg
    · rw [List.mem_singleton.mp hx, hb.call_eq] at hc
      cases hc
  | completed _ _ _ => exact ⟨_, _, _, _, rfl⟩

section Account

variable {agents : Agents σ} {s : σ} {r : Run σ Outcome} {answered pending : List Exchange}
  {g : Stage}

/-- A call that returns with an error is the last one, and the performance fails with it. -/
theorem Account.failed_of_error (h : Account o agents [] s r answered pending g) {k : Nat}
    {x : Exchange} {f : Agent.Fault} (hx : (answered ++ pending)[k]? = some x)
    (hdue : x.due ≤ r.world.now) (hf : x.reply.answer = .error f) :
    (answered ++ pending).length = k + 1 ∧ r.ending = .failed (.ofFault x.step f) := by
  have hr : Reached o answered g := by simpa using h.reached
  have hk : answered.length ≤ k := by
    apply Nat.le_of_not_lt
    intro hlt
    rw [List.getElem?_append_left hlt] at hx
    obtain ⟨c, a, hb⟩ := hr.brings x (List.mem_of_getElem? hx)
    exact hb.answer_ne f hf
  rw [List.getElem?_append_right hk] at hx
  have hclosing := h.closing
  generalize r.ending = e at hclosing ⊢
  cases hclosing with
  | @refused g y now f' hc hd he =>
    obtain ⟨hk', rfl⟩ := eq_of_getElem?_singleton hx
    rw [hf] at he
    cases he
    exact ⟨by simp only [List.length_append, List.length_singleton]; omega, rfl⟩
  | @cut g y now i hc hearly =>
    obtain ⟨-, rfl⟩ := eq_of_getElem?_singleton hx
    omega
  | _ => simp at hx

/-- A call that is not due yet is the last one, and the performance is cut short in it. -/
theorem Account.interrupted_of_early (h : Account o agents [] s r answered pending g) {k : Nat}
    {x : Exchange} (hx : (answered ++ pending)[k]? = some x) (hearly : r.world.now < x.due) :
    (answered ++ pending).length = k + 1 ∧ ∃ i, r.ending = .interrupted i := by
  have hk : answered.length ≤ k := by
    apply Nat.le_of_not_lt
    intro hlt
    rw [List.getElem?_append_left hlt] at hx
    have hdue := h.due x (List.mem_of_getElem? hx)
    omega
  rw [List.getElem?_append_right hk] at hx
  have hclosing := h.closing
  generalize r.ending = e at hclosing ⊢
  cases hclosing with
  | refused _ hdue _ =>
    obtain ⟨-, rfl⟩ := eq_of_getElem?_singleton hx
    omega
  | @cut g y now i _ _ =>
    obtain ⟨hk', rfl⟩ := eq_of_getElem?_singleton hx
    exact ⟨by simp only [List.length_append, List.length_singleton]; omega, i, rfl⟩
  | _ => simp at hx

/-- The performance is done just when the inviter has accepted the request. -/
theorem Account.done_iff (h : Account o agents [] s r answered pending g) :
    (∃ out, r.ending = .done out) ↔
      ∃ x ∈ answered ++ pending, ∃ id, x.Brings (.acceptRequest id) () ∧ x.due ≤ r.world.now := by
  have hr : Reached o answered g := by simpa using h.reached
  constructor
  · rintro ⟨out, hout⟩
    have hclosing := h.closing
    rw [hout] at hclosing
    cases hclosing with
    | done _ _ _ _ =>
      cases hr with
      | @completed xs x _ _ _ _ _ hb =>
        have hx : x ∈ xs ++ [x] := by simp
        exact ⟨x, List.mem_append_left _ hx, _, hb, h.due x hx⟩
  · rintro ⟨x, hx, id, hb, hdue⟩
    rcases List.mem_append.mp hx with hx | hx
    · obtain ⟨own, invitee, polls, inviter, rfl⟩ := hr.completed_of_mem hx hb.call_eq
      have hclosing := h.closing
      generalize r.ending = e at hclosing ⊢
      cases hclosing with
      | @done _ _ _ _ _ out _ _ _ _ => exact ⟨out, rfl⟩
      | refused hc _ _ => cases hc
      | cut hc _ => cases hc
    · have hclosing := h.closing
      generalize r.ending = e at hclosing ⊢
      cases hclosing with
      | refused _ _ he =>
        rw [List.mem_singleton] at hx
        subst hx
        exact absurd he (hb.answer_ne _)
      | cut _ hearly =>
        rw [List.mem_singleton] at hx
        subst hx
        omega
      | _ => simp at hx

end Account

/-- Whatever comes before a call has been answered. -/
theorem answered_before (agents : Agents σ) (o : Options) (cancelAfter : Option Nat) (w : World σ)
    {k : Nat} (hk : k < (perform agents o cancelAfter w).calls.length) :
    ∀ x ∈ (transcript agents w.agents (perform agents o cancelAfter w).calls).take k,
      ∃ a, x.reply.answer = .ok a := by
  rcases perform_cases agents o cancelAfter w with
    ⟨-, hcalls, -, -⟩ | ⟨-, answered, pending, g, h⟩
  · rw [hcalls] at hk
    exact absurd hk (Nat.not_lt_zero k)
  · have hr : Reached o answered g := by simpa using h.reached
    have hlength := h.closing.length_le_one
    rw [← length_transcript agents w.agents, h.exchanges, List.length_append] at hk
    intro x hx
    rw [h.exchanges, List.take_append_of_le_length (by omega)] at hx
    obtain ⟨c, a, hb⟩ := hr.brings x (List.mem_of_mem_take hx)
    exact hb.exists_answer

/-- A run that is not interrupted goes on behind its first call, if that one succeeds. -/
theorem one_lt_length_calls {agents : Agents σ} {cancelAfter : Option Nat} {w : World σ}
    (hquiet : ∀ i, (perform agents o cancelAfter w).ending ≠ .interrupted i)
    (hfirst : ∀ x,
      (transcript agents w.agents (perform agents o cancelAfter w).calls)[0]? = some x →
        ∃ a, x.reply.answer = .ok a) : 1 < (perform agents o cancelAfter w).calls.length := by
  rcases perform_cases agents o cancelAfter w with
    ⟨-, -, hending, -⟩ | ⟨-, answered, pending, g, h⟩
  · exact absurd hending (hquiet .cancelled)
  · have hr : Reached o answered g := by simpa using h.reached
    have hlength := hr.length_eq
    rw [← length_transcript agents w.agents, h.exchanges, List.length_append]
    rw [h.exchanges] at hfirst
    have hclosing := h.closing
    generalize (perform agents o cancelAfter w).ending = e at hclosing hquiet
    cases hclosing with
    | @refused g x now f _ _ herror =>
      cases answered with
      | nil =>
        obtain ⟨a, ha⟩ := hfirst x rfl
        rw [herror] at ha
        cases ha
      | cons y ys => simp
    | done | unseen | endless =>
      simp only [Stage.calls] at hlength
      omega
    | cut | paused => exact absurd rfl (hquiet _)

/-- A run's calls are the first ones of some handshake. -/
theorem exists_course (agents : Agents σ) (o : Options) (cancelAfter : Option Nat) (w : World σ) :
    ∃ own invitee polls inviter,
      Course o (transcript agents w.agents (perform agents o cancelAfter w).calls) own invitee polls
        inviter := by
  rcases perform_cases agents o cancelAfter w with
    ⟨-, hcalls, -, -⟩ | ⟨-, answered, pending, g, h⟩
  · refine ⟨⟨⟨""⟩, ⟨""⟩⟩, ⟨""⟩, 1, ⟨""⟩, ?_⟩
    rw [hcalls]
    constructor <;> simp [transcript]
  · obtain ⟨own, invitee, polls, inviter, hcourse, -⟩ := h.course
    exact ⟨own, invitee, polls, inviter, hcourse⟩

theorem Reached.calls_of_completed {xs : List Exchange} {own : Agent.Created}
    {invitee : ConnectionId .invitee} {polls : Nat} {inviter : ConnectionId .inviter}
    (h : Reached o xs (.completed own invitee polls inviter)) :
    xs.map Exchange.call = course o own.invitation invitee polls inviter := by
  rw [h.calls_eq ⟨rfl, rfl, rfl, rfl⟩]
  exact List.take_of_length_le (Nat.le_of_eq (length_course own.invitation))

/-- A run that succeeds has made all calls of a handshake, and its outcome names what was
accepted. -/
theorem calls_of_ok {agents : Agents σ} {cancelAfter : Option Nat} {w : World σ} {out : Outcome}
    (h : (perform agents o cancelAfter w).result o.limit = some (.ok out)) :
    ∃ invitation polls, out.polls = .ofNat polls ∧
      (perform agents o cancelAfter w).calls.map Logged.call =
        course o invitation out.invitee polls out.inviter := by
  rw [Run.result_eq_ok_iff] at h
  rcases perform_cases agents o cancelAfter w with
    ⟨-, -, hending, -⟩ | ⟨-, answered, pending, g, ha⟩
  · rw [hending] at h
    cases h
  · have hr : Reached o answered g := by simpa using ha.reached
    have hclosing := ha.closing
    rw [h] at hclosing
    cases hclosing with
    | @done own invitee polls _ _ _ hinviter hinvitee hpolls _ =>
      refine ⟨own.invitation, polls, hpolls, ?_⟩
      rw [← transcript_calls agents w.agents, ha.exchanges, List.append_nil, hr.calls_of_completed,
        hinviter, hinvitee]

/-- The calls of a run are the first ones of one handshake. A call that returns with an error is the
last one and decides the result, and the run succeeds just when the request has been accepted. The
outcome counts the listings in 32 bits. -/
theorem perform_keeps_order (agents : Agents σ) (o : Options) (cancelAfter : Option Nat)
    (w : World σ) :
    let r := perform agents o cancelAfter w
    let xs := transcript agents w.agents r.calls
    ∃ own invitee polls inviter,
      Course o xs own invitee polls inviter ∧
      (∀ k x f, xs[k]? = some x → x.due ≤ r.world.now → x.reply.answer = .error f →
        xs.length = k + 1 ∧ r.result o.limit = some (.error (.ofFault x.step f))) ∧
      ((∃ out, r.result o.limit = some (.ok out)) ↔
        ∃ x ∈ xs, ∃ id, x.Brings (.acceptRequest id) () ∧ x.due ≤ r.world.now) ∧
      ∀ out, r.result o.limit = some (.ok out) →
        xs.map Exchange.call = course o own.invitation invitee polls inviter ∧
        out.inviter = inviter ∧ out.invitee = invitee ∧ out.polls = .ofNat polls ∧
        (polls < UInt32.size → out.polls.toNat = polls) ∧ out.final = .finalized := by
  intro r xs
  rcases perform_cases agents o cancelAfter w with
    ⟨-, hcalls, hending, -⟩ | ⟨-, answered, pending, g, h⟩
  · have hxs : xs = [] := by simp only [xs, r, hcalls, transcript]
    have hne : ∀ out, r.result o.limit ≠ some (.ok out) := by
      intro out hout
      rw [Run.result_eq_ok_iff, hending] at hout
      cases hout
    refine ⟨⟨⟨""⟩, ⟨""⟩⟩, ⟨""⟩, 1, ⟨""⟩, ?_, ?_, ?_, ?_⟩
    · rw [hxs]
      constructor <;> simp
    · simp [hxs]
    · simp [hxs, hne]
    · exact fun out hout => absurd hout (hne out)
  · obtain ⟨own, invitee, polls, inviter, hcourse, hfinal⟩ := h.course
    have hxs : xs = answered ++ pending := h.exchanges
    have hr : Reached o answered g := by simpa using h.reached
    refine ⟨own, invitee, polls, inviter, hcourse, ?_, ?_, ?_⟩
    · intro k x f hx hdue hf
      rw [hxs] at hx ⊢
      obtain ⟨hlast, hending⟩ := h.failed_of_error hx hdue hf
      refine ⟨hlast, ?_⟩
      simp only [Run.result, r, hending]
    · simp only [Run.result_eq_ok_iff]
      rw [hxs]
      exact h.done_iff
    · intro out hout
      rw [Run.result_eq_ok_iff] at hout
      have hclosing := h.closing
      rw [hout] at hclosing
      cases hclosing with
      | @done own' invitee' polls' inviter' _ _ hinviter hinvitee hpolls hout_final =>
        obtain ⟨rfl, rfl, rfl, rfl⟩ := hfinal
        refine ⟨?_, hinviter, hinvitee, hpolls, fun hlt => ?_, hout_final⟩
        · rw [hxs, List.append_nil, hr.calls_of_completed]
        · rw [hpolls, UInt32.toNat_ofNat_of_lt' hlt]

end Rendezvous.Handshake
