import Rendezvous.Proofs.Handshake.Adherence

/-! The course of a handshake: its calls in the order of the steps, each with what the answers to
the earlier ones have brought. -/

namespace Rendezvous.Handshake

variable {σ : Type} {o : Options}

/-- The calls of a whole handshake. -/
def course (o : Options) (invitation : Invitation) (invitee : ConnectionId .invitee) (polls : Nat)
    (inviter : ConnectionId .inviter) : List Agent.Call :=
  [.createInvitation o.aliasName false, .receiveInvitation invitation o.aliasName false,
    .acceptInvitation invitee o.label] ++
    List.replicate polls (.listConnections o.aliasName) ++ [.acceptRequest inviter]

/-- The exchange at place `k` is the call `c` and its answer `a`. -/
def AnsweredAt (xs : List Exchange) (k : Nat) (c : Agent.Call) (a : c.Answer) : Prop :=
  ∃ x, xs[k]? = some x ∧ x.Brings c a

/-- The calls are the first ones of a whole handshake, and what they hand on is what the answers to
the earlier ones have brought: the `polls`th listing is the first one with a record to pick. -/
structure Course (o : Options) (xs : List Exchange) (own : Agent.Created)
    (invitee : ConnectionId .invitee) (polls : Nat) (inviter : ConnectionId .inviter) : Prop where
  calls : xs.map Exchange.call <+: course o own.invitation invitee polls inviter
  polls_pos : 1 ≤ polls
  created : 1 < xs.length → AnsweredAt xs 0 (.createInvitation o.aliasName false) own
  received : 2 < xs.length →
    AnsweredAt xs 1 (.receiveInvitation own.invitation o.aliasName false) invitee
  accepted : 3 < xs.length → AnsweredAt xs 2 (.acceptInvitation invitee o.label) ()
  unmatched : ∀ k, k + 1 < polls → k + 3 < xs.length →
    ∃ listed, AnsweredAt xs (k + 3) (.listConnections o.aliasName) listed ∧
      o.pick own.connection listed = none
  matched : polls + 3 < xs.length →
    ∃ listed record, AnsweredAt xs (polls + 2) (.listConnections o.aliasName) listed ∧
      o.pick own.connection listed = some record ∧ inviter = ⟨record.connectionId⟩

theorem eq_of_getElem?_singleton {α : Type} {a b : α} {n : Nat} (h : [a][n]? = some b) :
    n = 0 ∧ b = a := by
  rw [List.getElem?_singleton] at h
  split at h
  · rename_i hn
    cases h
    exact ⟨hn, rfl⟩
  · cases h

theorem cases_of_getElem?_concat {α : Type} {xs : List α} {x y : α} {k : Nat}
    (h : (xs ++ [x])[k]? = some y) : xs[k]? = some y ∨ k = xs.length ∧ y = x := by
  rcases Nat.lt_or_ge k xs.length with hk | hk
  · exact .inl (List.getElem?_append_left hk ▸ h)
  · rw [List.getElem?_append_right hk] at h
    obtain ⟨hk', rfl⟩ := eq_of_getElem?_singleton h
    exact .inr ⟨by omega, rfl⟩

section Given

variable {own : Agent.Created} {invitee : ConnectionId .invitee} {polls : Nat}
  {inviter : ConnectionId .inviter} {xs answered pending : List Exchange} {x : Exchange} {g : Stage}

theorem length_course (invitation : Invitation) :
    (course o invitation invitee polls inviter).length = polls + 4 := by
  simp [course]

theorem course_listing (invitation : Invitation) {k : Nat} (hk : k < polls) :
    (course o invitation invitee polls inviter)[k + 3]? = some (.listConnections o.aliasName) := by
  simp [course, List.getElem?_append, hk]

theorem course_last (invitation : Invitation) :
    (course o invitation invitee polls inviter)[polls + 3]? = some (.acceptRequest inviter) := by
  simp [course]

namespace Stage

/-- The number of calls that have led to a stage. -/
def calls : Stage → Nat
  | begun => 0
  | created _ => 1
  | received .. => 2
  | accepted _ _ polls | observed _ _ polls _ => polls + 3
  | completed _ _ polls _ => polls + 4

/-- A stage of the handshake that hands on just this. -/
def Agrees (own : Agent.Created) (invitee : ConnectionId .invitee) (polls : Nat)
    (inviter : ConnectionId .inviter) : Stage → Prop
  | begun => True
  | created own' => own' = own
  | received own' invitee' => own' = own ∧ invitee' = invitee
  | accepted own' invitee' polls' => own' = own ∧ invitee' = invitee ∧ polls' < polls
  | observed own' invitee' polls' inviter' | completed own' invitee' polls' inviter' =>
    own' = own ∧ invitee' = invitee ∧ polls' = polls ∧ inviter' = inviter

theorem calls_le (h : g.Agrees own invitee polls inviter) : g.calls ≤ polls + 4 := by
  cases g <;> simp only [Agrees] at h <;> simp only [calls] <;> omega

/-- The call that comes next at a stage is the next one of the course. -/
theorem call?_eq (h : g.Agrees own invitee polls inviter) :
    g.call? o = (course o own.invitation invitee polls inviter)[g.calls]? := by
  cases g with
  | begun => rfl
  | created own' =>
    obtain rfl := h
    rfl
  | received own' invitee' =>
    obtain ⟨rfl, rfl⟩ := h
    rfl
  | accepted own' invitee' polls' => exact (course_listing own.invitation h.2.2).symm
  | observed own' invitee' polls' inviter' =>
    obtain ⟨rfl, rfl, rfl, rfl⟩ := h
    exact (course_last own'.invitation).symm
  | completed own' invitee' polls' inviter' =>
    obtain ⟨rfl, rfl, rfl, rfl⟩ := h
    exact (List.getElem?_eq_none (Nat.le_of_eq (length_course own'.invitation))).symm

end Stage

theorem Reached.length_eq (h : Reached o xs g) : xs.length = g.calls := by
  induction h <;> simp_all [Stage.calls]

/-- Anything at all can stand for what has not been handed on yet, and the listing that comes next
may be the one with the record to pick. -/
theorem Reached.exists_agrees (h : Reached o xs g) : ∃ own invitee polls inviter,
    1 ≤ polls ∧ (1 < polls → polls + 2 ≤ g.calls) ∧ g.Agrees own invitee polls inviter := by
  cases g with
  | begun => exact ⟨⟨⟨""⟩, ⟨""⟩⟩, ⟨""⟩, 1, ⟨""⟩, Nat.le_refl 1, by omega, trivial⟩
  | created own => exact ⟨own, ⟨""⟩, 1, ⟨""⟩, Nat.le_refl 1, by omega, rfl⟩
  | received own invitee => exact ⟨own, invitee, 1, ⟨""⟩, Nat.le_refl 1, by omega, rfl, rfl⟩
  | accepted own invitee polls =>
    exact ⟨own, invitee, polls + 1, ⟨""⟩, Nat.le_add_left .., fun _ => Nat.le_refl _, rfl, rfl,
      Nat.lt_succ_self _⟩
  | observed own invitee polls inviter =>
    have hpolls : 1 ≤ polls := by
      cases h
      exact Nat.le_add_left ..
    exact ⟨own, invitee, polls, inviter, hpolls, fun _ => Nat.le_succ _, rfl, rfl, rfl, rfl⟩
  | completed own invitee polls inviter =>
    have hpolls : 1 ≤ polls := by
      cases h with
      | completed before _ =>
        cases before
        exact Nat.le_add_left ..
    exact ⟨own, invitee, polls, inviter, hpolls, fun _ => Nat.le_add_right _ 2, rfl, rfl, rfl, rfl⟩

/-- What the exchange at place `k` brings in a handshake that hands on just this. -/
def Answers (o : Options) (own : Agent.Created) (invitee : ConnectionId .invitee) (polls : Nat)
    (inviter : ConnectionId .inviter) (x : Exchange) : Nat → Prop
  | 0 => x.Brings (.createInvitation o.aliasName false) own
  | 1 => x.Brings (.receiveInvitation own.invitation o.aliasName false) invitee
  | 2 => x.Brings (.acceptInvitation invitee o.label) ()
  | k + 3 =>
    (k + 1 < polls → ∃ listed, x.Brings (.listConnections o.aliasName) listed ∧
      o.pick own.connection listed = none) ∧
    (k + 1 = polls → ∃ listed record, x.Brings (.listConnections o.aliasName) listed ∧
      o.pick own.connection listed = some record ∧ inviter = ⟨record.connectionId⟩) ∧
    (k = polls → x.Brings (.acceptRequest inviter) ())

theorem Answers.call_eq {k : Nat} (h : Answers o own invitee polls inviter x k)
    (hk : k < polls + 4) :
    (course o own.invitation invitee polls inviter)[k]? = some x.call := by
  match k with
  | 0 | 1 | 2 => exact congrArg some (Exchange.Brings.call_eq h).symm
  | k + 3 =>
    obtain ⟨hmisses, hshows, haccepts⟩ := h
    rcases Nat.lt_trichotomy k polls with hlt | rfl | hgt
    · rw [course_listing _ hlt]
      rcases Nat.eq_or_lt_of_le hlt with heq | hlt
      · obtain ⟨_, _, brings, -⟩ := hshows heq
        rw [brings.call_eq]
      · obtain ⟨_, brings, -⟩ := hmisses hlt
        rw [brings.call_eq]
    · rw [course_last, (haccepts rfl).call_eq]
    · omega

theorem Reached.answers (h : Reached o xs g) (hg : g.Agrees own invitee polls inviter) {k : Nat}
    (hx : xs[k]? = some x) : Answers o own invitee polls inviter x k := by
  induction h generalizing k x with
  | begun => simp at hx
  | created brings =>
    obtain ⟨rfl, rfl⟩ := eq_of_getElem?_singleton hx
    obtain rfl := hg
    exact brings
  | received before brings ih =>
    obtain ⟨rfl, rfl⟩ := hg
    rcases cases_of_getElem?_concat hx with hx | ⟨rfl, rfl⟩
    · exact ih rfl hx
    · rw [before.length_eq]
      exact brings
  | accepted before brings ih =>
    obtain ⟨rfl, rfl, -⟩ := hg
    rcases cases_of_getElem?_concat hx with hx | ⟨rfl, rfl⟩
    · exact ih ⟨rfl, rfl⟩ hx
    · rw [before.length_eq]
      exact brings
  | unmatched before brings none ih =>
    obtain ⟨rfl, rfl, hlt⟩ := hg
    rcases cases_of_getElem?_concat hx with hx | ⟨rfl, rfl⟩
    · exact ih ⟨rfl, rfl, by omega⟩ hx
    · rw [before.length_eq]
      exact ⟨fun _ => ⟨_, brings, none⟩, by omega, by omega⟩
  | observed before brings some ih =>
    obtain ⟨rfl, rfl, rfl, rfl⟩ := hg
    rcases cases_of_getElem?_concat hx with hx | ⟨rfl, rfl⟩
    · exact ih ⟨rfl, rfl, Nat.lt_succ_self _⟩ hx
    · rw [before.length_eq]
      exact ⟨by omega, fun _ => ⟨_, _, brings, some, rfl⟩, by omega⟩
  | completed before brings ih =>
    obtain ⟨rfl, rfl, rfl, rfl⟩ := hg
    rcases cases_of_getElem?_concat hx with hx | ⟨rfl, rfl⟩
    · exact ih ⟨rfl, rfl, rfl, rfl⟩ hx
    · rw [before.length_eq]
      exact ⟨by omega, by omega, fun _ => brings⟩

/-- The calls that have led to a stage are as many first ones of the course. -/
theorem Reached.calls_eq (h : Reached o xs g) (hg : g.Agrees own invitee polls inviter) :
    xs.map Exchange.call = (course o own.invitation invitee polls inviter).take g.calls := by
  refine List.ext_getElem? fun k => ?_
  rw [List.getElem?_map, ← h.length_eq]
  cases hx : xs[k]? with
  | none =>
    have hk := List.getElem?_eq_none_iff.mp hx
    exact (List.getElem?_eq_none (Nat.le_trans (List.length_take_le ..) hk)).symm
  | some x =>
    have hk := (List.getElem?_eq_some_iff.mp hx).1
    have hle := Stage.calls_le hg
    rw [List.getElem?_take_of_lt hk, (h.answers hg hx).call_eq (by rw [h.length_eq] at hk; omega)]
    rfl

theorem Closing.length_le_one {now : Nat} {e : Ending Outcome} (h : Closing o g pending now e) :
    pending.length ≤ 1 := by
  cases h <;> simp

/-- The call that is open, if one is, is the one that the stage asks for. -/
theorem Closing.pending_calls {now : Nat} {e : Ending Outcome} (h : Closing o g pending now e) :
    pending.map Exchange.call <+: (g.call? o).toList := by
  cases h with
  | refused call _ _ => simp [call]
  | cut call _ => simp [call]
  | _ => exact List.nil_prefix

/-- All but the last exchange are known to have been answered. -/
theorem Course.of_answers (hpolls : 1 ≤ polls) (hpending : pending.length ≤ 1)
    (hlistings : 1 < polls → polls + 2 ≤ answered.length)
    (hcalls : (answered ++ pending).map Exchange.call <+:
      course o own.invitation invitee polls inviter)
    (hanswers : ∀ k x, answered[k]? = some x → Answers o own invitee polls inviter x k) :
    Course o (answered ++ pending) own invitee polls inviter := by
  have hat : ∀ k < answered.length,
      ∃ x, (answered ++ pending)[k]? = some x ∧ Answers o own invitee polls inviter x k := by
    intro k hk
    exact ⟨answered[k], by rw [List.getElem?_append_left hk, List.getElem?_eq_getElem hk],
      hanswers k _ (List.getElem?_eq_getElem hk)⟩
  have hlength : (answered ++ pending).length = answered.length + pending.length :=
    List.length_append
  constructor
  · exact hcalls
  · exact hpolls
  · exact fun _ => hat 0 (by omega)
  · exact fun _ => hat 1 (by omega)
  · exact fun _ => hat 2 (by omega)
  · intro k hk _
    obtain ⟨x, hx, hmisses, -⟩ := hat (k + 3) (by omega)
    obtain ⟨listed, brings, none⟩ := hmisses hk
    exact ⟨listed, ⟨x, hx, brings⟩, none⟩
  · intro hlt
    obtain ⟨k, rfl⟩ := Nat.exists_eq_add_of_le' hpolls
    obtain ⟨x, hx, -, hshows, -⟩ := hat (k + 3) (by omega)
    obtain ⟨listed, record, brings, some, rfl⟩ := hshows rfl
    exact ⟨listed, record, ⟨x, hx, brings⟩, some, rfl⟩

/-- The stage and the call that is open there belong to the course of one handshake. -/
theorem Account.course {agents : Agents σ} {s : σ} {r : Run σ Outcome}
    (h : Account o agents [] s r answered pending g) :
    ∃ own invitee polls inviter,
      Course o (transcript agents s r.calls) own invitee polls inviter ∧
      g.Agrees own invitee polls inviter := by
  have hr : Reached o answered g := by simpa using h.reached
  obtain ⟨own, invitee, polls, inviter, hpolls, hlistings, hg⟩ := hr.exists_agrees
  refine ⟨own, invitee, polls, inviter, ?_, hg⟩
  rw [h.exchanges]
  refine .of_answers hpolls h.closing.length_le_one (by rwa [hr.length_eq]) ?_
    fun k x hx => hr.answers hg hx
  have hopen := h.closing.pending_calls
  rw [Stage.call?_eq hg] at hopen
  rw [List.map_append, hr.calls_eq hg]
  refine ((List.prefix_append_right_inj _).mpr hopen).trans ?_
  rw [← List.take_add_one]
  exact List.take_prefix ..

theorem Course.getElem?_call (h : Course o xs own invitee polls inviter) {k : Nat}
    (hx : xs[k]? = some x) :
    (course o own.invitation invitee polls inviter)[k]? = some x.call := by
  obtain ⟨rest, hrest⟩ := h.calls
  have hk : k < (xs.map Exchange.call).length := by
    simpa using (List.getElem?_eq_some_iff.mp hx).1
  rw [← hrest, List.getElem?_append_left hk, List.getElem?_map, hx]
  rfl

end Given

/-- The call that accepts the request comes after the listing with the record to pick. -/
theorem Course.accepted_mem {xs : List Exchange} {created : Agent.Created}
    {invitee : ConnectionId .invitee} {polls : Nat} {inviter id : ConnectionId .inviter}
    (h : Course o xs created invitee polls inviter)
    (hmem : .acceptRequest id ∈ xs.map Exchange.call) : id = inviter ∧ polls + 3 < xs.length := by
  have hcalls := h.calls
  rw [course, List.prefix_concat_iff] at hcalls
  rcases hcalls with hall | hsome
  · have hlength := congrArg List.length hall
    simp only [List.length_map, List.length_append, List.length_cons, List.length_nil,
      List.length_replicate] at hlength
    rw [hall] at hmem
    have hid : id = inviter := by simpa using hmem
    exact ⟨hid, by omega⟩
  · have hmem' := hsome.subset hmem
    simp at hmem'

/-- No call comes after the one that accepts the request. -/
theorem Course.accepted_last {xs : List Exchange} {created : Agent.Created}
    {invitee : ConnectionId .invitee} {polls : Nat} {inviter id : ConnectionId .inviter}
    (h : Course o xs created invitee polls inviter)
    (hmem : .acceptRequest id ∈ xs.map Exchange.call) :
    (xs.map Exchange.call).getLast? = some (.acceptRequest id) := by
  obtain ⟨rfl, hlength⟩ := h.accepted_mem hmem
  have hcalls := h.calls
  rw [course, List.prefix_concat_iff] at hcalls
  rcases hcalls with hall | hsome
  · rw [hall, List.getLast?_concat]
  · have hle := hsome.length_le
    simp only [List.length_map, List.length_append, List.length_cons, List.length_nil,
      List.length_replicate] at hle
    omega

/-- The request that is accepted is the one to pick from the last listing. -/
theorem Course.accepted_pick {xs : List Exchange} {created : Agent.Created}
    {invitee : ConnectionId .invitee} {polls : Nat} {inviter id : ConnectionId .inviter}
    (h : Course o xs created invitee polls inviter)
    (hmem : .acceptRequest id ∈ xs.map Exchange.call) :
    AnsweredAt xs 0 (.createInvitation o.aliasName false) created ∧
      ∃ k listed record, xs.length = k + 2 ∧
        AnsweredAt xs k (.listConnections o.aliasName) listed ∧
        o.pick created.connection listed = some record ∧ id = ⟨record.connectionId⟩ := by
  obtain ⟨rfl, hlength⟩ := h.accepted_mem hmem
  obtain ⟨listed, record, hlisted, hpick, rfl⟩ := h.matched hlength
  have hcalls := h.calls.length_le
  simp only [course, List.length_map, List.length_append, List.length_cons, List.length_nil,
    List.length_replicate] at hcalls
  exact ⟨h.created (by omega), polls + 2, listed, record, by omega, hlisted, hpick, rfl⟩

/-- The call by which the invitee accepts comes after the answer that names its connection. -/
theorem Course.invitee_mem {xs : List Exchange} {created : Agent.Created}
    {invitee id : ConnectionId .invitee} {polls : Nat} {inviter : ConnectionId .inviter}
    {label : Option String} (h : Course o xs created invitee polls inviter)
    (hmem : .acceptInvitation id label ∈ xs.map Exchange.call) : id = invitee ∧ 2 < xs.length := by
  have hid : id = invitee ∧ label = o.label := by simpa [course] using h.calls.subset hmem
  refine ⟨hid.1, ?_⟩
  rcases xs with _ | ⟨x, _ | ⟨y, _ | ⟨z, zs⟩⟩⟩
  · simp at hmem
  · have hcalls : x.call = .createInvitation o.aliasName false := by simpa [course] using h.calls
    simp [hcalls] at hmem
  · have hcalls : x.call = .createInvitation o.aliasName false ∧
        y.call = .receiveInvitation created.invitation o.aliasName false := by
      simpa [course] using h.calls
    simp [hcalls.1, hcalls.2] at hmem
  · simp

end Rendezvous.Handshake
