import Rendezvous.Proofs.Handshake.Course

/-! The steps that a list of exchanges completes, and those exchanges that complete none. -/

namespace Rendezvous.Handshake

variable {σ : Type} {o : Options}

def Step.inOrder : List Step :=
  [.createInvitation, .receiveInvitation, .acceptInvitation, .awaitRequest, .acceptRequest]

def Milestone.step? (m : Milestone) : Option Step := Step.inOrder[m.index]?

/-- The inviter's own name for the connection, from the call that begins a handshake. -/
def ownConnection : List Exchange → Option (ConnectionId .inviter)
  | ⟨_, .createInvitation .., ⟨.ok own, _, _⟩⟩ :: _ => some own.connection
  | _ => none

/-- Whether a call returns by the time `now` and brings what its step is for. A listing has to hold
a record to pick. -/
def Exchange.completes (o : Options) (own : Option (ConnectionId .inviter)) (now : Nat)
    (x : Exchange) : Bool :=
  decide (x.due ≤ now) &&
    match x with
    | ⟨_, .listConnections _, ⟨.ok listed, _, _⟩⟩ => own.any fun id => (o.pick id listed).isSome
    | ⟨_, _, ⟨.ok _, _, _⟩⟩ => true
    | ⟨_, _, ⟨.error _, _, _⟩⟩ => false

/-- The steps that have been completed by the time `now`. -/
def completedSteps (o : Options) (now : Nat) (xs : List Exchange) : List Step :=
  (xs.filter (Exchange.completes o (ownConnection xs) now)).map Exchange.step

/-- The calls of some steps, with `looks` for the one that may take several. -/
def callsOf (looks : Nat) (steps : List Step) : List Step :=
  steps.flatMap fun s => if s = .awaitRequest then List.replicate looks s else [s]

theorem mem_callsOf {looks : Nat} {steps : List Step} {s : Step} (hs : s ≠ .awaitRequest) :
    s ∈ callsOf looks steps ↔ s ∈ steps := by
  simp only [callsOf, List.mem_flatMap]
  constructor
  · rintro ⟨s', hmem, h⟩
    split at h
    · rename_i heq
      rw [List.mem_replicate] at h
      exact absurd (h.2.trans heq) hs
    · rwa [List.mem_singleton.mp h]
  · intro h
    exact ⟨s, h, by simp [hs]⟩

namespace Exchange

variable {x : Exchange} {own : Option (ConnectionId .inviter)} {now : Nat}

theorem not_completes_of_lt (h : now < x.due) : x.completes o own now = false := by
  have : ¬ x.due ≤ now := by omega
  simp [completes, this]

theorem completes_of_brings {c : Agent.Call} {a : c.Answer} (hb : x.Brings c a)
    (hdue : x.due ≤ now) (hc : stepOf c ≠ .awaitRequest) : x.completes o own now = true := by
  obtain ⟨t, l, b, rfl⟩ := hb
  cases c with
  | listConnections aliasName => exact absurd rfl hc
  | _ => simp [completes, hdue]

theorem completes_listing {aliasName : Option String} {listed : List ConnectionRecord}
    {id : ConnectionId .inviter} (hb : x.Brings (.listConnections aliasName) listed)
    (hdue : x.due ≤ now) : x.completes o (some id) now = (o.pick id listed).isSome := by
  obtain ⟨t, l, b, rfl⟩ := hb
  simp [completes, hdue]

theorem Brings.step_eq {c : Agent.Call} {a : c.Answer} (hb : x.Brings c a) :
    x.step = stepOf c := by
  rw [step, hb.call_eq]

end Exchange

def Stage.own? : Stage → Option Agent.Created
  | .begun => none
  | .created own | .received own _ | .accepted own _ _ | .observed own _ _ _
  | .completed own _ _ _ => some own

theorem Reached.ownConnection_eq {xs : List Exchange} {g : Stage} (h : Reached o xs g)
    {own : Agent.Created} (hg : g.own? = some own) (ys : List Exchange) :
    ownConnection (xs ++ ys) = some own.connection := by
  induction h generalizing ys with
  | begun => cases hg
  | created hb =>
    obtain ⟨t, l, b, rfl⟩ := hb
    cases hg
    rfl
  | received _ _ ih | accepted _ _ ih | unmatched _ _ _ ih | observed _ _ _ ih
  | completed _ _ ih =>
    rw [List.append_assoc]
    exact ih hg _

/-- The exchanges behind a stage, parted into those of its completed steps and the listings after
them that held nothing to pick. -/
structure Ledger (o : Options) (own : Option (ConnectionId .inviter)) (now : Nat) (m : Milestone)
    (past loose : List Exchange) : Prop where
  completed : (past.filter (Exchange.completes o own now)).map Exchange.step =
    Step.inOrder.take m.index
  calls : ∃ looks, 1 ≤ looks ∧ past.map Exchange.step = callsOf looks (Step.inOrder.take m.index)
  idle : ∀ x ∈ loose, x.step = .awaitRequest ∧ x.completes o own now = false
  awaiting : loose ≠ [] → m = .inviteeAccepted

namespace Ledger

variable {own : Option (ConnectionId .inviter)} {now : Nat} {m m' : Milestone}
  {past loose : List Exchange} {x : Exchange}

theorem loose_eq_nil (h : Ledger o own now m past loose) (hm : m ≠ .inviteeAccepted) :
    loose = [] := by
  by_cases hl : loose = []
  · exact hl
  · exact absurd (h.awaiting hl) hm

/-- One more step, by a single call. -/
theorem advance {c : Agent.Call} {a : c.Answer} (h : Ledger o own now m past loose)
    (hm : m ≠ .inviteeAccepted) (hb : x.Brings c a) (hdue : x.due ≤ now)
    (hs : m.step? = some (stepOf c)) (hne : stepOf c ≠ .awaitRequest)
    (hnext : m'.index = m.index + 1) : Ledger o own now m' (past ++ loose ++ [x]) [] := by
  have hx : x.completes o own now = true := Exchange.completes_of_brings hb hdue hne
  have htake : Step.inOrder.take m'.index = Step.inOrder.take m.index ++ [stepOf c] := by
    rw [Milestone.step?] at hs
    rw [hnext, List.take_add_one, hs]
    rfl
  obtain ⟨looks, hl, hc⟩ := h.calls
  rw [h.loose_eq_nil hm, List.append_nil]
  refine ⟨?_, ⟨looks, hl, ?_⟩, by simp, by simp⟩
  · simp [List.filter_append, hx, h.completed, htake, hb.step_eq]
  · simp [hc, htake, callsOf, hne, hb.step_eq]

/-- The step that may take several calls. -/
theorem observe (h : Ledger o own now .inviteeAccepted past loose)
    (hx : x.completes o own now = true) (hs : x.step = .awaitRequest) :
    Ledger o own now .requestObserved (past ++ loose ++ [x]) [] := by
  have hnone : loose.filter (Exchange.completes o own now) = [] := by
    rw [List.filter_eq_nil_iff]
    intro y hy
    simp [(h.idle y hy).2]
  have hloose : loose.map Exchange.step = List.replicate loose.length .awaitRequest := by
    rw [List.eq_replicate_iff]
    refine ⟨List.length_map .., fun s hs => ?_⟩
    obtain ⟨y, hy, rfl⟩ := List.mem_map.mp hs
    exact (h.idle y hy).1
  obtain ⟨looks, -, hc⟩ := h.calls
  have hthree : callsOf looks (Step.inOrder.take 3) =
      [.createInvitation, .receiveInvitation, .acceptInvitation] := rfl
  refine ⟨?_, ⟨loose.length + 1, Nat.le_add_left .., ?_⟩, by simp, by simp⟩
  · have hcompleted := h.completed
    simp only [List.filter_append, hnone, List.append_nil, List.map_append, hcompleted]
    simp [hx, hs, Milestone.index, Step.inOrder]
  · rw [List.map_append, List.map_append, hc, hloose, Milestone.index, hthree]
    simp [hs, callsOf, Milestone.index, Step.inOrder, List.replicate_succ']

end Ledger

theorem Reached.ledger {xs : List Exchange} {g : Stage} (h : Reached o xs g)
    {own : Option (ConnectionId .inviter)} {now : Nat}
    (hown : ∀ c, g.own? = some c → own = some c.connection) (hdue : ∀ x ∈ xs, x.due ≤ now) :
    ∃ past loose, xs = past ++ loose ∧ Ledger o own now g.milestone past loose := by
  induction h with
  | begun => exact ⟨[], [], rfl, ⟨rfl, ⟨1, by decide, rfl⟩, by simp, by simp⟩⟩
  | created hb =>
    have hfirst : Ledger o own now .start [] [] := ⟨rfl, ⟨1, by decide, rfl⟩, by simp, by simp⟩
    exact ⟨_, [], rfl, hfirst.advance (by simp) hb (hdue _ (by simp)) rfl (by simp [stepOf]) rfl⟩
  | received _ hb ih =>
    obtain ⟨past, loose, rfl, hl⟩ := ih hown fun x hx => hdue x (by simp [hx])
    exact ⟨_, [], (List.append_nil _).symm,
      hl.advance (by simp [Stage.milestone]) hb (hdue _ (by simp)) rfl (by simp [stepOf]) rfl⟩
  | accepted _ hb ih =>
    obtain ⟨past, loose, rfl, hl⟩ := ih hown fun x hx => hdue x (by simp [hx])
    exact ⟨_, [], (List.append_nil _).symm,
      hl.advance (by simp [Stage.milestone]) hb (hdue _ (by simp)) rfl (by simp [stepOf]) rfl⟩
  | @unmatched xs x c _ _ listed _ hb hnone ih =>
    obtain ⟨past, loose, rfl, hl⟩ := ih hown fun x hx => hdue x (by simp [hx])
    refine ⟨past, loose ++ [x], by simp, hl.completed, hl.calls, fun y hy => ?_, fun _ => rfl⟩
    rcases List.mem_append.mp hy with hy | hy
    · exact hl.idle y hy
    · rw [List.mem_singleton.mp hy]
      refine ⟨hb.step_eq, ?_⟩
      rw [hown c rfl, Exchange.completes_listing hb (hdue x (by simp)), hnone]
      rfl
  | @observed xs x c _ _ listed record _ hb hsome ih =>
    obtain ⟨past, loose, rfl, hl⟩ := ih hown fun x hx => hdue x (by simp [hx])
    refine ⟨_, [], (List.append_nil _).symm, hl.observe ?_ hb.step_eq⟩
    rw [hown c rfl, Exchange.completes_listing hb (hdue x (by simp)), hsome]
    rfl
  | completed _ hb ih =>
    obtain ⟨past, loose, rfl, hl⟩ := ih hown fun x hx => hdue x (by simp [hx])
    exact ⟨_, [], (List.append_nil _).symm,
      hl.advance (by simp [Stage.milestone]) hb (hdue _ (by simp)) rfl (by simp [stepOf]) rfl⟩

end Rendezvous.Handshake
