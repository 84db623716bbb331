import Rendezvous.Proofs.Handshake.Foreign
import Rendezvous.Proofs.Handshake.Order

/-! The rule by which a record is selected makes no difference while the own one is listed. Only in
its absence does a run accept the request on another connection. -/

namespace Rendezvous

/-- The listing has a record of the connection `own`. -/
def ListsOwn (own : ConnectionId .inviter) (listed : List ConnectionRecord) : Prop :=
  ∃ record ∈ listed, record.connectionId = own.text

/-- Every listing to come has a record of the connection `own`. -/
def Agent.Script.ListsOwn (own : ConnectionId .inviter) (s : Agent.Script) : Prop :=
  ∀ n listed, (s.listed.nth n).answer = .ok listed → Rendezvous.ListsOwn own listed

namespace Handshake

open Agent (Script)
open Procedure

variable {σ α : Type} {agents : Agents σ} {w : World σ} {o : Options}

/-- Two performances that begin with the same call come to the same if they do so behind each
answer. -/
theorem run_ask_congr {c : Agent.Call} {k l : c.Answer → Procedure α}
    (h : ∀ a w', w.called agents c = (none, w') → (agents.ask c w.agents).1.answer = .ok a →
      (l a).run agents w' = (k a).run agents w') :
    (ask c l).run agents w = (ask c k).run agents w := by
  have hr := run_ask agents w c k
  generalize (ask c k).run agents w = r at hr ⊢
  cases hr with
  | cut i w' called => exact run_ask_cut l called
  | failed f w' called error => exact run_ask_failed l called error
  | answered a w' called ok => rw [run_ask_answered l called ok, h a w' called ok]

/-- If all exchanges in a performance of `p` have `P`, then `q` is performed in the same way. -/
def Repeats (P : Exchange → Prop) (agents : Agents σ) (w : World σ) (p q : Procedure α) : Prop :=
  (∀ x ∈ transcript agents w.agents (p.run agents w).calls, P x) → q.run agents w = p.run agents w

namespace Repeats

variable {P : Exchange → Prop}

theorem refl (p : Procedure α) : Repeats P agents w p p := fun _ => rfl

theorem now {k l : Moment → Procedure α} (h : Repeats P agents w (k w.moment) (l w.moment)) :
    Repeats P agents w (.now k) (.now l) := h

theorem reach {m : Milestone} {k l : Progress → Procedure α}
    (h : ∀ p : Progress, Repeats P agents { w with progress := p } (k p) (l p)) :
    Repeats P agents w (.reach m k) (.reach m l) := by
  unfold Repeats
  simp only [run]
  cases w.progress.advance m w.stamp with
  | error f => exact fun _ => rfl
  | ok p => exact h p

theorem pause {d : Span} {p q : Procedure α}
    (h : Repeats P agents { w with now := w.now + ticksOf d } p q) :
    Repeats P agents w (.pause d p) (.pause d q) := by
  unfold Repeats
  simp only [run]
  have hw := w.waits (ticksOf d)
  generalize w.wait (ticksOf d) = r at hw ⊢
  cases hw with
  | cut g i t watched interrupts => exact fun _ => rfl
  | whole quiet => exact h

theorem ask {c : Agent.Call} {k l : c.Answer → Procedure α}
    (h : ∀ a w', P ⟨w.now, c, (agents.ask c w.agents).1⟩ →
      (agents.ask c w.agents).1.answer = .ok a → Repeats P agents w' (k a) (l a)) :
    Repeats P agents w (.ask c k) (.ask c l) := by
  intro hall
  apply run_ask_congr
  intro a w' called ok
  rw [run_ask_answered k called ok] at hall
  obtain ⟨hfirst, hrest⟩ := List.forall_mem_cons.mp hall
  rw [← (World.after_of_called called).agents] at hrest
  exact h a w' hfirst ok hrest

end Repeats

/-- A listing that an exchange brings has a record of the connection `own`. -/
def Exchange.KeepsOwn (o : Options) (own : ConnectionId .inviter) (x : Exchange) : Prop :=
  ∀ listed, x.Brings (.listConnections o.aliasName) listed → ListsOwn own listed

theorem repeats_look (rule : Matching) {endpoint : String} {c : Correlation} {since : Moment}
    {rest : Sighting → Procedure α} (looks : Nat) (polls : UInt32) (w : World σ) :
    Repeats (Exchange.KeepsOwn o c.connectionId) agents w
      ((look o endpoint c since looks polls).bind rest)
      ((look { o with matching := rule } endpoint c since looks polls).bind rest) := by
  induction looks generalizing polls w with
  | zero => exact .refl _
  | succ looks ih =>
    rw [bind_look_succ, bind_look_succ]
    -- the rule has a say in what is selected only
    apply Repeats.ask
    intro listed w' hkeeps hok
    have hselect : c.select rule o.targetState listed =
        c.select o.matching o.targetState listed :=
      Correlation.select_of_listed (hkeeps listed (Exchange.brings_mk hok)) rule o.matching
    dsimp only
    rw [hselect]
    cases c.select o.matching o.targetState listed with
    | some record => exact .refl _
    | none =>
      apply Repeats.now
      cases o.backoff.next? polls.toNat (elapsed since w'.moment) with
      | none => exact .refl _
      | some d => exact .pause (ih (polls + 1) _)

/-- While the own record is listed a handshake goes the same way by any rule. -/
theorem run_handshake_rule (agents : Agents σ) (o : Options) (rule : Matching) (endpoint : String)
    (stock : Nat) (w : World σ)
    (hown : ∀ created, AnsweredAt (transcript agents w.agents
        ((handshake o endpoint stock).run agents w).calls) 0
        (.createInvitation o.aliasName false) created →
      ∀ x ∈ transcript agents w.agents ((handshake o endpoint stock).run agents w).calls,
        x.KeepsOwn o created.connection) :
    (handshake { o with matching := rule } endpoint stock).run agents w =
      (handshake o endpoint stock).run agents w := by
  rw [handshake_eq] at hown ⊢
  rw [handshake_eq]
  apply run_ask_congr
  intro created w' called ok
  -- only the first answer says which record is the own one
  rw [run_ask_answered _ called ok] at hown
  obtain ⟨-, hrest⟩ := List.forall_mem_cons.mp (hown created ⟨_, rfl, Exchange.brings_mk ok⟩)
  rw [← (World.after_of_called called).agents] at hrest
  refine Repeats.reach (fun p => ?_) hrest
  refine Repeats.ask fun invitee _ _ _ => Repeats.reach fun p => ?_
  refine Repeats.ask fun _ _ _ _ => Repeats.reach fun p => Repeats.now ?_
  exact repeats_look rule _ 0 _

/-- A listing that is brought by an exchange with a script is one of the listings to come. -/
theorem exists_nth_of_brings {endpoint : Side → String} {s : Script} {es : List Logged}
    {x : Exchange} {aliasName : Option String} {listed : List ConnectionRecord}
    (hx : x ∈ transcript (Script.agents endpoint) s es)
    (hbrings : x.Brings (.listConnections aliasName) listed) :
    ∃ n, (s.listed.nth n).answer = .ok listed := by
  induction es generalizing s with
  | nil => cases hx
  | cons e es ih =>
    rw [transcript] at hx
    rcases List.mem_cons.mp hx with rfl | hx
    · obtain ⟨time, call⟩ := e
      obtain rfl : call = .listConnections aliasName := hbrings.call_eq
      refine ⟨0, ?_⟩
      rw [← Agent.Cues.next_fst]
      exact hbrings.answer_eq
    · obtain ⟨n, hn⟩ := ih hx
      cases hcall : e.call with
      | listConnections =>
        rw [hcall] at hn
        exact ⟨n + 1, hn⟩
      | _ =>
        rw [hcall] at hn
        exact ⟨n, hn⟩

theorem run_handshake_of_listsOwn (endpoint : Side → String) (o : Options) (rule : Matching)
    (name : String) (stock : Nat) (w : World Script)
    (hown : ∀ created, w.agents.created.current.answer = .ok created →
      w.agents.ListsOwn created.connection) :
    (handshake { o with matching := rule } name stock).run (Script.agents endpoint) w =
      (handshake o name stock).run (Script.agents endpoint) w := by
  apply run_handshake_rule
  intro created hcreated x hx listed hbrings
  obtain ⟨n, hn⟩ := exists_nth_of_brings hx hbrings
  exact hown created (created_of_answeredAt hcreated) n listed hn

/-- While each listing has the own record a run by the last match is the strict one in all that it
does and comes to, also if it goes on for ever. By the last match a request on another connection is
accepted only behind a listing without the own record. -/
theorem last_match_run_eq_strict (endpoint : Side → String) (o : Options)
    (cancelAfter : Option Nat) (w : World Script) :
    let last := { o with matching := .lastMatch }
    let strict := { o with matching := .strict }
    let r := perform (Script.agents endpoint) last cancelAfter w
    let xs := transcript (Script.agents endpoint) w.agents r.calls
    ((∀ created, w.agents.created.current.answer = .ok created →
        w.agents.ListsOwn created.connection) →
      r = perform (Script.agents endpoint) strict cancelAfter w ∧
        ∀ stock, (handshake last (endpoint .inviter) stock).run (Script.agents endpoint)
            (w.armed last cancelAfter) =
          (handshake strict (endpoint .inviter) stock).run (Script.agents endpoint)
            (w.armed strict cancelAfter)) ∧
      ∀ id, .acceptRequest id ∈ xs.map Exchange.call →
        (xs.map Exchange.call).getLast? = some (.acceptRequest id) ∧
          ∃ created, w.agents.created.current.answer = .ok created ∧
            (id ≠ created.connection →
              ∃ k listed, xs.length = k + 2 ∧
                AnsweredAt xs k (.listConnections o.aliasName) listed ∧
                ¬ListsOwn created.connection listed) := by
  intro last strict r xs
  constructor
  case left =>
    intro hown
    have hruns : ∀ stock, (handshake last (endpoint .inviter) stock).run (Script.agents endpoint)
          (w.armed last cancelAfter) =
        (handshake strict (endpoint .inviter) stock).run (Script.agents endpoint)
          (w.armed strict cancelAfter) := fun stock =>
      run_handshake_of_listsOwn endpoint strict .lastMatch _ stock (w.armed o cancelAfter) hown
    refine ⟨?_, hruns⟩
    change perform (Script.agents endpoint) last cancelAfter w = _
    rw [perform_eq, perform_eq]
    by_cases hcancel : cancelAfter = some 0
    · rw [if_pos hcancel, if_pos hcancel]
      rfl
    · rw [if_neg hcancel, if_neg hcancel]
      exact hruns _
  case right =>
    intro id hmem
    obtain ⟨created, invitee, polls, inviter, hcourse⟩ :=
      exists_course (Script.agents endpoint) last cancelAfter w
    obtain ⟨hcreated, k, listed, record, hlength, hlisted, hpick, rfl⟩ := hcourse.accepted_pick hmem
    refine ⟨hcourse.accepted_last hmem, created, created_of_answeredAt hcreated, fun hother => ?_⟩
    refine ⟨k, listed, hlength, hlisted, ?_⟩
    rintro ⟨own, hmem, hown⟩
    rcases Options.pick_cases hpick with hid | ⟨-, hunlisted, -⟩
    · exact hother (by rw [hid])
    · exact hunlisted own hmem hown

/-- A request that an earlier handshake left behind under the same alias. -/
def staleRecord : ConnectionRecord :=
  { ConnectionRecord.bare "old-1" "request" with aliasName := some "alice-bob" }

def aliasedOptions : Options := { hastyOptions with aliasName := some "alice-bob" }

/-- The own record is not ready at the first look, and the stale one is. -/
def waitingWorld : World Script :=
  quietWorld.relisted ⟨⟨.ok [.bare "inv-1" "invitation", staleRecord], 5, false⟩,
    [⟨.ok [staleRecord, ownRecord], 5, false⟩]⟩

def bereftWorld : World Script := quietWorld.relisted (.always ⟨.ok [staleRecord], 5, false⟩)

theorem waitingWorld_listsOwn (created : Agent.Created)
    (hcreated : waitingWorld.agents.created.current.answer = .ok created) :
    waitingWorld.agents.ListsOwn created.connection := by
  have hid : created = ⟨⟨"inv-1"⟩, ⟨"{}"⟩⟩ := (Except.ok.inj hcreated).symm
  subst hid
  intro n listed hlisted
  cases n with
  | zero =>
    cases hlisted
    exact ⟨.bare "inv-1" "invitation", by simp, rfl⟩
  | succ n =>
    have hlast : waitingWorld.agents.listed.nth (n + 1) =
        ⟨.ok [staleRecord, ownRecord], 5, false⟩ := Agent.Cues.nth_always _ n
    rw [hlast] at hlisted
    cases hlisted
    exact ⟨ownRecord, by simp, rfl⟩

/-- The stale record is passed over while the own one is listed. In its absence it is accepted. -/
theorem waiting_run_is_strict :
    let last := { aliasedOptions with matching := .lastMatch }
    let r := perform (Script.agents fun _ => "") last none waitingWorld
    let q := perform (Script.agents fun _ => "") last none bereftWorld
    (∀ created, waitingWorld.agents.created.current.answer = .ok created →
        waitingWorld.agents.ListsOwn created.connection) ∧
      r = perform (Script.agents fun _ => "") { aliasedOptions with matching := .strict } none
        waitingWorld ∧
      r.calls.getLast? = some ⟨20, .acceptRequest ⟨"inv-1"⟩⟩ ∧
      q.calls.getLast? = some ⟨5, .acceptRequest ⟨"old-1"⟩⟩ ∧
      ∃ k listed, AnsweredAt (transcript (Script.agents fun _ => "") bereftWorld.agents q.calls) k
          (.listConnections (some "alice-bob")) listed ∧ ¬ListsOwn ⟨"inv-1"⟩ listed := by
  intro last r q
  have hrun := (last_match_run_eq_strict (fun _ => "") aliasedOptions none waitingWorld).1
    waitingWorld_listsOwn
  have hlost : q.calls.getLast? = some ⟨5, .acceptRequest ⟨"old-1"⟩⟩ := by decide +kernel
  refine ⟨waitingWorld_listsOwn, hrun.1, by decide +kernel, hlost, ?_⟩
  obtain ⟨-, created, hcreated, hother⟩ :=
    (last_match_run_eq_strict (fun _ => "") aliasedOptions none bereftWorld).2 ⟨"old-1"⟩ (by
      rw [transcript_calls]
      exact List.mem_map_of_mem (List.mem_of_getLast? hlost))
  have hid : created = ⟨⟨"inv-1"⟩, ⟨"{}"⟩⟩ := (Except.ok.inj hcreated).symm
  subst hid
  obtain ⟨k, listed, -, hlisted, hunlisted⟩ := hother (by decide)
  exact ⟨k, listed, hlisted, hunlisted⟩

end Handshake

end Rendezvous
