import Rendezvous.Proofs.Handshake.Interruption
import Rendezvous.Proofs.Handshake.Twins

/-! Under strict matching the records of other connections have no influence on a run. -/

namespace Rendezvous.Handshake

open Agent (Script)
open Procedure

variable {o : Options} {own : ConnectionId .inviter} {endpoint : Side → String}

theorem agree_acceptSeen {even : Prop} (invitee : ConnectionId .invitee) (seen : Sighting)
    (w v : World Script) (htwins : World.Twins own w v) :
    Agree even ((acceptSeen invitee seen).run (Script.agents endpoint) w)
      ((acceptSeen invitee seen).run (Script.agents endpoint) v) := by
  apply Agree.reach htwins.alike
  intro p halike
  apply Agree.ask_eq halike (htwins.agents.reply_eq (by simp))
  intro _ w₁ v₁ _ _ _ halike
  apply Agree.reach halike
  intro p halike
  exact .now halike (.of_ending halike)

def World.relisted (w : World Script) (listed : Agent.Cues (List ConnectionRecord)) :
    World Script :=
  { w with agents := { w.agents with listed := listed } }

theorem listed_of_called {w w' : World Script} {call : Agent.Call} {i : Option Interruption}
    (hcall : ∀ aliasName, call ≠ .listConnections aliasName)
    (h : w.called (Script.agents endpoint) call = (i, w')) :
    w'.agents.listed = w.agents.listed := by
  rw [(World.after_of_called h).agents]
  cases call with
  | listConnections aliasName => exact absurd rfl (hcall aliasName)
  | _ => rfl

section Run

variable {w : World Script} {listed : Agent.Cues (List ConnectionRecord)}
  (hown : ∀ created, w.agents.created.current.answer = .ok created → ∀ n,
    (w.agents.listed.nth n).ownOnly created.connection =
      (listed.nth n).ownOnly created.connection)
include hown

/-- Two handshakes whose searches agree. -/
theorem agree_handshake {even : Prop} (name : String) (stock stock' : Nat)
    (hsearch : ∀ (created : Agent.Created) invitee w' v',
      World.Twins created.connection w' v' → w'.agents.listed = w.agents.listed →
      v'.agents.listed = listed →
      Agree even
        (((look o name ⟨created.connection, o.aliasName⟩ w'.moment
          (looksWithin o.backoff stock) 0).bind (acceptSeen invitee)).run
            (Script.agents endpoint) w')
        (((look o name ⟨created.connection, o.aliasName⟩ w'.moment
          (looksWithin o.backoff stock') 0).bind (acceptSeen invitee)).run
            (Script.agents endpoint) v')) :
    Agree even ((handshake o name stock).run (Script.agents endpoint) w)
      ((handshake o name stock').run (Script.agents endpoint) (w.relisted listed)) := by
  have halike : w.Alike (w.relisted listed) := ⟨rfl, rfl, rfl, rfl⟩
  rw [handshake_eq, handshake_eq]
  apply Agree.ask_eq halike rfl
  intro created w₁ v₁ hanswer hw₁ hv₁ halike
  have hcreated : w.agents.created.current.answer = .ok created := by
    rw [← hanswer]
    exact (congrArg Agent.Reply.answer w.agents.created.next_fst).symm
  have htwins : World.Twins created.connection w₁ v₁ := by
    refine ⟨halike, ?_⟩
    rw [(World.after_of_called hw₁).agents, (World.after_of_called hv₁).agents]
    exact ⟨rfl, rfl, rfl, rfl, hown created hcreated⟩
  apply Agree.reach halike
  intro p halike
  have htwins : World.Twins created.connection { w₁ with progress := p }
      { v₁ with progress := p } := ⟨halike, htwins.agents⟩
  apply Agree.ask_eq halike (htwins.agents.reply_eq (by simp))
  intro invitee w₂ v₂ _ hw₂ hv₂ halike
  have htwins := htwins.called hw₂ hv₂ halike
  apply Agree.reach halike
  intro p halike
  have htwins : World.Twins created.connection { w₂ with progress := p }
      { v₂ with progress := p } := ⟨halike, htwins.agents⟩
  apply Agree.ask_eq halike (htwins.agents.reply_eq (by simp))
  intro _ w₃ v₃ _ hw₃ hv₃ halike
  have htwins := htwins.called hw₃ hv₃ halike
  apply Agree.reach halike
  intro p halike
  apply Agree.now halike
  apply hsearch created invitee
  · exact ⟨halike, htwins.agents⟩
  · have h₁ := listed_of_called (by simp) hw₁
    have h₂ := listed_of_called (by simp) hw₂
    have h₃ := listed_of_called (by simp) hw₃
    exact h₃.trans (h₂.trans h₁)
  · have h₁ := listed_of_called (by simp) hv₁
    have h₂ := listed_of_called (by simp) hv₂
    have h₃ := listed_of_called (by simp) hv₃
    exact h₃.trans (h₂.trans h₁)

/-- Two handshakes to which the same number of looks is granted. -/
theorem agree_handshake_granted (hstrict : o.matching = .strict) (name : String) (stock : Nat) :
    Agree True ((handshake o name stock).run (Script.agents endpoint) w)
      ((handshake o name stock).run (Script.agents endpoint) (w.relisted listed)) := by
  apply agree_handshake hown name stock stock
  intro created invitee w' v' htwins _ _
  exact agree_look_granted hstrict (agree_acceptSeen invitee) _ 0 _ _ htwins

theorem agree_perform (hstrict : o.matching = .strict) (cancelAfter : Option Nat) :
    Agree False (perform (Script.agents endpoint) o cancelAfter w)
      (perform (Script.agents endpoint) o cancelAfter (w.relisted listed)) := by
  rw [perform_eq, perform_eq]
  by_cases hcancel : cancelAfter = some 0
  · rw [if_pos hcancel, if_pos hcancel]
    exact .of_ending ⟨rfl, rfl, rfl, rfl⟩
  · rw [if_neg hcancel, if_neg hcancel]
    have hlooks : ∀ s : Script, looksWithin o.backoff ((Script.agents endpoint).stock s) =
        o.backoff.budget.millisUp + s.listed.later.length + 1 + 1 := by
      intro s
      rw [looksWithin_eq]
      rfl
    apply agree_handshake (w := w.armed o cancelAfter) hown
    intro created invitee w' v' htwins hlistedw hlistedv
    rw [hlooks, hlooks]
    apply agree_look hstrict (agree_acceptSeen invitee) _ _ 0 _ _ htwins
    · simp only [World.moment, hlistedw, World.armed]
      omega
    · have hnow := htwins.alike.now
      simp only [World.moment, hlistedv, World.relisted] at hnow ⊢
      omega

end Run

/-- The strict rule picks the handshake's own connection. -/
theorem pick_strict (hstrict : o.matching = .strict) {listed : List ConnectionRecord}
    {record : ConnectionRecord} (h : o.pick own listed = some record) :
    (⟨record.connectionId⟩ : ConnectionId .inviter) = own := by
  rcases Options.pick_cases h with hown | ⟨hlast, -⟩
  · rw [hown]
  · rw [hstrict] at hlast
    cases hlast

/-- Under the strict rule the only request that is accepted is the one on the connection with which
the handshake began. -/
theorem accepts_own_only {σ : Type} (agents : Agents σ) (hstrict : o.matching = .strict)
    (cancelAfter : Option Nat) (w : World σ) {e : Logged} {id : ConnectionId .inviter}
    (he : e ∈ (perform agents o cancelAfter w).calls) (hid : e.call = .acceptRequest id) :
    ∃ created, id = created.connection ∧
      AnsweredAt (transcript agents w.agents (perform agents o cancelAfter w).calls) 0
        (.createInvitation o.aliasName false) created := by
  rcases perform_cases agents o cancelAfter w with ⟨-, hcalls, -, -⟩ | ⟨-, answered, pending, g, h⟩
  · rw [hcalls] at he
    cases he
  · obtain ⟨created, invitee, polls, inviter, hcourse, -⟩ := h.course
    have hmem : .acceptRequest id ∈ (transcript agents w.agents
        (perform agents o cancelAfter w).calls).map Exchange.call := by
      rw [transcript_calls, ← hid]
      exact List.mem_map_of_mem he
    obtain ⟨hcreated, -, listed, record, -, -, hpick, rfl⟩ := hcourse.accepted_pick hmem
    exact ⟨created, pick_strict hstrict hpick, hcreated⟩

/-- The reply to the first call of a script. -/
theorem created_of_answeredAt {s : Script} {es : List Logged} {aliasName : Option String}
    {autoAccept : Bool} {created : Agent.Created}
    (h : AnsweredAt (transcript (Script.agents endpoint) s es) 0
      (.createInvitation aliasName autoAccept) created) :
    s.created.current.answer = .ok created := by
  obtain ⟨x, hx, hbrings⟩ := h
  cases es with
  | nil => simp [transcript] at hx
  | cons e es =>
    obtain ⟨time, call⟩ := e
    obtain rfl := Option.some.inj hx
    obtain rfl : call = .createInvitation aliasName autoAccept := hbrings.call_eq
    have hfirst : s.created.next.1.answer = s.created.current.answer :=
      congrArg Agent.Reply.answer s.created.next_fst
    rw [← hfirst]
    exact hbrings.answer_eq

/-- Two runs whose listings differ only in records of connections other than their own have the same
result, the same calls at the same times, and the same end. A run that goes on for ever does so on
both sides, with the same calls as far as one looks. No request on another connection is
accepted. -/
theorem strict_run_ignores_foreign (endpoint : Side → String) (o : Options)
    (hstrict : o.matching = .strict) (cancelAfter : Option Nat) (w : World Script)
    (listed : Agent.Cues (List ConnectionRecord))
    (hown : ∀ created, w.agents.created.current.answer = .ok created → ∀ n,
      (w.agents.listed.nth n).ownOnly created.connection =
        (listed.nth n).ownOnly created.connection) :
    let r := perform (Script.agents endpoint) o cancelAfter w
    let q := perform (Script.agents endpoint) o cancelAfter (w.relisted listed)
    r.result o.limit = q.result o.limit ∧
      r.world.now = q.world.now ∧
      r.world.progress = q.world.progress ∧
      ((r.result o.limit).isSome → r.calls = q.calls) ∧
      (∀ stock, ((handshake o (endpoint .inviter) stock).run (Script.agents endpoint)
          (w.armed o cancelAfter)).calls =
        ((handshake o (endpoint .inviter) stock).run (Script.agents endpoint)
          ((w.relisted listed).armed o cancelAfter)).calls) ∧
      ∀ e ∈ r.calls, ∀ id, e.call = .acceptRequest id →
        ∃ created, w.agents.created.current.answer = .ok created ∧ id = created.connection := by
  intro r q
  have hagree : Agree False r q := agree_perform hown hstrict cancelAfter
  refine ⟨?_, hagree.time, hagree.progress, fun hsome => ?_, fun stock => ?_, fun e he id hid => ?_⟩
  · unfold Run.result
    rw [hagree.ending, hagree.progress]
  · refine hagree.calls (.inr fun hendless => ?_)
    rw [Run.result_eq_none_iff.mpr hendless] at hsome
    cases hsome
  · exact (agree_handshake_granted (w := w.armed o cancelAfter) hown hstrict _ stock).calls
      (.inl trivial)
  · obtain ⟨created, hcreated, hanswered⟩ :=
      accepts_own_only (Script.agents endpoint) hstrict cancelAfter w he hid
    exact ⟨created, created_of_answeredAt hanswered, hcreated⟩

def ownRecord : ConnectionRecord := .bare "inv-1" "request"

/-- A request on another connection, ahead of the own one. -/
def crowdedWorld : World Script :=
  quietWorld.relisted (.always ⟨.ok [.bare "inv-0" "request", ownRecord], 5, false⟩)

theorem crowded_run_ignores_foreign :
    hastyOptions.matching = .strict ∧
      (∀ created, crowdedWorld.agents.created.current.answer = .ok created → ∀ n,
        (crowdedWorld.agents.listed.nth n).ownOnly created.connection =
          ((Agent.Cues.always ⟨.ok [ownRecord], 5, false⟩).nth n).ownOnly created.connection) ∧
      (perform (Script.agents fun _ => "") hastyOptions none crowdedWorld).result
          hastyOptions.limit =
        (perform (Script.agents fun _ => "") hastyOptions none
          (crowdedWorld.relisted (.always ⟨.ok [ownRecord], 5, false⟩))).result
            hastyOptions.limit ∧
      ((perform (Script.agents fun _ => "") hastyOptions none crowdedWorld).result
        hastyOptions.limit).isSome ∧
      (perform (Script.agents fun _ => "") hastyOptions none crowdedWorld).calls =
        (perform (Script.agents fun _ => "") hastyOptions none
          (crowdedWorld.relisted (.always ⟨.ok [ownRecord], 5, false⟩))).calls := by
  have hown : ∀ created, crowdedWorld.agents.created.current.answer = .ok created → ∀ n,
      (crowdedWorld.agents.listed.nth n).ownOnly created.connection =
        ((Agent.Cues.always ⟨.ok [ownRecord], 5, false⟩).nth n).ownOnly created.connection := by
    intro created hcreated n
    have hid : created = ⟨⟨"inv-1"⟩, ⟨"{}"⟩⟩ := (Except.ok.inj hcreated).symm
    subst hid
    rw [crowdedWorld, World.relisted, Agent.Cues.nth_always, Agent.Cues.nth_always]
    rfl
  have hrun := strict_run_ignores_foreign (fun _ => "") hastyOptions rfl none crowdedWorld _ hown
  have hsome : ((perform (Script.agents fun _ => "") hastyOptions none crowdedWorld).result
      hastyOptions.limit).isSome := by decide +kernel
  exact ⟨rfl, hown, hrun.1, hsome, hrun.2.2.2.1 hsome⟩

end Rendezvous.Handshake
