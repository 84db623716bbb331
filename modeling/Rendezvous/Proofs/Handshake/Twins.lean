import Rendezvous.Proofs.Handshake.Agreement
import Rendezvous.Proofs.Handshake.Repetition

/-! Scripts whose listings differ only in records of other connections. To a search by the strict
rule they are all one. -/

namespace Rendezvous

def ConnectionRecord.isOf (own : ConnectionId .inviter) (r : ConnectionRecord) : Bool :=
  r.connectionId == own.text

namespace Agent

/-- The reply to a request for a listing, without the records of other connections. -/
def Reply.ownOnly (own : ConnectionId .inviter)
    (r : Reply (Except Fault (List ConnectionRecord))) :
    Reply (Except Fault (List ConnectionRecord)) :=
  { r with answer := r.answer.map fun listed => listed.filter (·.isOf own) }

theorem Reply.answer_of_ownOnly_eq {own : ConnectionId .inviter}
    {r r' : Reply (Except Fault (List ConnectionRecord))} (h : r.ownOnly own = r'.ownOnly own) :
    (∃ f, r.answer = .error f ∧ r'.answer = .error f) ∨
      ∃ listed listed', r.answer = .ok listed ∧ r'.answer = .ok listed' ∧
        listed.filter (·.isOf own) = listed'.filter (·.isOf own) := by
  obtain ⟨answer, latency, cancels⟩ := r
  obtain ⟨answer', latency', cancels'⟩ := r'
  simp only [ownOnly, Reply.mk.injEq] at h
  cases answer with
  | error f =>
    cases answer' with
    | error f' =>
      have hf : f = f' := by simpa [Except.map] using h.1
      exact .inl ⟨f, rfl, by rw [hf]⟩
    | ok listed' => simp [Except.map] at h
  | ok listed =>
    cases answer' with
    | error f' => simp [Except.map] at h
    | ok listed' => exact .inr ⟨listed, listed', rfl, rfl, by simpa [Except.map] using h.1⟩

/-- Two scripts that differ in the listings only, and there in records of other connections. -/
structure Script.Twins (own : ConnectionId .inviter) (s t : Script) : Prop where
  created : s.created = t.created
  received : s.received = t.received
  invitationAccepted : s.invitationAccepted = t.invitationAccepted
  requestAccepted : s.requestAccepted = t.requestAccepted
  listed : ∀ n, (s.listed.nth n).ownOnly own = (t.listed.nth n).ownOnly own

namespace Script.Twins

variable {own : ConnectionId .inviter} {s t : Script}

theorem symm (h : Twins own s t) : Twins own t s :=
  ⟨h.created.symm, h.received.symm, h.invitationAccepted.symm, h.requestAccepted.symm,
    fun n => (h.listed n).symm⟩

/-- The rest of the script after a call is a twin again. -/
theorem reply (h : Twins own s t) (c : Call) : Twins own (s.reply c).2 (t.reply c).2 := by
  obtain ⟨hc, hr, hi, ha, hl⟩ := h
  cases c with
  | listConnections aliasName => exact ⟨hc, hr, hi, ha, fun n => hl (n + 1)⟩
  | createInvitation aliasName autoAccept => exact ⟨by simp [Script.reply, hc], hr, hi, ha, hl⟩
  | receiveInvitation invitation aliasName autoAccept =>
    exact ⟨hc, by simp [Script.reply, hr], hi, ha, hl⟩
  | acceptInvitation connection label => exact ⟨hc, hr, by simp [Script.reply, hi], ha, hl⟩
  | acceptRequest connection => exact ⟨hc, hr, hi, by simp [Script.reply, ha], hl⟩

theorem reply_eq (h : Twins own s t) {c : Call} (hc : ∀ aliasName, c ≠ .listConnections aliasName) :
    (s.reply c).1 = (t.reply c).1 := by
  cases c with
  | listConnections aliasName => exact absurd rfl (hc aliasName)
  | createInvitation aliasName autoAccept => simp [Script.reply, h.created]
  | receiveInvitation invitation aliasName autoAccept => simp [Script.reply, h.received]
  | acceptInvitation connection label => simp [Script.reply, h.invitationAccepted]
  | acceptRequest connection => simp [Script.reply, h.requestAccepted]

end Script.Twins

end Agent

namespace Handshake

open Agent (Script)
open Procedure

variable {α : Type} {o : Options} {c : Correlation} {since : Moment} {w v : World Script}
  {endpoint : Side → String}

/-- The strict rule sees only what is listed of the connection itself. -/
theorem select_strict_congr (c : Correlation) (target : String)
    {listed listed' : List ConnectionRecord}
    (h : listed.filter (·.isOf c.connectionId) = listed'.filter (·.isOf c.connectionId)) :
    c.select .strict target listed = c.select .strict target listed' := by
  have hfind : listed.find? (·.isOf c.connectionId) = listed'.find? (·.isOf c.connectionId) := by
    rw [← List.head?_filter, ← List.head?_filter, h]
  simp only [ConnectionRecord.isOf] at hfind
  simp only [Correlation.select, Correlation.choose, id_eq, hfind]

/-- Two worlds that are alike, with twin scripts. -/
structure World.Twins (own : ConnectionId .inviter) (w v : World Script) : Prop where
  alike : w.Alike v
  agents : Script.Twins own w.agents v.agents

namespace World.Twins

variable {own : ConnectionId .inviter} {w' v' : World Script}

theorem symm (h : Twins own w v) : Twins own v w := ⟨h.alike.symm, h.agents.symm⟩

theorem goOn (h : Twins own w v) (n : Nat) :
    Twins own { w with now := w.now + n } { v with now := v.now + n } :=
  ⟨h.alike.goOn n, h.agents⟩

theorem called (h : Twins own w v) {call : Agent.Call} {i j : Option Interruption}
    (hw : w.called (Script.agents endpoint) call = (i, w'))
    (hv : v.called (Script.agents endpoint) call = (j, v')) (halike : w'.Alike v') :
    Twins own w' v' := by
  refine ⟨halike, ?_⟩
  rw [(World.after_of_called hw).agents, (World.after_of_called hv).agents]
  exact h.agents.reply call

end World.Twins

theorem Idle.twin (hstrict : o.matching = .strict) (htwins : World.Twins c.connectionId w v)
    (h : Idle o c since w) : Idle o c since v := by
  constructor
  · intro n
    rw [← h.latency n]
    exact (congrArg Agent.Reply.latency (htwins.agents.listed n)).symm
  · intro n
    obtain ⟨listed, hlisted, hnone⟩ := h.unseen n
    rcases Agent.Reply.answer_of_ownOnly_eq (htwins.agents.listed n) with
      ⟨f, hf, -⟩ | ⟨listed₁, listed', hlisted₁, hlisted', hfilter⟩
    · rw [hlisted] at hf
      cases hf
    · rw [hlisted] at hlisted₁
      cases hlisted₁
      refine ⟨listed', hlisted', ?_⟩
      rw [hstrict] at hnone ⊢
      rw [← select_strict_congr c o.targetState hfilter, hnone]
  · rw [← htwins.alike.moment]
    exact h.budget
  · exact h.still

section Search

variable {even : Prop} {name : String} {rest : Sighting → Procedure α}

/-- A look on both sides, given what follows if it is not the last one. -/
theorem agree_look_succ (hstrict : o.matching = .strict)
    (hrest : ∀ seen w v, World.Twins c.connectionId w v →
      Agree even ((rest seen).run (Script.agents endpoint) w)
        ((rest seen).run (Script.agents endpoint) v))
    {looks looks' : Nat} {polls : UInt32} (htwins : World.Twins c.connectionId w v)
    (hmore : ∀ w' v' d, Missed endpoint o c since polls w w' d →
      Missed endpoint o c since polls v v' d → World.Twins c.connectionId w' v' →
      Agree even
        (((look o name c since looks (polls + 1)).bind rest).run (Script.agents endpoint)
          { w' with now := w'.now + ticksOf d })
        (((look o name c since looks' (polls + 1)).bind rest).run (Script.agents endpoint)
          { v' with now := v'.now + ticksOf d })) :
    Agree even
      (((look o name c since (looks + 1) polls).bind rest).run (Script.agents endpoint) w)
      (((look o name c since (looks' + 1) polls).bind rest).run (Script.agents endpoint) v) := by
  have hreply : ∀ s : Script,
      ((Script.agents endpoint).ask (.listConnections o.aliasName) s).1 = s.listed.nth 0 :=
    fun s => s.listed.next_fst
  have hfirst := htwins.agents.listed 0
  have hlatency : (w.agents.listed.nth 0).latency = (v.agents.listed.nth 0).latency := by
    have h := congrArg Agent.Reply.latency hfirst
    exact h
  have hcancels : (w.agents.listed.nth 0).cancels = (v.agents.listed.nth 0).cancels := by
    have h := congrArg Agent.Reply.cancels hfirst
    exact h
  rw [bind_look_succ, bind_look_succ]
  refine .ask htwins.alike (by rwa [hreply, hreply]) (by rwa [hreply, hreply]) ?_ ?_
  · intro f hf
    rw [hreply] at hf ⊢
    rcases Agent.Reply.answer_of_ownOnly_eq hfirst with ⟨f', hf', hv⟩ | ⟨listed, _, hw, -, -⟩
    · rw [hf] at hf'
      cases hf'
      exact hv
    · rw [hf] at hw
      cases hw
  · intro listed hlisted
    rw [hreply] at hlisted
    rcases Agent.Reply.answer_of_ownOnly_eq hfirst with
      ⟨f, hf, -⟩ | ⟨listed₁, listed', hlisted₁, hlisted', hfilter⟩
    · rw [hlisted] at hf
      cases hf
    · rw [hlisted] at hlisted₁
      cases hlisted₁
      have hselect : c.select o.matching o.targetState listed =
          c.select o.matching o.targetState listed' := by
        rw [hstrict]
        exact select_strict_congr c o.targetState hfilter
      refine ⟨listed', by rw [hreply]; exact hlisted', fun w' v' hw hv halike => ?_⟩
      have htwins' := htwins.called hw hv halike
      rw [← hselect]
      cases hpick : c.select o.matching o.targetState listed with
      | some record => exact hrest _ w' v' htwins'
      | none =>
        apply Agree.now halike
        cases hd : o.backoff.next? polls.toNat (elapsed since w'.moment) with
        | none => exact .of_ending halike
        | some d =>
          have hmissed : Missed endpoint o c since polls w w' d :=
            ⟨hw, ⟨listed, hlisted, hpick⟩, hd⟩
          rw [hselect] at hpick
          rw [halike.moment] at hd
          exact .pause halike
            (hmore w' v' d hmissed ⟨hv, ⟨listed', hlisted', hpick⟩, hd⟩ htwins')

/-- Two searches to which the same number of looks is granted. -/
theorem agree_look_granted (hstrict : o.matching = .strict)
    (hrest : ∀ seen w v, World.Twins c.connectionId w v →
      Agree even ((rest seen).run (Script.agents endpoint) w)
        ((rest seen).run (Script.agents endpoint) v))
    (looks : Nat) (polls : UInt32) (w v : World Script) (htwins : World.Twins c.connectionId w v) :
    Agree even
      (((look o name c since looks polls).bind rest).run (Script.agents endpoint) w)
      (((look o name c since looks polls).bind rest).run (Script.agents endpoint) v) := by
  induction looks generalizing polls w v with
  | zero => exact .of_ending htwins.alike
  | succ looks ih =>
    apply agree_look_succ hstrict hrest htwins
    intro w' v' d _ _ htwins'
    exact ih (polls + 1) _ _ (htwins'.goOn _)

/-- Two searches that have come to a standstill. -/
theorem Idle.agree (htwins : World.Twins c.connectionId w v) (hw : Idle o c since w)
    (hv : Idle o c since v) (looks looks' : Nat) (polls : UInt32) :
    Agree False
      (((look o name c since looks polls).bind rest).run (Script.agents endpoint) w)
      (((look o name c since looks' polls).bind rest).run (Script.agents endpoint) v) := by
  obtain ⟨w', hrunw, hnoww, hprogressw⟩ := hw.run_look endpoint name rest looks polls
  obtain ⟨v', hrunv, hnowv, hprogressv⟩ := hv.run_look endpoint name rest looks' polls
  rw [hrunw, hrunv]
  constructor
  · rfl
  · exact hnoww.trans (htwins.alike.now.trans hnowv.symm)
  · exact hprogressw.trans (htwins.alike.progress.trans hprogressv.symm)
  · simp

/-- Two searches with looks enough for the budget and for what is left of the listings. -/
theorem agree_look (hstrict : o.matching = .strict)
    (hrest : ∀ seen w v, World.Twins c.connectionId w v →
      Agree False ((rest seen).run (Script.agents endpoint) w)
        ((rest seen).run (Script.agents endpoint) v))
    (looks looks' : Nat) (polls : UInt32) (w v : World Script)
    (htwins : World.Twins c.connectionId w v)
    (hw : since.tick + o.backoff.budget.millisUp + w.agents.listed.later.length ≤ w.now + looks)
    (hv : since.tick + o.backoff.budget.millisUp + v.agents.listed.later.length ≤
      v.now + looks') :
    Agree False
      (((look o name c since (looks + 1) polls).bind rest).run (Script.agents endpoint) w)
      (((look o name c since (looks' + 1) polls).bind rest).run (Script.agents endpoint) v) := by
  induction looks generalizing looks' polls w v with
  | zero =>
    apply agree_look_succ hstrict hrest htwins
    intro w' v' d hmissed _ _
    have hlt := hmissed.lt
    omega
  | succ looks ih =>
    apply agree_look_succ hstrict hrest htwins
    intro w' v' d hmissedw hmissedv htwins'
    have hgo := htwins'.goOn (ticksOf d)
    cases looks' with
    | zero =>
      have hlt := hmissedv.lt
      omega
    | succ looks' =>
      -- The script on one side may be longer. Where the other one stands still, it does so too.
      rcases hmissedw.enough_or_idle hw with hw' | hidle
      · rcases hmissedv.enough_or_idle hv with hv' | hidle
        · exact ih looks' (polls + 1) _ _ hgo hw' hv'
        · exact Idle.agree hgo (hidle.twin hstrict hgo.symm) hidle _ _ _
      · exact Idle.agree hgo hidle (hidle.twin hstrict hgo) _ _ _

end Search

end Handshake

end Rendezvous
