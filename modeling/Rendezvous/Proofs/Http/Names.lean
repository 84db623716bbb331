import Rendezvous.Proofs.Http.Classification

/-! Which names of connections can be empty. -/

namespace Rendezvous.Http

open Agent (Call Fault Notice)
open Json (readAll)
open Handshake

section Settled

variable [Text.Encodings] {c : Client} {a : Option String} {auto : Bool} {got : Reception}

theorem name_ne_of_created {own : Agent.Created}
    (h : c.settle (.createInvitation a auto) got = .ok own) : own.connection.text ≠ "" := by
  cases got with
  | unsent o => cases h
  | unanswered q => cases h
  | strayed detail => cases h
  | answered q r =>
    obtain ⟨text, -, hanswer⟩ := bind_eq_ok_iff.mp h
    obtain ⟨n, -, hname⟩ := bind_eq_ok_iff.mp hanswer
    obtain ⟨id, hid, hinvitation⟩ := bind_eq_ok_iff.mp hname
    split at hinvitation
    · cases hinvitation
      exact (Client.needId_eq_ok_iff.mp hid).2
    · cases hinvitation

theorem name_ne_of_received {i : Invitation} {invitee : ConnectionId .invitee}
    (h : c.settle (.receiveInvitation i a auto) got = .ok invitee) : invitee.text ≠ "" := by
  cases got with
  | unsent o => cases h
  | unanswered q => cases h
  | strayed detail => cases h
  | answered q r =>
    obtain ⟨text, -, hanswer⟩ := bind_eq_ok_iff.mp h
    obtain ⟨n, -, hname⟩ := bind_eq_ok_iff.mp hanswer
    obtain ⟨id, hid, hok⟩ := bind_eq_ok_iff.mp hname
    cases hok
    exact (Client.needId_eq_ok_iff.mp hid).2

end Settled

/-- In the listing before the last call, a record without a name stands in for the handshake's own
one, which is not listed. -/
structure StandsIn (o : Options) (xs : List Exchange) (own : Agent.Created)
    (listed : List ConnectionRecord) : Prop where
  created : AnsweredAt xs 0 (.createInvitation o.aliasName false) own
  matching : o.matching = .lastMatch
  unlisted : ∀ x ∈ listed, x.connectionId ≠ own.connection.text
  nameless : ∃ record ∈ listed, record.connectionId = "" ∧ record.isIn o.targetState = true ∧
    o.pick own.connection listed = some record
  last : ∃ k, xs.length = k + 2 ∧ AnsweredAt xs k (.listConnections o.aliasName) listed

section Run

variable [Text.Encodings] {clients : Side → Client} {o : Options} {cancelAfter : Option Nat}
  {w : World Traffic}

theorem invitee_named {id : ConnectionId .invitee} {label : Option String}
    (h : .acceptInvitation id label ∈
      (perform (agents clients) o cancelAfter w).calls.map Logged.call) : id.text ≠ "" := by
  obtain ⟨own, invitee, polls, inviter, hcourse⟩ :=
    exists_course (agents clients) o cancelAfter w
  rw [← transcript_calls (agents clients) w.agents] at h
  obtain ⟨rfl, hlength⟩ := hcourse.invitee_mem h
  exact name_ne_of_received (settle_of_answeredAt (hcourse.received hlength))

theorem standsIn_of_nameless {id : ConnectionId .inviter}
    (h : .acceptRequest id ∈ (perform (agents clients) o cancelAfter w).calls.map Logged.call)
    (hid : id.text = "") :
    ∃ own listed, StandsIn o (transcript (agents clients) w.agents
      (perform (agents clients) o cancelAfter w).calls) own listed := by
  obtain ⟨own, invitee, polls, inviter, hcourse⟩ :=
    exists_course (agents clients) o cancelAfter w
  rw [← transcript_calls (agents clients) w.agents] at h
  obtain ⟨hcreated, k, listed, record, hlength, hlisted, hpick, rfl⟩ := hcourse.accepted_pick h
  have hnamed := name_ne_of_created (settle_of_answeredAt hcreated)
  refine ⟨own, listed, ?_⟩
  rcases Options.pick_cases hpick with hown | ⟨hmatching, hunlisted, hmem, hin⟩
  · exact absurd (hown.symm.trans hid) hnamed
  · exact ⟨hcreated, hmatching, hunlisted, ⟨record, hmem, hid, hin, hpick⟩, k, hlength, hlisted⟩

end Run

/-- The invitee accepts no connection without a name, and the inviter only one that a listing gave
none, where under `lastMatch` it stands in for a connection that is not listed. An answer about one
connection that does not name it is malformed and settles the run. -/
theorem nameless_only_stands_in [Text.Encodings] (clients : Side → Client) (o : Options)
    (cancelAfter : Option Nat) (w : World Traffic) :
    let r := perform (agents clients) o cancelAfter w
    let xs := transcript (agents clients) w.agents r.calls
    let got (k : Nat) (call : Call) := (clients call.side).reception call w.agents.coming[k]?
    let due (k : Nat) (e : Logged) :=
      e.time + (clients e.call.side).returns e.call w.agents.coming[k]?
    (∀ id label, .acceptInvitation id label ∈ r.calls.map Logged.call → id.text ≠ "") ∧
    (∀ id, .acceptRequest id ∈ r.calls.map Logged.call → id.text = "" →
      ∃ own listed, StandsIn o xs own listed) ∧
    (∀ out, r.result o.limit = some (.ok out) → out.invitee.text ≠ "" ∧
      (out.inviter.text = "" → ∃ own listed, StandsIn o xs own listed)) ∧
    ∀ k e q response body sh n, r.calls[k]? = some e → got k e.call = .answered q response →
      200 ≤ response.status ∧ response.status ≤ 299 → response.body = some body →
      noticeShape? e.call = some sh → readAll sh.read (response.charset.decode body) = .ok n →
      (∀ id ∈ n.connectionId, id = "") →
      r.calls.length = k + 1 ∧
      if due k e ≤ r.world.now then
        r.result o.limit = some (.error (.malformed (stepOf e.call)
          (clients e.call.side).endpoint.baseUrl
          (e.call.title ++ " response has no connection_id")))
      else ∃ i, r.ending = .interrupted i := by
  intro r xs got due
  refine ⟨fun id label h => invitee_named h, fun id h hid => standsIn_of_nameless h hid, ?_, ?_⟩
  · intro out hout
    obtain ⟨invitation, polls, -, hcalls⟩ := calls_of_ok hout
    have haccepted : .acceptInvitation out.invitee o.label ∈ r.calls.map Logged.call := by
      rw [hcalls]
      simp [course]
    have hrequest : .acceptRequest out.inviter ∈ r.calls.map Logged.call := by
      rw [hcalls]
      simp [course]
    exact ⟨invitee_named haccepted, standsIn_of_nameless hrequest⟩
  · intro k e q response body sh n he hgot hstatus hbody hshape hread hnone
    have hf := Refutes.misread (c := clients e.call.side) (q := q) hstatus hbody
      (.unnamed hshape hread hnone)
    rw [← hgot] at hf
    have hsettled := Refutes.settles he hf
    exact hsettled

/-- The inviter lists one connection, which has no name. -/
def namelessWorld : World Traffic :=
  worldOf ["\x7b\"connection_id\":\"i\",\"invitation\":1\x7d",
    "\x7b\"connection_id\":\"j\"\x7d", "",
    "\x7b\"results\":[\x7b\"connection_id\":\"\",\"state\":\"request\"\x7d]\x7d", ""]

def lastMatchOptions : Options := { Options.standard with matching := .lastMatch }

/-- A connection without a name in a listing is not refused: it is accepted, and the outcome holds
its empty name. -/
theorem nameless_request_is_accepted :
    ∃ out, (perform (agents plainClients) lastMatchOptions none namelessWorld).result
        lastMatchOptions.limit = some (.ok out) ∧
      out.inviter.text = "" ∧
      .acceptRequest out.inviter ∈
        (perform (agents plainClients) lastMatchOptions none namelessWorld).calls.map
          Logged.call := by
  have hname : (((perform (agents plainClients) lastMatchOptions none namelessWorld).result
      lastMatchOptions.limit).bind Except.toOption).map (fun out => out.inviter.text) =
      some "" := by decide +kernel
  obtain ⟨out, hout, htext⟩ := Option.map_eq_some_iff.mp hname
  obtain ⟨result, hresult, hok⟩ := Option.bind_eq_some_iff.mp hout
  rw [toOption_eq_some_iff.mp hok] at hresult
  obtain ⟨invitation, polls, -, hcalls⟩ := calls_of_ok hresult
  have hmem : Call.acceptRequest out.inviter ∈
      course lastMatchOptions invitation out.invitee polls out.inviter := by simp [course]
  rw [← hcalls] at hmem
  exact ⟨out, hresult, htext, hmem⟩

end Rendezvous.Http
