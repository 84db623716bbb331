import Rendezvous.Proofs.Http.Classification

/-! The two calls by which something is accepted use no text of the response, but the response has
to come as a whole. -/

namespace Rendezvous.Http

open Agent (Call Fault)

/-- Whether a call only accepts something, so that nothing is read from the response. -/
def accepts : Call → Bool
  | .acceptInvitation .. | .acceptRequest _ => true
  | _ => false

variable {c : Client} {call : Call} {q : Request} {r : Response} {f : Fault} {text : String}

theorem exists_answer_of_accepts (h : accepts call = true) (c : Client) (text : String) :
    ∃ a, c.readAnswer call text = .ok a := by
  cases call with
  | acceptInvitation id label => exact ⟨(), rfl⟩
  | acceptRequest id => exact ⟨(), rfl⟩
  | _ => cases h

/-- A response that reports success is accepted with its text, if that can be read. -/
theorem Client.accepted_eq_ok_iff [Text.Encodings] : c.accepted call r = .ok text ↔
    (200 ≤ r.status ∧ r.status ≤ 299) ∧ r.text? = some text := by
  rw [accepted, ← isSuccess_iff]
  by_cases hs : r.isSuccess = true
  · cases ht : r.text? <;> simp [hs]
  · simp [hs]

def Client.brokenOff (c : Client) (call : Call) : Fault :=
  c.unreachable call "response body could not be read" "error decoding response body"

/-- Such a call fails on a status that is no success, and on a response that breaks off. -/
theorem settle_accepting_eq_error_iff [Text.Encodings] (h : accepts call = true) :
    c.settle call (.answered q r) = .error f ↔
      ((r.status < 200 ∨ 299 < r.status) ∧
          f = .refused c.endpoint.baseUrl r.status (r.text?.getD "")) ∨
        ((200 ≤ r.status ∧ r.status ≤ 299) ∧ r.body = none ∧ f = c.brokenOff call) := by
  rw [Client.settle_eq_error_iff]
  constructor
  · intro hrefutes
    cases hrefutes with
    | refused status read => exact .inl ⟨status, by simp [Response.text?, read]⟩
    | refusedUnread status unread => exact .inl ⟨status, by simp [Response.text?, unread]⟩
    | unread status unread => exact .inr ⟨status, unread, rfl⟩
    | @misread _ _ body detail _ _ misread =>
      obtain ⟨a, ha⟩ := exists_answer_of_accepts h c (r.charset.decode body)
      have herror : c.readAnswer call (r.charset.decode body) = .error _ :=
        Client.readAnswer_eq_error_iff.mpr ⟨detail, rfl, misread⟩
      rw [ha] at herror
      cases herror
  · rintro (⟨status, rfl⟩ | ⟨status, unread, rfl⟩)
    · cases hbody : r.body with
      | none =>
        simp only [Response.text?, hbody, Option.map_none, Option.getD_none]
        exact .refusedUnread status hbody
      | some body =>
        simp only [Response.text?, hbody, Option.map_some, Option.getD_some]
        exact .refused status hbody
    · exact .unread status unread

theorem settle_accepting_eq_ok_iff [Text.Encodings] (h : accepts call = true) :
    (∃ a, c.settle call (.answered q r) = .ok a) ↔
      (200 ≤ r.status ∧ r.status ≤ 299) ∧ r.body ≠ none := by
  simp only [Client.settle, Client.conclude, bind_eq_ok_iff, Client.accepted_eq_ok_iff]
  constructor
  · rintro ⟨a, text, ⟨hstatus, htext⟩, -⟩
    refine ⟨hstatus, fun hbody => ?_⟩
    simp [Response.text?, hbody] at htext
  · rintro ⟨hstatus, hbody⟩
    obtain ⟨body, hbody⟩ := Option.ne_none_iff_exists'.mp hbody
    have htext : r.text? = some (r.charset.decode body) := by
      rw [Response.text?, hbody, Option.map_some]
    obtain ⟨a, ha⟩ := exists_answer_of_accepts h c (r.charset.decode body)
    exact ⟨a, _, ⟨hstatus, htext⟩, ha⟩

/-- Once a response has come, accepting an invitation or a request succeeds just when the status is
a success and the body comes to its end. What stands in the body and how it is labelled is all the
same. A body that breaks off makes the agent unreachable, whatever the status has told. -/
theorem acceptance_needs_whole_body [Text.Encodings] (clients : Side → Client) (call : Call)
    (t : Traffic) {q : Request} {r : Response} (accepting : accepts call = true)
    (got : (clients call.side).reception call t.coming.head? = .answered q r) :
    ((∃ a, ((agents clients).ask call t).1.answer = .ok a) ↔
        (200 ≤ r.status ∧ r.status ≤ 299) ∧ r.body ≠ none) ∧
      ∀ f, ((agents clients).ask call t).1.answer = .error f ↔
        ((r.status < 200 ∨ 299 < r.status) ∧
            f = .refused (clients call.side).endpoint.baseUrl r.status (r.text?.getD "")) ∨
          ((200 ≤ r.status ∧ r.status ≤ 299) ∧ r.body = none ∧
            f = (clients call.side).brokenOff call) := by
  rw [ask_answer, got]
  exact ⟨settle_accepting_eq_ok_iff accepting, fun f => settle_accepting_eq_error_iff accepting⟩

def plainAcceptance : Call := .acceptRequest ⟨"c"⟩

theorem plain_reception {r : Response} (success : r.isSuccess = true) : ∃ q,
    (plainClients plainAcceptance.side).reception plainAcceptance (some ⟨[⟨some r, 0, 0⟩], false⟩) =
      .answered q r := by
  have hsent : ((plainClients plainAcceptance.side).request plainAcceptance).toOption.isSome =
      true := by decide +kernel
  obtain ⟨q, hq⟩ := Option.isSome_iff_exists.mp hsent
  exact ⟨q, Client.reception_of_isSuccess (toOption_eq_some_iff.mp hq) success (by decide) [] false⟩

/-- A body that is neither JSON nor UTF-8. -/
def garbledResponse : Response := ⟨200, some "application/json", none, some [0xFF, 0x00, 0x7B]⟩

theorem garbled_acceptance_succeeds :
    let t : Traffic := ⟨[⟨[⟨some garbledResponse, 0, 0⟩], false⟩], []⟩
    accepts plainAcceptance = true ∧
      (∃ q, (plainClients plainAcceptance.side).reception plainAcceptance t.coming.head? =
        .answered q garbledResponse) ∧
      ∃ a, ((agents plainClients).ask plainAcceptance t).1.answer = .ok a := by
  intro t
  obtain ⟨q, got⟩ := plain_reception (r := garbledResponse) rfl
  have hwhole := acceptance_needs_whole_body plainClients plainAcceptance t rfl got
  exact ⟨rfl, ⟨q, got⟩, hwhole.1.mpr ⟨by decide, by decide⟩⟩

/-- The status tells that the request has been accepted, but the body breaks off. -/
def brokenOffResponse : Response := ⟨200, none, none, none⟩

/-- The call does not ignore the body of its response: it fails. -/
theorem broken_off_acceptance_fails :
    let t : Traffic := ⟨[⟨[⟨some brokenOffResponse, 0, 0⟩], false⟩], []⟩
    (∃ q, (plainClients plainAcceptance.side).reception plainAcceptance t.coming.head? =
        .answered q brokenOffResponse) ∧
      (200 ≤ brokenOffResponse.status ∧ brokenOffResponse.status ≤ 299) ∧
      ((agents plainClients).ask plainAcceptance t).1.answer =
        .error (.unreachable "http://a" ("accept-request response body could not be read: " ++
          "error decoding response body")) := by
  intro t
  obtain ⟨q, got⟩ := plain_reception (r := brokenOffResponse) rfl
  refine ⟨⟨q, got⟩, by decide, ?_⟩
  rw [ask_answer, List.head?_cons, got]
  exact (settle_accepting_eq_error_iff rfl).mpr (.inr ⟨by decide, rfl, rfl⟩)

end Rendezvous.Http
