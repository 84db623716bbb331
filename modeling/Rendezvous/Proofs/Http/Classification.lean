import Rendezvous.Proofs.Http.Reception

/-! Which fault a call ends with, and how the first one settles a run. -/

namespace Rendezvous.Http

open Agent (Call Fault Reply Notice createdShape receivedShape listingShape)
open Json (readAll)
open Handshake

/-- The shape of an agent's answer about one connection. -/
def noticeShape? : Call → Option (Json.Shape Notice)
  | .createInvitation .. => some createdShape
  | .receiveInvitation .. => some receivedShape
  | _ => none

/-- What is wrong with the text of a response that reports success. -/
inductive Misread (call : Call) (text : String) : String → Prop
  | notice {sh : Json.Shape Notice} {e : Json.Error} (shape : noticeShape? call = some sh)
      (unread : readAll sh.read text = .error e) :
      Misread call text
        ("failed to parse " ++ call.title ++ " response: " ++ e.message ++ " (" ++ text ++ ")")
  | listing {a : Option String} {e : Json.Error} (listing : call = .listConnections a)
      (unread : readAll listingShape.read text = .error e) :
      Misread call text
        ("failed to parse " ++ call.title ++ " response: " ++ e.message ++ " (" ++ text ++ ")")
  | unnamed {sh : Json.Shape Notice} {n : Notice} (shape : noticeShape? call = some sh)
      (read : readAll sh.read text = .ok n) (unnamed : ∀ id ∈ n.connectionId, id = "") :
      Misread call text (call.title ++ " response has no connection_id")
  | uninvited {a : Option String} {auto : Bool} {n : Notice} {id : String}
      (create : call = .createInvitation a auto) (read : readAll createdShape.read text = .ok n)
      (named : n.connectionId = some id) (nonempty : id ≠ "") (uninvited : n.invitation = none) :
      Misread call text (call.title ++ " response has no invitation")

/-- The faults of a call, by what came of it: no request or no response, a way that leads nowhere, a
status that is no success, a body that cannot be read, and a text that is not what was asked for. -/
inductive Refutes [Text.Encodings] (c : Client) (call : Call) : Reception → Fault → Prop
  | unsent {o : Obstacle} :
      Refutes c call (.unsent o) (c.unreachable call "request failed" o.message)
  | unanswered {q : Request} :
      Refutes c call (.unanswered q) (c.unreachable call "request failed"
        ("error sending request for url (" ++ q.url.text ++ ")"))
  | strayed {detail : String} :
      Refutes c call (.strayed detail) (c.unreachable call "request failed" detail)
  | refused {q : Request} {r : Response} {body : List UInt8}
      (status : r.status < 200 ∨ 299 < r.status) (read : r.body = some body) :
      Refutes c call (.answered q r)
        (.refused c.endpoint.baseUrl r.status (r.charset.decode body))
  | refusedUnread {q : Request} {r : Response} (status : r.status < 200 ∨ 299 < r.status)
      (unread : r.body = none) :
      Refutes c call (.answered q r) (.refused c.endpoint.baseUrl r.status "")
  | unread {q : Request} {r : Response} (status : 200 ≤ r.status ∧ r.status ≤ 299)
      (unread : r.body = none) :
      Refutes c call (.answered q r)
        (c.unreachable call "response body could not be read" "error decoding response body")
  | misread {q : Request} {r : Response} {body : List UInt8} {detail : String}
      (status : 200 ≤ r.status ∧ r.status ≤ 299) (read : r.body = some body)
      (misread : Misread call (r.charset.decode body) detail) :
      Refutes c call (.answered q r) (.malformed c.endpoint.baseUrl detail)

variable {c : Client} {call : Call} {text : String} {f : Fault}

/-- A fault names the agent that was called. -/
theorem Refutes.endpoint_eq [Text.Encodings] {got : Reception} (h : Refutes c call got f) :
    f.endpoint = c.endpoint.baseUrl := by
  cases h <;> rfl

namespace Client

theorem needId_eq_ok_iff {id? : Option String} {id : String} :
    c.needId call id? = .ok id ↔ id? = some id ∧ id ≠ "" := by
  cases id? with
  | none => simp [needId]
  | some id' =>
    simp only [needId, String.isEmpty_iff]
    split
    · rename_i hempty
      simp only [reduceCtorEq, Option.some.injEq, false_iff, not_and, ne_eq, Decidable.not_not]
      rintro rfl
      exact hempty
    · rename_i hempty
      simp only [Except.ok.injEq, Option.some.injEq]
      exact ⟨fun h => ⟨h, h ▸ hempty⟩, And.left⟩

theorem needId_eq_error_iff {id? : Option String} :
    c.needId call id? = .error f ↔ (∀ id ∈ id?, id = "") ∧
      f = .malformed c.endpoint.baseUrl (call.title ++ " response has no connection_id") := by
  cases id? with
  | none => simp [needId, needId.noId, eq_comm]
  | some id =>
    simp only [needId, String.isEmpty_iff]
    split
    · rename_i hempty
      simp [hempty, needId.noId, eq_comm]
    · rename_i hempty
      simp [hempty]

theorem parse_eq_ok_iff {α : Type} {read : Json.Reader α} {a : α} :
    c.parse call read text = .ok a ↔ readAll read text = .ok a := mapError_eq_ok_iff

theorem parse_eq_error_iff {α : Type} {read : Json.Reader α} :
    c.parse call read text = .error f ↔ ∃ e, readAll read text = .error e ∧
      f = .malformed c.endpoint.baseUrl
        ("failed to parse " ++ call.title ++ " response: " ++ e.message ++ " (" ++ text ++ ")") :=
  mapError_eq_error_iff

theorem readAnswer_eq_error_iff : c.readAnswer call text = .error f ↔
    ∃ detail, f = .malformed c.endpoint.baseUrl detail ∧ Misread call text detail := by
  constructor
  · intro h
    cases call with
    | createInvitation a auto =>
      rcases bind_eq_error_iff.mp h with h | ⟨n, hn, h⟩
      · obtain ⟨e, he, rfl⟩ := parse_eq_error_iff.mp h
        exact ⟨_, rfl, .notice rfl he⟩
      have hread := parse_eq_ok_iff.mp hn
      rcases bind_eq_error_iff.mp h with h | ⟨id, hid, h⟩
      · obtain ⟨hnone, rfl⟩ := needId_eq_error_iff.mp h
        exact ⟨_, rfl, .unnamed rfl hread hnone⟩
      obtain ⟨hsome, hne⟩ := needId_eq_ok_iff.mp hid
      split at h
      · cases h
      · rename_i hinvitation
        cases h
        exact ⟨_, rfl, .uninvited rfl hread hsome hne hinvitation⟩
    | receiveInvitation i a auto =>
      rcases bind_eq_error_iff.mp h with h | ⟨n, hn, h⟩
      · obtain ⟨e, he, rfl⟩ := parse_eq_error_iff.mp h
        exact ⟨_, rfl, .notice rfl he⟩
      rcases bind_eq_error_iff.mp h with h | ⟨id, hid, h⟩
      · obtain ⟨hnone, rfl⟩ := needId_eq_error_iff.mp h
        exact ⟨_, rfl, .unnamed rfl (parse_eq_ok_iff.mp hn) hnone⟩
      · cases h
    | acceptInvitation id label => cases h
    | listConnections a =>
      obtain ⟨e, he, rfl⟩ := parse_eq_error_iff.mp h
      exact ⟨_, rfl, .listing rfl he⟩
    | acceptRequest id => cases h
  · rintro ⟨detail, rfl, h⟩
    cases h with
    | @notice sh e shape unread =>
      cases call <;> cases shape
      all_goals exact bind_eq_error_iff.mpr (.inl (parse_eq_error_iff.mpr ⟨e, unread, rfl⟩))
    | @listing a e listing unread =>
      subst listing
      exact parse_eq_error_iff.mpr ⟨e, unread, rfl⟩
    | @unnamed sh n shape read unnamed =>
      cases call <;> cases shape
      all_goals
        exact bind_eq_error_iff.mpr (.inr ⟨n, parse_eq_ok_iff.mpr read,
          bind_eq_error_iff.mpr (.inl (needId_eq_error_iff.mpr ⟨unnamed, rfl⟩))⟩)
    | @uninvited a auto n id create read named nonempty uninvited =>
      subst create
      refine bind_eq_error_iff.mpr (.inr ⟨n, parse_eq_ok_iff.mpr read,
        bind_eq_error_iff.mpr (.inr ⟨id, needId_eq_ok_iff.mpr ⟨named, nonempty⟩, ?_⟩)⟩)
      rw [uninvited]

theorem isSuccess_iff {r : Response} : r.isSuccess = true ↔ 200 ≤ r.status ∧ r.status ≤ 299 := by
  simp only [Response.isSuccess, Bool.and_eq_true, decide_eq_true_eq]
  omega

/-- The faults are exact: a call comes to nothing else, and otherwise it succeeds. -/
theorem settle_eq_error_iff [Text.Encodings] {got : Reception} :
    c.settle call got = .error f ↔ Refutes c call got f := by
  cases got with
  | unsent o =>
    simp only [settle, Except.error.injEq]
    exact ⟨fun h => h ▸ .unsent, fun h => by cases h; rfl⟩
  | unanswered q =>
    simp only [settle, conclude, Except.error.injEq]
    exact ⟨fun h => h ▸ .unanswered, fun h => by cases h; rfl⟩
  | strayed detail =>
    simp only [settle, Except.error.injEq]
    exact ⟨fun h => h ▸ .strayed, fun h => by cases h; rfl⟩
  | answered q r =>
    simp only [settle, conclude, bind_eq_error_iff, readAnswer_eq_error_iff]
    have hstatus : ¬r.isSuccess = true ↔ r.status < 200 ∨ 299 < r.status := by
      rw [isSuccess_iff]
      omega
    constructor
    · rintro (h | ⟨text, h, detail, rfl, hmisread⟩)
      · unfold accepted at h
        split at h
        · rename_i hs
          split at h
          · cases h
          · rename_i hbody
            cases h
            exact .unread (isSuccess_iff.mp hs) (by simpa [Response.text?] using hbody)
        · rename_i hs
          cases h
          cases hbody : r.body with
          | none =>
            simp only [Response.text?, hbody, Option.map_none, Option.getD_none]
            exact .refusedUnread (hstatus.mp hs) hbody
          | some body =>
            simp only [Response.text?, hbody, Option.map_some, Option.getD_some]
            exact .refused (hstatus.mp hs) hbody
      · unfold accepted at h
        split at h
        · rename_i hs
          split at h
          · rename_i hbody
            cases h
            obtain ⟨body, hread, rfl⟩ := Option.map_eq_some_iff.mp hbody
            exact .misread (isSuccess_iff.mp hs) hread hmisread
          · cases h
        · cases h
    · intro h
      unfold accepted
      cases h with
      | refused status read => simp [hstatus.mpr status, Response.text?, read]
      | refusedUnread status unread => simp [hstatus.mpr status, Response.text?, unread]
      | unread status unread => simp [isSuccess_iff.mpr status, Response.text?, unread]
      | misread status read misread =>
        simp [isSuccess_iff.mpr status, Response.text?, read, misread]

end Client

theorem ofFault_inj {s s' : Step} {f f' : Fault} (h : Failure.ofFault s f = .ofFault s' f') :
    s = s' ∧ f = f' := by
  cases f <;> cases f' <;> simp_all [Failure.ofFault]

/-- A run whose result is the fault of a call ends with that call. -/
theorem exists_last_of_ofFault {σ : Type} {agents : Agents σ} {o : Options}
    {cancelAfter : Option Nat} {w : World σ} {s : Step}
    (h : (perform agents o cancelAfter w).result o.limit = some (.error (.ofFault s f))) :
    ∃ k x, (transcript agents w.agents (perform agents o cancelAfter w).calls)[k]? = some x ∧
      (perform agents o cancelAfter w).calls.length = k + 1 ∧ s = x.step ∧
      x.reply.answer = .error f := by
  have hending : (perform agents o cancelAfter w).ending = .failed (.ofFault s f) := by
    rcases Run.result_eq_error_iff.mp h with h | ⟨-, h⟩ | ⟨-, h⟩
    · exact h
    · cases f <;> cases h
    · cases f <;> cases h
  rcases perform_cases agents o cancelAfter w with
    ⟨-, -, hcancelled, -⟩ | ⟨-, answered, pending, g, ha⟩
  · rw [hcancelled] at hending
    cases hending
  · have hclosing := ha.closing
    rw [hending] at hclosing
    generalize hfault : Failure.ofFault s f = failure at hclosing
    cases hclosing with
    | @refused _ x _ f' _ _ herror =>
      obtain ⟨rfl, rfl⟩ := ofFault_inj hfault
      refine ⟨answered.length, x, ?_, ?_, rfl, herror⟩
      · rw [ha.exchanges]
        simp
      · rw [← length_transcript agents w.agents, ha.exchanges]
        simp
    | unseen => cases f <;> cases hfault

/-- A call that fails is the last one, and its fault is the result of the run, unless the run is
interrupted before the call returns. -/
theorem Refutes.settles [Text.Encodings] {clients : Side → Client} {o : Options}
    {cancelAfter : Option Nat} {w : World Traffic} {k : Nat} {e : Logged}
    (he : (perform (agents clients) o cancelAfter w).calls[k]? = some e)
    (hf : Refutes (clients e.call.side) e.call
      ((clients e.call.side).reception e.call w.agents.coming[k]?) f) :
    (perform (agents clients) o cancelAfter w).calls.length = k + 1 ∧
      if e.time + (clients e.call.side).returns e.call w.agents.coming[k]? ≤
          (perform (agents clients) o cancelAfter w).world.now then
        (perform (agents clients) o cancelAfter w).result o.limit =
          some (.error (.ofFault (stepOf e.call) f))
      else ∃ i, (perform (agents clients) o cancelAfter w).ending = .interrupted i := by
  obtain ⟨reply, hx, hanswer, hlatency⟩ := getElem?_transcript_perform o cancelAfter w he
  rw [Client.settle_eq_error_iff.mpr hf] at hanswer
  rw [← hlatency]
  rcases perform_cases (agents clients) o cancelAfter w with
    ⟨-, hcalls, -, -⟩ | ⟨-, answered, pending, g, h⟩
  · simp [hcalls] at he
  · rw [← length_transcript (agents clients) w.agents, h.exchanges]
    rw [h.exchanges] at hx
    split
    · rename_i hdue
      obtain ⟨hlast, hending⟩ := h.failed_of_error hx hdue hanswer
      exact ⟨hlast, Run.result_eq_error_iff.mpr (.inl hending)⟩
    · rename_i hearly
      exact h.interrupted_of_early hx (Nat.lt_of_not_le hearly)

/-- The first call that fails settles the run: it is the last one, so no request is sent after it,
and the run fails with the very fault of that call, at its step, unless the run is interrupted
before the call returns. A run fails in no other way with the fault of a call. -/
theorem first_fault_settles_run [Text.Encodings] (clients : Side → Client) (o : Options)
    (cancelAfter : Option Nat) (w : World Traffic) :
    let r := perform (agents clients) o cancelAfter w
    let got (k : Nat) (call : Call) := (clients call.side).reception call w.agents.coming[k]?
    let due (k : Nat) (e : Logged) :=
      e.time + (clients e.call.side).returns e.call w.agents.coming[k]?
    r.world.agents.sent = w.agents.sent ++ sentForAll clients w.agents.coming r.calls ∧
    (∀ k e f, r.calls[k]? = some e → Refutes (clients e.call.side) e.call (got k e.call) f →
      r.calls.length = k + 1 ∧ f.endpoint = (clients e.call.side).endpoint.baseUrl ∧
      if due k e ≤ r.world.now then
        r.result o.limit = some (.error (.ofFault (stepOf e.call) f))
      else ∃ i, r.ending = .interrupted i) ∧
    ∀ s f, r.result o.limit = some (.error (.ofFault s f)) →
      ∃ k e, r.calls[k]? = some e ∧ r.calls.length = k + 1 ∧ s = stepOf e.call ∧
        Refutes (clients e.call.side) e.call (got k e.call) f := by
  intro r got due
  refine ⟨sent_perform clients o cancelAfter w, ?_, ?_⟩
  · intro k e f he hf
    obtain ⟨hlast, hresult⟩ := hf.settles he
    exact ⟨hlast, hf.endpoint_eq, hresult⟩
  · intro s f hresult
    obtain ⟨k, x, hx, hlast, rfl, herror⟩ := exists_last_of_ofFault hresult
    have hk : k < r.calls.length := by
      rw [hlast]
      exact Nat.lt_succ_self k
    obtain ⟨e, he⟩ : ∃ e, r.calls[k]? = some e := ⟨_, List.getElem?_eq_getElem hk⟩
    obtain ⟨reply, hx', hanswer, -⟩ := getElem?_transcript_perform o cancelAfter w he
    rw [hx'] at hx
    cases hx
    exact ⟨k, e, he, hlast, rfl, Client.settle_eq_error_iff.mp (hanswer ▸ herror)⟩

end Rendezvous.Http
