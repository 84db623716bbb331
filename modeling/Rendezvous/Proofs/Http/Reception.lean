import Rendezvous.Http.Traffic
import Rendezvous.Proofs.Failing
import Rendezvous.Proofs.Handshake.Order

/-! What comes back to a call over HTTP, and which requests a run sends. -/

namespace Rendezvous.Http

open Agent (Call Fault Reply)
open Handshake

namespace Client

variable {c : Client} {call : Call} {next : Option Incoming} {q : Request}

/-- What comes of a call if `next` is what is to come back. -/
def reception (c : Client) (call : Call) (next : Option Incoming) : Reception :=
  (c.pursuit call next).reception

/-- The milliseconds after which a call returns if `next` is what is to come back. -/
def returns (c : Client) (call : Call) (next : Option Incoming) : Nat :=
  (c.pursuit call next).elapsed

/-- The requests that a call is put as: its own, and those that it is sent on as. -/
def requests (c : Client) (call : Call) (next : Option Incoming) : List Request :=
  (c.pursuit call next).sent

end Client

theorem exists_sent_pursue (limit followed elapsed : Nat) (q : Request) (ds : List Delivery) :
    ∃ more, (pursue limit followed elapsed q ds).sent = q :: more := by
  fun_induction pursue limit followed elapsed q ds <;> exact ⟨_, rfl⟩

/-- A response that reports success leads nowhere else. -/
theorem Request.redirection_of_isSuccess (q : Request) (followed : Nat) {r : Response}
    (h : r.isSuccess = true) : q.redirection followed r = .stays := by
  have hstays : isRedirect r.status = false := by
    simp only [Response.isSuccess, Bool.and_eq_true, decide_eq_true_eq] at h
    simp only [isRedirect, List.contains_eq_mem, List.mem_cons, List.not_mem_nil, or_false,
      decide_eq_false_iff_not]
    omega
  simp [redirection, hstays]

namespace Client

variable {c : Client} {call : Call} {next : Option Incoming} {q : Request}

theorem requests_of_ok (h : c.request call = .ok q) (next : Option Incoming) :
    ∃ more, c.requests call next = q :: more := by
  rw [requests, pursuit, h]
  exact exists_sent_pursue ..

theorem requests_of_error {o : Obstacle} (h : c.request call = .error o) (next : Option Incoming) :
    c.requests call next = [] := by
  rw [requests, pursuit, h]

/-- A response that reports success comes as it is, if its end comes in time. -/
theorem reception_of_isSuccess {r : Response} {head body : Nat} (h : c.request call = .ok q)
    (success : r.isSuccess = true) (early : head + body < ticksOf c.timeout)
    (later : List Delivery) (cancels : Bool) :
    c.reception call (some ⟨⟨some r, head, body⟩ :: later, cancels⟩) = .answered q r := by
  have hhead : ¬ticksOf c.timeout ≤ 0 + head := by omega
  have hbody : ¬ticksOf c.timeout ≤ 0 + head + body := by omega
  simp only [reception, pursuit, h, Option.elim_some, pursue, if_neg hhead, if_neg hbody,
    q.redirection_of_isSuccess 0 success]

end Client

/-- The requests that a call is put as, with the agent that they are meant for. -/
def sentFor (clients : Side → Client) (call : Call) (next : Option Incoming) : List Sent :=
  ((clients call.side).requests call next).map (Sent.mk call.side)

/-- The requests of calls: the one at place `k` gets what is to come at that place. -/
def sentForAll (clients : Side → Client) (coming : List Incoming) (calls : List Logged) :
    List Sent :=
  calls.zipIdx.flatMap fun (e, k) => sentFor clients e.call coming[k]?

theorem head?_sentFor (clients : Side → Client) (call : Call) (next : Option Incoming) :
    (sentFor clients call next).head? =
      ((clients call.side).request call).toOption.map (Sent.mk call.side) := by
  cases hq : (clients call.side).request call with
  | error o => simp [sentFor, Client.requests_of_error hq, Except.toOption]
  | ok q =>
    obtain ⟨more, hmore⟩ := Client.requests_of_ok hq next
    simp [sentFor, hmore, Except.toOption]

variable [Text.Encodings] {clients : Side → Client} {call : Call} {t : Traffic}

theorem ask_answer : ((agents clients).ask call t).1.answer =
    (clients call.side).settle call ((clients call.side).reception call t.coming.head?) := by
  simp only [agents, Client.ask, Client.reception]
  split <;> rfl

theorem ask_latency : ((agents clients).ask call t).1.latency =
    (clients call.side).returns call t.coming.head? := by
  simp only [agents, Client.ask, Client.returns]
  split <;> rfl

theorem ask_sent : ((agents clients).ask call t).2.sent =
    t.sent ++ sentFor clients call t.coming.head? := by
  simp only [agents, Client.ask, sentFor, Client.requests]
  split
  · rename_i hnil
    simp [hnil]
  · rename_i q qs hsent
    rw [hsent]

/-- A call uses up what is to come back to it, if its request is sent. -/
theorem ask_coming {q : Request} (h : (clients call.side).request call = .ok q) :
    ((agents clients).ask call t).2.coming = t.coming.tail := by
  obtain ⟨more, hmore⟩ := Client.requests_of_ok h t.coming.head?
  rw [Client.requests] at hmore
  simp only [agents, Client.ask, hmore]

/-- A call that brings an answer has been sent. -/
theorem exists_request_of_ask {a : call.Answer}
    (h : ((agents clients).ask call t).1.answer = .ok a) :
    ∃ q, (clients call.side).request call = .ok q := by
  rw [ask_answer, Client.reception, Client.pursuit] at h
  cases hq : (clients call.side).request call with
  | error o =>
    rw [hq] at h
    cases h
  | ok q => exact ⟨q, rfl⟩

/-- As long as calls bring answers, each uses up one of the things to come. -/
theorem coming_agentsAfter {es : List Logged}
    (h : ∀ x ∈ transcript (agents clients) t es, ∃ a, x.reply.answer = .ok a) :
    (agentsAfter (agents clients) t es).coming = t.coming.drop es.length := by
  induction es generalizing t with
  | nil => rfl
  | cons e es ih =>
    simp only [transcript, List.mem_cons, forall_eq_or_imp] at h
    obtain ⟨⟨a, ha⟩, hrest⟩ := h
    obtain ⟨q, hq⟩ := exists_request_of_ask ha
    rw [agentsAfter, List.foldl_cons, ← agentsAfter, ih hrest, ask_coming hq, List.drop_tail,
      List.length_cons]

/-- Of calls those before the last one have to be sent for each to get what comes at its place. -/
theorem sent_agentsAfter {es : List Logged}
    (h : ∀ e ∈ es.dropLast, ∃ q, (clients e.call.side).request e.call = .ok q) :
    (agentsAfter (agents clients) t es).sent = t.sent ++ sentForAll clients t.coming es := by
  induction es generalizing t with
  | nil => simp [agentsAfter, sentForAll]
  | cons e es ih =>
    rw [agentsAfter, List.foldl_cons, ← agentsAfter]
    cases es with
    | nil => simp [agentsAfter, sentForAll, ask_sent, List.head?_eq_getElem?]
    | cons e' es =>
      rw [List.dropLast_cons_cons] at h
      obtain ⟨q, hq⟩ := h e List.mem_cons_self
      have hrest := ih (t := ((agents clients).ask e.call t).2) fun x hx =>
        h x (List.mem_cons_of_mem _ hx)
      have hshift : (e' :: es).zipIdx 1 = ((e' :: es).zipIdx 0).map fun (e, k) => (e, k + 1) :=
        List.zipIdx_succ
      rw [hrest, ask_sent, ask_coming hq, List.append_assoc, List.head?_eq_getElem?]
      simp only [sentForAll, List.zipIdx_cons (a := e), List.flatMap_cons, hshift,
        List.flatMap_map, List.getElem?_tail]

/-- Every call but the last one is sent. -/
theorem exists_request_of_mem (o : Options) (cancelAfter : Option Nat) (w : World Traffic)
    {e : Logged} (h : e ∈ (perform (agents clients) o cancelAfter w).calls.dropLast) :
    ∃ q, (clients e.call.side).request e.call = .ok q := by
  obtain ⟨k, he⟩ := List.mem_iff_getElem?.mp h
  have hk : k + 1 < (perform (agents clients) o cancelAfter w).calls.length := by
    have := (List.getElem?_eq_some_iff.mp he).1
    rw [List.length_dropLast] at this
    omega
  rw [List.getElem?_dropLast, if_pos (by omega)] at he
  have hx := getElem?_transcript (agents clients) w.agents
    (perform (agents clients) o cancelAfter w).calls k
  rw [he] at hx
  obtain ⟨a, ha⟩ := answered_before (agents clients) o cancelAfter w hk _
    (List.mem_of_getElem? (i := k) (by rw [List.getElem?_take_of_lt (Nat.lt_succ_self k), hx]; rfl))
  exact exists_request_of_ask ha

/-- The requests of a run are those of its calls, in their order. -/
theorem sent_perform (clients : Side → Client) (o : Options) (cancelAfter : Option Nat)
    (w : World Traffic) :
    (perform (agents clients) o cancelAfter w).world.agents.sent =
      w.agents.sent ++
        sentForAll clients w.agents.coming (perform (agents clients) o cancelAfter w).calls := by
  rw [agentsAfter_perform, sent_agentsAfter fun e => exists_request_of_mem o cancelAfter w]

/-- Of the requests from the call at place `k` on the first one is this call's own. -/
theorem head?_sent_perform (clients : Side → Client) (o : Options) (cancelAfter : Option Nat)
    (w : World Traffic) (k : Nat) :
    (((perform (agents clients) o cancelAfter w).calls.zipIdx.drop k).flatMap
        fun (e, k) => sentFor clients e.call w.agents.coming[k]?).head? =
      (perform (agents clients) o cancelAfter w).calls[k]?.bind fun e =>
        ((clients e.call.side).request e.call).toOption.map (Sent.mk e.call.side) := by
  generalize hcalls : (perform (agents clients) o cancelAfter w).calls = calls
  by_cases hk : k < calls.length
  · rw [List.drop_eq_getElem_cons (by simpa using hk), List.getElem?_eq_getElem hk,
      List.getElem_zipIdx, List.flatMap_cons, List.head?_append, head?_sentFor]
    by_cases hlast : k + 1 < calls.length
    · have hmem : calls[k] ∈ (perform (agents clients) o cancelAfter w).calls.dropLast := by
        rw [hcalls]
        refine List.mem_of_getElem? (i := k) ?_
        rw [List.getElem?_dropLast, if_pos (by omega), List.getElem?_eq_getElem hk]
      obtain ⟨q, hq⟩ := exists_request_of_mem o cancelAfter w hmem
      simp [hq, Except.toOption]
    · rw [List.drop_eq_nil_of_le (by simp; omega)]
      simp
  · rw [List.drop_eq_nil_of_le (by simpa using hk), List.getElem?_eq_none (by simpa using hk)]
    rfl

/-- To the call at place `k` comes back what is to come at that place. -/
theorem getElem?_transcript_perform (o : Options) (cancelAfter : Option Nat) (w : World Traffic)
    {k : Nat} {e : Logged} (h : (perform (agents clients) o cancelAfter w).calls[k]? = some e) :
    ∃ reply : Reply (Agent.Result e.call),
      (transcript (agents clients) w.agents (perform (agents clients) o cancelAfter w).calls)[k]? =
        some ⟨e.time, e.call, reply⟩ ∧
      reply.answer = (clients e.call.side).settle e.call
        ((clients e.call.side).reception e.call w.agents.coming[k]?) ∧
      reply.latency = (clients e.call.side).returns e.call w.agents.coming[k]? := by
  have hk := (List.getElem?_eq_some_iff.mp h).1
  have hbefore := answered_before (agents clients) o cancelAfter w hk
  rw [← transcript_take] at hbefore
  have hcoming := coming_agentsAfter hbefore
  rw [List.length_take, Nat.min_eq_left (Nat.le_of_lt hk)] at hcoming
  have hnext : w.agents.coming[k]? = (w.agents.coming.drop k).head? := List.head?_drop.symm
  rw [← hcoming] at hnext
  rw [getElem?_transcript, h]
  exact ⟨_, rfl, by rw [hnext, ask_answer], by rw [hnext, ask_latency]⟩

/-- An answer in a run is what comes of what is to come at its place. -/
theorem settle_of_answeredAt {o : Options} {cancelAfter : Option Nat} {w : World Traffic} {k : Nat}
    {a : call.Answer}
    (h : AnsweredAt (transcript (agents clients) w.agents
      (perform (agents clients) o cancelAfter w).calls) k call a) :
    (clients call.side).settle call ((clients call.side).reception call w.agents.coming[k]?) =
      .ok a := by
  obtain ⟨x, hx, time, latency, cancels, rfl⟩ := h
  have hk : k < (perform (agents clients) o cancelAfter w).calls.length := by
    rw [← length_transcript (agents clients) w.agents]
    exact (List.getElem?_eq_some_iff.mp hx).1
  obtain ⟨⟨time', call'⟩, he⟩ :
      ∃ e, (perform (agents clients) o cancelAfter w).calls[k]? = some e :=
    ⟨_, List.getElem?_eq_getElem hk⟩
  obtain ⟨reply, hreply, hanswer, -⟩ := getElem?_transcript_perform o cancelAfter w he
  rw [hx] at hreply
  cases hreply
  exact hanswer.symm

def plainClients : Side → Client
  | .inviter => ⟨⟨"http://a", none⟩, .ofSeconds 30⟩
  | .invitee => ⟨⟨"http://b", none⟩, .ofSeconds 30⟩

def plainRequest : Request where
  method := .get
  url := ⟨"http", "", none, some (.domain "a"), none, .segments [""], none, none⟩
  credentials := none
  apiKey := none
  contentType := none
  body := ""
  referer := none

def plainResponse (text : String) : Response := ⟨200, none, none, some text.toUTF8.toList⟩

/-- A world in which responses with these texts come, each at once. -/
def worldOf (texts : List String) : World Traffic :=
  let coming := texts.map fun text => ⟨[⟨some (plainResponse text), 0, 0⟩], false⟩
  ⟨0, ⟨0⟩, ⟨coming, []⟩, .begin ⟨0⟩, none⟩

end Rendezvous.Http
