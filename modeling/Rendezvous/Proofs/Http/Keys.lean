import Rendezvous.Http.Message
import Rendezvous.Proofs.Handshake.Agreement
import Rendezvous.Proofs.Http.Places
import Rendezvous.Proofs.Http.Redirects

/-! Where keys go: into the requests to their own agent, and nowhere else. Two configurations that
differ in keys only are run side by side. -/

namespace Rendezvous.Http

open Agent (Call)
open Handshake

variable {c c' : Client} {call : Call}

def Request.keyless (q : Request) : Request := { q with apiKey := none }

def Sent.keyless (s : Sent) : Sent := { s with request := s.request.keyless }

def keyHeader : String := "x-api-key"

namespace Request

/-- The header of the key, if there is one, is the only one of its name. -/
theorem filter_headers (q : Request) :
    q.headers.filter (fun h => h.1 == keyHeader) =
      (q.apiKey.map fun k => (keyHeader, k)).toList := by
  obtain ⟨method, url, credentials, key, type, body, referer⟩ := q
  cases method <;> cases credentials <;> cases key <;> cases type <;> cases referer <;> rfl

theorem headers_keyless (q : Request) :
    q.keyless.headers = q.headers.filter fun h => h.1 != keyHeader := by
  obtain ⟨method, url, credentials, key, type, body, referer⟩ := q
  cases method <;> cases credentials <;> cases key <;> cases type <;> cases referer <;> rfl

/-- What a request is made of does not depend on a key that fits. -/
theorem map_keyless_build {method : Method} {url body : String} {key type : Option String}
    (h : keyFits key = true) :
    (build method url key type body).map keyless = build method url none type body := by
  have hbad : (key.any fun k => !(k.toList.all isHeaderChar)) = false := by
    cases key <;> simp_all [keyFits]
  unfold build
  cases Url.parse url with
  | error f => rfl
  | ok u =>
    simp only [hbad, Option.any_none]
    cases u.hasHost <;> cases isReachable (withoutCredentials u) <;> rfl

end Request

/-! ### Requests that are sent on -/

def Redirection.keyless : Redirection → Redirection
  | leads next => leads next.keyless
  | r => r

def Reception.keyless : Reception → Reception
  | unanswered q => unanswered q.keyless
  | answered q r => answered q.keyless r
  | got => got

def Pursuit.keyless (p : Pursuit) : Pursuit :=
  ⟨p.reception.keyless, p.elapsed, p.sent.map Request.keyless⟩

/-- Where a response leads does not depend on the key. -/
theorem redirection_keyless (q : Request) (followed : Nat) (r : Response) :
    q.keyless.redirection followed r = (q.redirection followed r).keyless := by
  have hdestination : q.keyless.destination? r = q.destination? r := rfl
  unfold Request.redirection
  rw [hdestination]
  split
  · cases q.destination? r with
    | none => rfl
    | some u =>
      dsimp only
      split
      · rfl
      · split <;> rfl
  · rfl

theorem pursue_keyless (limit followed elapsed : Nat) (q : Request) (ds : List Delivery) :
    pursue limit followed elapsed q.keyless ds = (pursue limit followed elapsed q ds).keyless := by
  induction ds generalizing followed elapsed q with
  | nil => rfl
  | cons d later ih =>
    simp only [pursue]
    split
    · rfl
    cases d.response with
    | none => rfl
    | some r =>
      dsimp only
      rw [redirection_keyless]
      cases q.redirection followed r with
      | stays =>
        simp only [Redirection.keyless]
        split <;> rfl
      | fails detail => rfl
      | leads next =>
        simp only [Redirection.keyless, ih]
        rfl

/-! ### Clients -/

/-- Of a key only its presence shows. -/
theorem describe_eq {title : String} {e e' : Endpoint} (hurl : e.baseUrl = e'.baseUrl)
    (hkeyed : e.apiKey.isSome = e'.apiKey.isSome) : e.describe title = e'.describe title := by
  obtain ⟨url, key⟩ := e
  obtain ⟨_, key'⟩ := e'
  obtain rfl : url = _ := hurl
  cases key with
  | none =>
    cases key' with
    | none => rfl
    | some k' => cases hkeyed
  | some k =>
    cases key' with
    | none => cases hkeyed
    | some k' => exact Endpoint.describe_congr

theorem apiKey_of_request {q : Request} (h : c.request call = .ok q) :
    q.apiKey = c.endpoint.apiKey := by
  rw [Client.request] at h
  obtain ⟨u, -, -, -, -, rfl⟩ := Request.build_eq_ok_iff.mp h
  rfl

/-- Two clients that differ in the value of a key that fits. -/
structure Client.Rekeyed (c c' : Client) : Prop where
  baseUrl : c.endpoint.baseUrl = c'.endpoint.baseUrl
  keyed : c.endpoint.apiKey.isSome = c'.endpoint.apiKey.isSome
  timeout : c.timeout = c'.timeout
  fits : keyFits c.endpoint.apiKey = true ∧ keyFits c'.endpoint.apiKey = true

namespace Client.Rekeyed

theorem text_eq (h : Client.Rekeyed c c') : c.text = c'.text :=
  describe_eq h.baseUrl h.keyed

theorem url_eq (h : Client.Rekeyed c c') : c.url call = c'.url call := by
  rw [Client.url, Client.url, h.baseUrl]

theorem map_keyless_request (h : Client.Rekeyed c c') (call : Call) :
    (c.request call).map Request.keyless = (c'.request call).map Request.keyless := by
  rw [Client.request, Client.request, Request.map_keyless_build h.fits.1,
    Request.map_keyless_build h.fits.2, h.url_eq]

/-- The same stands in the way of both requests, or they differ in their keys only. -/
theorem request_cases (h : Client.Rekeyed c c') (call : Call) :
    (∃ o, c.request call = .error o ∧ c'.request call = .error o) ∨
      ∃ q q', c.request call = .ok q ∧ c'.request call = .ok q' ∧ q.keyless = q'.keyless := by
  have hrequest := h.map_keyless_request call
  cases hq : c.request call with
  | error o =>
    cases hq' : c'.request call with
    | error o' =>
      rw [hq, hq'] at hrequest
      obtain rfl : o = o' := Except.error.inj hrequest
      exact .inl ⟨o, rfl, rfl⟩
    | ok q' =>
      rw [hq, hq'] at hrequest
      cases hrequest
  | ok q =>
    cases hq' : c'.request call with
    | error o' =>
      rw [hq, hq'] at hrequest
      cases hrequest
    | ok q' =>
      rw [hq, hq'] at hrequest
      exact .inr ⟨q, q', rfl, rfl, Except.ok.inj hrequest⟩

theorem keyless_pursuit (h : Client.Rekeyed c c') (call : Call) (next : Option Incoming) :
    (c.pursuit call next).keyless = (c'.pursuit call next).keyless := by
  unfold Client.pursuit
  rcases h.request_cases call with ⟨o, hq, hq'⟩ | ⟨q, q', hq, hq', hkeyless⟩
  · rw [hq, hq']
  · rw [hq, hq']
    dsimp only
    rw [← pursue_keyless, ← pursue_keyless, hkeyless, h.timeout]

theorem map_keyless_requests (h : Client.Rekeyed c c') (call : Call) (next : Option Incoming) :
    (c.requests call next).map Request.keyless = (c'.requests call next).map Request.keyless :=
  congrArg Pursuit.sent (h.keyless_pursuit call next)

variable [Text.Encodings]

/-- What a call ends with does not depend on the key. -/
theorem settle_eq (h : Client.Rekeyed c c') {got got' : Reception}
    (hgot : got.keyless = got'.keyless) : c.settle call got = c'.settle call got' := by
  have hkeyless : ∀ (d : Client) (got : Reception),
      d.settle call got.keyless = d.settle call got := by
    intro d got
    cases got <;> rfl
  rw [← hkeyless c got, ← hkeyless c' got', hgot]
  obtain ⟨⟨url, key⟩, timeout⟩ := c
  obtain ⟨⟨_, key'⟩, _⟩ := c'
  obtain ⟨rfl, -, rfl, -⟩ := h
  cases got'.keyless with
  | answered q r => cases call <;> rfl
  | _ => rfl

/-- To two clients with other keys comes the same, if the same is to come. -/
theorem ask (h : Client.Rekeyed c c') (side : Side) (call : Call) {t t' : Traffic}
    (ht : t.coming = t'.coming) :
    (c.ask side call t).1 = (c'.ask side call t').1 ∧
      (c.ask side call t).2.coming = (c'.ask side call t').2.coming := by
  have hpursuit := h.keyless_pursuit call t.coming.head?
  have hanswer : c.settle call (c.pursuit call t.coming.head?).reception =
      c'.settle call (c'.pursuit call t.coming.head?).reception :=
    h.settle_eq (congrArg Pursuit.reception hpursuit)
  have helapsed : (c.pursuit call t.coming.head?).keyless.elapsed =
      (c'.pursuit call t.coming.head?).keyless.elapsed := congrArg Pursuit.elapsed hpursuit
  have hsent := congrArg List.length (congrArg Pursuit.sent hpursuit)
  simp only [Pursuit.keyless, List.length_map] at helapsed hsent
  unfold Client.ask
  dsimp only
  rw [← ht, hanswer, helapsed]
  cases hnone : (c.pursuit call t.coming.head?).sent with
  | nil =>
    rw [hnone, List.length_nil] at hsent
    rw [List.length_eq_zero_iff.mp hsent.symm]
    exact ⟨rfl, ht⟩
  | cons q qs =>
    rw [hnone] at hsent
    obtain ⟨q', qs', hcons⟩ := List.exists_cons_of_length_eq_add_one hsent.symm
    rw [hcons]
    exact ⟨rfl, rfl⟩

end Client.Rekeyed

theorem agents_ask [Text.Encodings] (clients : Side → Client) (call : Call) (t : Traffic) :
    (agents clients).ask call t = (clients call.side).ask call.side call t := rfl

/-- Two configurations that differ in the values of keys only: the same agents ask for one, and all
of them fit. -/
structure Rekeyed (c c' : Config) : Prop where
  baseUrl : ∀ side, (c.endpoint side).baseUrl = (c'.endpoint side).baseUrl
  keyed : ∀ side, (c.endpoint side).apiKey.isSome = (c'.endpoint side).apiKey.isSome
  fits : ∀ side, keyFits (c.endpoint side).apiKey = true ∧ keyFits (c'.endpoint side).apiKey = true
  requestTimeout : c.requestTimeout = c'.requestTimeout
  options : c.options = c'.options

namespace Rekeyed

variable {c c' : Config}

theorem client (h : Rekeyed c c') (side : Side) : (clients c side).Rekeyed (clients c' side) :=
  ⟨congrArg Endpoint.trimSlashes (h.baseUrl side), h.keyed side, h.requestTimeout, h.fits side⟩

theorem replyAlike [Text.Encodings] (h : Rekeyed c c') :
    ReplyAlike (fun t t' => t.coming = t'.coming) (agents (clients c)) (agents (clients c')) where
  endpoint := (h.client .inviter).baseUrl
  stock := fun _ _ ht => congrArg List.length ht
  reply := by
    intro call t t' ht
    rw [agents_ask, agents_ask]
    exact ((h.client call.side).ask call.side call ht).1
  rest := by
    intro call t t' ht
    rw [agents_ask, agents_ask]
    exact ((h.client call.side).ask call.side call ht).2

end Rekeyed

theorem Rekeyed.map_keyless_sentFor {c c' : Config} (h : Rekeyed c c') (call : Call)
    (next : Option Incoming) :
    (sentFor (clients c) call next).map Sent.keyless =
      (sentFor (clients c') call next).map Sent.keyless := by
  have hmap : ∀ qs : List Request, (qs.map (Sent.mk call.side)).map Sent.keyless =
      (qs.map Request.keyless).map (Sent.mk call.side) := by
    intro qs
    rw [List.map_map, List.map_map]
    rfl
  rw [sentFor, sentFor, hmap, hmap, (h.client call.side).map_keyless_requests]

theorem Rekeyed.map_keyless_sentForAll {c c' : Config} (h : Rekeyed c c')
    (coming : List Incoming) (calls : List Logged) :
    (sentForAll (clients c) coming calls).map Sent.keyless =
      (sentForAll (clients c') coming calls).map Sent.keyless := by
  simp only [sentForAll, List.map_flatMap, h.map_keyless_sentFor]

/-- A request carries the key of the agent whose client has sent it, and comes of a request that
this client itself has made for one of the calls. -/
theorem key_of_sent {d : Config} {coming : List Incoming} {calls : List Logged} {x : Sent}
    (hx : x ∈ sentForAll (clients d) coming calls) :
    x.request.apiKey = (d.endpoint x.side).apiKey ∧
      ∃ (k : Nat) (e : Logged) (q : Request), calls[k]? = some e ∧ e.call.side = x.side ∧
        (clients d x.side).request e.call = .ok q ∧
        Redirects (coming[k]?.elim [] Incoming.responses) q x.request := by
  obtain ⟨⟨e, k⟩, he, hx⟩ := List.mem_flatMap.mp hx
  obtain ⟨x, hmem, rfl⟩ := List.mem_map.mp hx
  obtain ⟨q, hq, hredirects⟩ := exists_redirects_of_mem_requests hmem
  exact ⟨hredirects.apiKey_eq.trans (apiKey_of_request hq), k, e, q,
    List.mem_zipIdx_iff_getElem?.mp he, rfl, hq, hredirects⟩

/-- A configuration in which only the inviter asks for a key. -/
def keyedConfig (key : String) : Config :=
  { Config.standard "http://inviter:8021" "http://invitee:8031" with
    inviter := ⟨"http://inviter:8021", some key⟩ }

def movingResponse : Response := ⟨307, none, some "/admin", some []⟩

/-- The inviter sends the first request on and then creates the invitation. The invitee does not
respond. -/
def movingWorld : World Traffic :=
  let created := plainResponse "\x7b\"connection_id\":\"i\",\"invitation\":1\x7d"
  ⟨0, ⟨0⟩, ⟨[⟨[⟨some movingResponse, 0, 0⟩, ⟨some created, 0, 0⟩], false⟩], []⟩, .begin ⟨0⟩, none⟩

def keyedRun (key : String) : Run Traffic Outcome :=
  perform (agents (clients (keyedConfig key))) (keyedConfig key).options none movingWorld

end Rendezvous.Http
