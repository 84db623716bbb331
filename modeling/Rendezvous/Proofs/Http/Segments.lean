import Rendezvous.Proofs.Http.Places
import Rendezvous.Proofs.Text.Trimming

/-! Where the name of a connection stands in the address of a request: in a segment of its own, but
for the two names that no segment can hold. -/

namespace Rendezvous.Http

open Agent (Call)
open Url

variable {call : Call} {id action scheme place : String}

/-- A call that concerns one connection, of which an agent has told the name. -/
inductive Concerns : Call → String → String → Prop
  | acceptInvitation (id : ConnectionId .invitee) (label : Option String) :
    Concerns (.acceptInvitation id label) id.text "accept-invitation"
  | acceptRequest (id : ConnectionId .inviter) :
    Concerns (.acceptRequest id) id.text "accept-request"

/-- The path that such a call reaches. One point is read as the place where it stands, two points
as the place before it. -/
def segmentsReached (id action : String) : List String :=
  if id = "." then ["connections", action]
  else if id = ".." then [action]
  else ["connections", escape id, action]

namespace Concerns

theorem namesOf_eq (h : Concerns call id action) : namesOf call = ["connections", id, action] := by
  cases h <;> rfl

theorem of_namesOf_eq (h : namesOf call = ["connections", id, action]) :
    Concerns call id action := by
  cases call with
  | acceptInvitation id' label =>
    obtain ⟨rfl, rfl⟩ : id'.text = id ∧ "accept-invitation" = action := by simpa [namesOf] using h
    exact .acceptInvitation id' label
  | acceptRequest id' =>
    obtain ⟨rfl, rfl⟩ : id'.text = id ∧ "accept-request" = action := by simpa [namesOf] using h
    exact .acceptRequest id'
  | _ => simp [namesOf] at h

theorem action_eq (h : Concerns call id action) :
    action = "accept-invitation" ∨ action = "accept-request" := by
  cases h
  · exact .inl rfl
  · exact .inr rfl

theorem segmentsOf_eq (h : Concerns call id action) :
    segmentsOf call = ["connections", escape id, action] := by
  have hwords : escape "connections" = "connections" ∧ escape "accept-invitation" =
      "accept-invitation" ∧ escape "accept-request" = "accept-request" := by decide
  rw [segmentsOf, h.namesOf_eq]
  rcases h.action_eq with rfl | rfl <;> simp [hwords]

theorem segmentsReached_eq (h : Concerns call id action) (hpoint : id ≠ ".") (hpoints : id ≠ "..") :
    segmentsReached id action = segmentsOf call := by
  rw [h.segmentsOf_eq, segmentsReached, if_neg hpoint, if_neg hpoints]

theorem of_mem_namesOf {s : String} (h : s ∈ namesOf call) (hs : s = "." ∨ s = "..") :
    ∃ action, Concerns call s action := by
  cases call with
  | acceptInvitation id label =>
    obtain rfl : s = id.text := by rcases hs with rfl | rfl <;> simpa [namesOf] using h
    exact ⟨_, .acceptInvitation id label⟩
  | acceptRequest id =>
    obtain rfl : s = id.text := by rcases hs with rfl | rfl <;> simpa [namesOf] using h
    exact ⟨_, .acceptRequest id⟩
  | _ => rcases hs with rfl | rfl <;> simp [namesOf] at h

theorem resolveFrom_eq (h : Concerns call id action) :
    resolveFrom false [] ((segmentsOf call).map String.toList) =
      (segmentsReached id action).map String.toList := by
  unfold segmentsReached
  split
  · subst id
    rw [segmentsOf, h.namesOf_eq]
    rcases h.action_eq with rfl | rfl <;> decide
  · rename_i hpoint
    split
    · subst id
      rw [segmentsOf, h.namesOf_eq]
      rcases h.action_eq with rfl | rfl <;> decide
    · rename_i hpoints
      have hleads : ∀ s ∈ namesOf call, s ≠ "." ∧ s ≠ ".." := by
        rw [h.namesOf_eq]
        rcases h.action_eq with rfl | rfl <;> simp [hpoint, hpoints]
      rw [resolveFrom_segmentsOf hleads, h.segmentsOf_eq]
      rfl

/-- A connection's name that is no point and not two leaves no other way to its segment. -/
theorem of_resolveFrom_eq {call' : Call} (h : Concerns call id action) (hpoint : id ≠ ".")
    (hpoints : id ≠ "..")
    (heq : resolveFrom false [] ((segmentsOf call').map String.toList) =
      (segmentsReached id action).map String.toList) : Concerns call' id action := by
  have hreached := h.segmentsReached_eq hpoint hpoints
  by_cases hpointed : ∃ s ∈ namesOf call', s = "." ∨ s = ".."
  · -- A call that leads elsewhere has fewer segments.
    obtain ⟨s, hs, hs'⟩ := hpointed
    obtain ⟨action', h'⟩ := of_mem_namesOf hs hs'
    have hlength := congrArg List.length heq
    rw [h'.resolveFrom_eq, List.length_map, List.length_map, hreached, h.segmentsOf_eq] at hlength
    rcases hs' with rfl | rfl <;> simp [segmentsReached] at hlength
  · have hleads : ∀ s ∈ namesOf call', s ≠ "." ∧ s ≠ ".." := fun s hs =>
      ⟨fun hs' => hpointed ⟨s, hs, .inl hs'⟩, fun hs' => hpointed ⟨s, hs, .inr hs'⟩⟩
    rw [resolveFrom_segmentsOf hleads, hreached, List.reverse_nil, List.nil_append,
      List.map_inj_right fun _ _ => String.toList_injective, segmentsOf, segmentsOf,
      List.map_inj_right fun _ _ => escape_injective, h.namesOf_eq] at heq
    exact of_namesOf_eq heq

end Concerns

/-- What calls about connections reach at a base URL that is a scheme and a place only: the segment
that holds the connection's name, and no other call gets there. Only the names that are one point
or two lead elsewhere. -/
theorem connection_keeps_to_its_segment (scheme place : String) (u : Location)
    (key : Option String) (timeout : Span) (call : Call) (id action : String)
    (hscheme : IsWeb scheme) (hplace : IsBare place)
    (hbase : Url.parse (scheme ++ "://" ++ place) = .ok u) (hcall : Concerns call id action) :
    let c := Client.ofEndpoint ⟨scheme ++ "://" ++ place, key⟩ timeout
    let reached : Location :=
      { u with path := .segments (segmentsReached id action), query := ownQuery call }
    Url.parse (c.url call) = .ok reached ∧
    (∀ q, c.request call = .ok q ↔ keyFits key = true ∧ isReachable reached = true ∧
      q = ⟨.post, reached, none, key, some "application/json", "\x7b\x7d", none⟩) ∧
    Text.percentDecode (escape id).toList = Text.encodeUtf8 id.toList ∧
    (id ≠ "." → id ≠ ".." →
      (∃ h, u.host = some h ∧ reached.text =
        scheme ++ "://" ++ Location.authority h u.port ++
          ("/connections/" ++ escape id ++ "/" ++ action) ++ queryOf (parametersOf call)) ∧
      ∀ call' u', Url.parse (c.url call') = .ok u' → u'.path = reached.path →
        Concerns call' id action) := by
  intro c reached
  obtain ⟨a, hwritten, rfl, huser, hpassword⟩ := exists_written_of_bare hscheme hplace hbase
  have hbaseUrl : c.endpoint.baseUrl = scheme ++ "://" ++ place :=
    Endpoint.trimSlashes_eq_self hwritten.getLast?_ne_slash
  have hfront : Written (cleanFront c.endpoint.baseUrl.toList) scheme a [] none none := by
    rw [hbaseUrl, cleanFront_eq_self (sheer_bare hscheme hplace)]
    exact hwritten
  have hreached : ∀ call', Url.parse (c.url call') = .ok (assemble scheme (some a)
      (Url.pathOf (resolveFrom false [] ((segmentsOf call').map String.toList)))
      (ownQuery call') none) := parse_url_of_written hscheme hfront
  have hparse : Url.parse (c.url call) = .ok reached := by
    rw [hreached, hcall.resolveFrom_eq, pathOf_map_toList]
    rfl
  have hplain : credentials? reached = none := credentials?_eq_none huser hpassword
  refine ⟨hparse, fun q => ?_, percentDecode_escape id, fun hpoint hpoints => ⟨?_, ?_⟩⟩
  · have hmethod : methodOf call = .post ∧ bodyOf call = some "\x7b\x7d" := by
      cases hcall <;> exact ⟨rfl, rfl⟩
    have hhost : reached.hasHost = true := hasHost_of_ne_empty rfl hwritten.host_ne_empty
    have hself : withoutCredentials reached = reached := withoutCredentials_eq_self huser hpassword
    rw [Client.request_eq_ok_iff hparse hhost, hmethod.1, hmethod.2, hself, hplain]
    rfl
  · refine ⟨a.host, rfl, ?_⟩
    rw [text_eq (u := reached) rfl huser hpassword rfl, queryOf_eq]
    have hpath : reached.path.text = "/connections/" ++ escape id ++ "/" ++ action := by
      have hsegments := hcall.segmentsReached_eq hpoint hpoints
      rw [show reached.path = .segments (segmentsReached id action) from rfl, hsegments,
        ← pathOf_eq]
      cases hcall <;> rfl
    rw [hpath]
    rfl
  · intro call' u' hparse' hpath
    rw [hreached] at hparse'
    cases hparse'
    refine hcall.of_resolveFrom_eq hpoint hpoints ?_
    rw [← show _ = segmentsReached id action from Path.segments.inj hpath, List.map_map]
    simp [Function.comp_def]

/-- A name with every character that parts a URL stays in its segment. -/
theorem odd_id_keeps_to_its_segment :
    Url.parse ("http" ++ "://" ++ "agent:8021") =
      .ok ⟨"http", "", none, some (.domain "agent"), some 8021, .segments [""], none, none⟩ ∧
    Url.parse ((Client.ofEndpoint ⟨"http" ++ "://" ++ "agent:8021", none⟩ (.ofSeconds 10)).url
        (.acceptRequest ⟨"../%2e?a#b"⟩)) =
      .ok ⟨"http", "", none, some (.domain "agent"), some 8021,
        .segments ["connections", "..%2F%252e%3Fa%23b", "accept-request"], none, none⟩ := by
  have hplace : IsBare "agent:8021" := by decide
  have hbase : Url.parse ("http" ++ "://" ++ "agent:8021") =
      .ok ⟨"http", "", none, some (.domain "agent"), some 8021, .segments [""], none, none⟩ :=
    toOption_eq_some_iff.mp (by decide +kernel)
  exact ⟨hbase, (connection_keeps_to_its_segment "http" "agent:8021" _ none (.ofSeconds 10) _ _ _
    (.inl rfl) hplace hbase (.acceptRequest ⟨"../%2e?a#b"⟩)).1⟩

/-- A connection named by two points: its request goes to a place beside all connections. -/
theorem pointed_id_leaves_its_segment :
    ∃ q, (Client.ofEndpoint ⟨"http://agent:8021", none⟩ (.ofSeconds 10)).request
        (.acceptRequest ⟨".."⟩) = .ok q ∧
      q.url.path = .segments ["accept-request"] ∧
      q.url.path ≠ .segments ["connections", escape "..", "accept-request"] := by
  have hpath : ((Client.ofEndpoint ⟨"http://agent:8021", none⟩ (.ofSeconds 10)).request
      (.acceptRequest ⟨".."⟩)).toOption.map (fun q => q.url.path) =
        some (.segments ["accept-request"]) := by decide +kernel
  obtain ⟨q, hq, hreached⟩ := Option.map_eq_some_iff.mp hpath
  refine ⟨q, toOption_eq_some_iff.mp hq, hreached, ?_⟩
  rw [hreached]
  decide

end Rendezvous.Http
