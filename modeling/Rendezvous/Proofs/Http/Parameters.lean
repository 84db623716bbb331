import Rendezvous.Proofs.Http.Places
import Rendezvous.Proofs.Text.Utf8
import Rendezvous.Proofs.Url.Queries

/-! The parameters of calls: who takes the URL of a request apart gets back those that were set. -/

namespace Rendezvous.Http

open Agent (Call)
open Url

variable {c : Client} {call : Call} {u : Location} {ps qs : List (String × Option String)}

/-! ### What calls offer -/

/-- The parameters that a call can have, in their order. One without a value is not set. -/
def offersOf : Call → List (String × Option String)
  | .createInvitation a auto | .receiveInvitation _ a auto =>
    [("alias", a), ("auto_accept", some (if auto then "true" else "false"))]
  | .acceptInvitation _ label => [("my_label", label)]
  | .listConnections a => [("alias", a)]
  | .acceptRequest _ => []

def setAmong (ps : List (String × Option String)) : List (String × String) :=
  ps.filterMap fun p => p.2.map fun v => (p.1, v)

theorem parametersOf_eq (call : Call) : parametersOf call = setAmong (offersOf call) := by
  cases call with
  | createInvitation a | receiveInvitation _ a => cases a <;> rfl
  | acceptInvitation _ label => cases label <;> rfl
  | listConnections a => cases a <;> rfl
  | acceptRequest => rfl

theorem nodup_names (call : Call) : ((offersOf call).map Prod.fst).Nodup := by
  cases call <;> simp [offersOf]

theorem setAmong_cons_none (name : String) (ps : List (String × Option String)) :
    setAmong ((name, none) :: ps) = setAmong ps := rfl

theorem name_mem_of_mem_setAmong {p : String × String} (h : p ∈ setAmong ps) :
    p.1 ∈ ps.map Prod.fst := by
  obtain ⟨offer, hoffer, hp⟩ := List.mem_filterMap.mp h
  obtain ⟨v, -, rfl⟩ := Option.map_eq_some_iff.mp hp
  exact List.mem_map_of_mem hoffer

/-- What is set tells what is not set, if it is known what is offered. -/
theorem eq_of_setAmong_eq (hnames : ps.map Prod.fst = qs.map Prod.fst)
    (hnodup : (ps.map Prod.fst).Nodup) (h : setAmong ps = setAmong qs) : ps = qs := by
  induction ps generalizing qs with
  | nil => exact (List.map_eq_nil_iff.mp hnames.symm).symm
  | cons p ps ih =>
    obtain ⟨⟨name, w⟩, qs, rfl⟩ : ∃ q qs', qs = q :: qs' := by
      cases qs with
      | nil => cases hnames
      | cons q qs' => exact ⟨q, qs', rfl⟩
    obtain ⟨name', v⟩ := p
    obtain ⟨rfl, hrest⟩ : name' = name ∧ ps.map Prod.fst = qs.map Prod.fst := by
      simpa using hnames
    obtain ⟨hnew, hnew'⟩ := List.nodup_cons.mp hnodup
    cases v with
    | none =>
      cases w with
      | none => rw [ih hrest hnew' h]
      | some w =>
        have hmem : (name', w) ∈ setAmong ps := by
          rw [← setAmong_cons_none name', h]
          exact List.mem_cons_self
        exact absurd (name_mem_of_mem_setAmong hmem) hnew
    | some v =>
      cases w with
      | none =>
        have hmem : (name', v) ∈ setAmong qs := by
          rw [← setAmong_cons_none name', ← h]
          exact List.mem_cons_self
        exact absurd (hrest ▸ name_mem_of_mem_setAmong hmem) hnew
      | some w =>
        obtain ⟨hv, htail⟩ := List.cons.inj h
        obtain rfl : v = w := congrArg Prod.snd hv
        rw [ih hrest hnew' htail]

/-! ### What is read off a URL -/

/-- Reads a name, and a value behind the first equals sign. -/
def readParameter? (part : List Char) : Option (String × String) :=
  match splitAtChar '=' part with
  | (name, some value) =>
    (Text.decodeUtf8? (Text.percentDecode value)).map fun v => (String.ofList name, String.ofList v)
  | (_, none) => none

/-- Reads the parameters behind the first question mark of a URL. -/
def readParameters? (url : String) : Option (List (String × String)) :=
  match (splitAtChar '?' url.toList).2 with
  | some query => (query.splitOn '&').mapM readParameter?
  | none => some []

/-- A URL from which parameters are read, and whose only question mark is the one before them. -/
structure Carries (url : String) (parameters : List (String × String)) : Prop where
  read : readParameters? url = some parameters
  marks : url.toList.count '?' = if parameters.isEmpty then 0 else 1

theorem readParameter?_pair {p : String × String} (h : p ∈ parametersOf call) :
    readParameter? ((escape p.1).toList ++ '=' :: (escape p.2).toList) = some p := by
  have hcut : splitAtChar '=' ((escape p.1).toList ++ '=' :: (escape p.2).toList) =
      ((escape p.1).toList, some (escape p.2).toList) :=
    splitAtChar_eq_iff.mpr ⟨not_mem_escape (by decide) (by decide), rfl⟩
  rw [readParameter?, hcut]
  dsimp only
  rw [percentDecode_escape, Text.decodeUtf8?_encodeUtf8, Option.map_some, String.ofList_toList,
    String.ofList_toList, escape_name h]

theorem mapM_eq_some {α β : Type} {f : α → Option β} {g : β → α} {bs : List β}
    (h : ∀ b ∈ bs, f (g b) = some b) : (bs.map g).mapM f = some bs := by
  induction bs with
  | nil => rfl
  | cons b bs ih =>
    obtain ⟨hb, hbs⟩ := List.forall_mem_cons.mp h
    simp [List.mapM_cons, hb, ih hbs]

theorem carries_of_text {url front : String} (hfront : '?' ∉ front.toList)
    (hurl : url = front ++ (ownQuery call).elim "" fun q => "?" ++ q) :
    Carries url (setAmong (offersOf call)) := by
  have htext : url.toList =
      front.toList ++ ((ownQuery call).map String.toList).elim [] ('?' :: ·) := by
    rw [hurl]
    cases ownQuery call <;> simp
  have hcut := splitAtChar_eq_iff.mpr ⟨hfront, htext⟩
  have hmark : ∀ q ∈ ownQuery call, '?' ∉ q.toList := fun q hq hx =>
    (noMark_of_isCallChar (isCallChar_of_mem_ownQuery hq hx)).1 rfl
  rw [← parametersOf_eq]
  by_cases hnone : parametersOf call = []
  · have hquery : ownQuery call = none := by simp [ownQuery, hnone]
    refine ⟨?_, ?_⟩
    · rw [readParameters?, hcut, hquery, hnone]
      rfl
    · rw [htext, hquery, hnone]
      simpa using List.count_eq_zero.mpr hfront
  · obtain ⟨q, hquery, hq⟩ : ∃ q, ownQuery call = some q ∧ q = String.intercalate "&"
        ((parametersOf call).map fun p => p.1 ++ "=" ++ escape p.2) := by
      simp [ownQuery, hnone]
    refine ⟨?_, ?_⟩
    · rw [readParameters?, hcut, hquery, Option.map_some]
      dsimp only
      rw [hq, splitOn_pairs hnone]
      exact mapM_eq_some fun p hp => readParameter?_pair hp
    · rw [htext, hquery, Option.map_some, Option.elim_some, List.count_append, List.count_cons_self,
        List.count_eq_zero.mpr hfront, List.count_eq_zero.mpr (hmark q hquery)]
      simp [hnone]

/-! ### The URLs of calls -/

theorem unasked_withoutCredentials (h : Unasked u) : Unasked (withoutCredentials u) := by
  unfold withoutCredentials
  split
  · exact ⟨h.scheme, List.not_mem_nil, nofun, h.host, h.path⟩
  · exact h

theorem withoutCredentials_scheme (u : Location) : (withoutCredentials u).scheme = u.scheme := by
  unfold withoutCredentials
  split <;> rfl

theorem withoutCredentials_query (u : Location) : (withoutCredentials u).query = u.query := by
  unfold withoutCredentials
  split <;> rfl

/-- The text of an address that was read for a call, as it is sent. -/
theorem carries_of_unasked (h : Unasked u) (hquery : u.query = ownQuery call) :
    Carries { u with fragment := none : Location }.text (setAmong (offersOf call)) := by
  refine carries_of_text h.front ?_
  rw [Location.text_eq_front, ← hquery]
  simp [Location.front]

theorem isWeb_of_isReachable (h : isReachable u = true) : IsWeb u.scheme := by
  unfold isReachable at h
  simp only [Bool.and_eq_true, Bool.or_eq_true, beq_iff_eq] at h
  exact h.1.1

section Base

variable (hquestion : '?' ∉ c.endpoint.baseUrl.toList) (hhash : '#' ∉ c.endpoint.baseUrl.toList)

include hquestion in
theorem question_not_mem_front (call : Call) :
    '?' ∉ cleanFront c.endpoint.baseUrl.toList ++ (pathOf call).toList := by
  intro hmem
  rcases List.mem_append.mp hmem with hmem | hmem
  · exact hquestion (mem_of_mem_cleanFront hmem)
  · exact (noMark_of_isCallChar (isCallChar_of_mem_pathOf hmem)).1 rfl

include hhash in
theorem hash_not_mem_url (call : Call) :
    '#' ∉ cleanFront c.endpoint.baseUrl.toList ++
      ((pathOf call).toList ++ (queryOf (parametersOf call)).toList) := by
  intro hmem
  rcases List.mem_append.mp hmem with hmem | hmem
  · exact hhash (mem_of_mem_cleanFront hmem)
  · exact hash_not_mem_behind call hmem

include hquestion hhash

/-- The address of a call names a host and has the call's own query. -/
theorem of_parse_url (hweb : IsWeb u.scheme) (hparse : Url.parse (c.url call) = .ok u) :
    u.hasHost = true ∧ Unasked u ∧ u.query = ownQuery call ∧ u.fragment = none := by
  obtain ⟨a, path, query, fragment, hwritten, hu⟩ := (parse_eq_ok_iff hweb).mp hparse
  have hnoHash := hash_not_mem_url hhash call
  rw [toList_queryOf, ← List.append_assoc] at hnoHash
  rw [clean_url, toList_queryOf, ← List.append_assoc] at hwritten
  obtain ⟨rfl, rfl⟩ := hwritten.query_eq (question_not_mem_front hquestion call) hnoHash
  have hhost := hwritten.host_ne_empty
  obtain ⟨_, _, _, -, -, -, hfronts, -, -⟩ := hwritten
  obtain ⟨rest, hread⟩ := hfronts.authority
  rw [hu]
  exact ⟨hasHost_of_ne_empty rfl hhost, unasked_locate hweb hread, percentEncode_ownQuery call, rfl⟩

/-- If the address of a call can be read without its parameters, it can be read with them. -/
theorem parse_url_of_bare (hweb : IsWeb u.scheme)
    (hparse : Url.parse (c.endpoint.baseUrl ++ pathOf call) = .ok u) :
    Url.parse (c.url call) = .ok { u with query := ownQuery call } := by
  have hsheer : Sheer (pathOf call).toList := sheer_of_isCallChar fun _ => isCallChar_of_mem_pathOf
  have hne : (pathOf call).toList ≠ [] := by
    obtain ⟨t, ht, -⟩ := exists_toList_pathOf call
    simp [ht]
  have hnoHash := hash_not_mem_url hhash call
  rw [toList_queryOf, ← List.append_assoc] at hnoHash
  obtain ⟨a, path, query, fragment, hwritten, hu⟩ := (parse_eq_ok_iff hweb).mp hparse
  rw [String.toList_append, clean_append hsheer hne] at hwritten
  obtain ⟨rfl, rfl⟩ := hwritten.eq_none (question_not_mem_front hquestion call)
    fun hmem => hnoHash (List.mem_append_left _ hmem)
  have hlong := hwritten.append_query fun hmem => hnoHash (List.mem_append_right _ hmem)
  rw [List.append_assoc, ← toList_queryOf, ← clean_url] at hlong
  refine (parse_eq_ok_iff (u := { u with query := ownQuery call }) hweb).mpr
    ⟨a, _, _, _, hlong, ?_⟩
  rw [hu, locate, locate, percentEncode_ownQuery]
  rfl

end Base

/-- Whoever takes the URL of a call apart, as it is sent, gets the parameters that are set, in their
order and with their values; if none is set, it has no question mark. So two calls that can have the
same parameters have different URLs if the values of any differ. This holds for all base URLs that
have neither query nor fragment. Whether the URL can be read does not depend on the parameters, and
what is read is requested if the key fits into a header and the address can be reached. -/
theorem parameters_are_read_back (c : Client) (hquestion : '?' ∉ c.endpoint.baseUrl.toList)
    (hhash : '#' ∉ c.endpoint.baseUrl.toList) :
    (∀ call u, Url.parse (c.endpoint.baseUrl ++ pathOf call) = .ok u → IsWeb u.scheme →
      ∃ w, Url.parse (c.url call) = .ok w ∧ Carries w.text (setAmong (offersOf call)) ∧
        (keyFits c.endpoint.apiKey = true → isReachable (withoutCredentials w) = true →
          ∃ q, c.request call = .ok q)) ∧
    (∀ call q, c.request call = .ok q → Carries q.urlSent (setAmong (offersOf call))) ∧
    ∀ call call' q q', c.request call = .ok q → c.request call' = .ok q' →
      (offersOf call).map Prod.fst = (offersOf call').map Prod.fst →
      offersOf call ≠ offersOf call' → q.urlSent ≠ q'.urlSent := by
  have hsent : ∀ call q, c.request call = .ok q →
      Carries q.urlSent (setAmong (offersOf call)) := by
    intro call q hq
    obtain ⟨u, hparse, -, -, hreach, rfl⟩ := Request.build_eq_ok_iff.mp hq
    have hweb := isWeb_of_isReachable hreach
    rw [withoutCredentials_scheme] at hweb
    obtain ⟨-, hfront, hquery, -⟩ := of_parse_url hquestion hhash hweb hparse
    exact carries_of_unasked (unasked_withoutCredentials hfront)
      ((withoutCredentials_query u).trans hquery)
  refine ⟨fun call u hparse hweb => ?_, hsent, fun call call' q q' hq hq' hnames hne hurl => ?_⟩
  · have hread := parse_url_of_bare hquestion hhash hweb hparse
    obtain ⟨hhost, hfront, hquery, hfragment⟩ :=
      of_parse_url (u := { u with query := ownQuery call }) hquestion hhash hweb hread
    have hcarries := carries_of_unasked hfront hquery
    rw [← hfragment] at hcarries
    refine ⟨_, hread, hcarries, fun hkey hreach => ?_⟩
    exact ⟨_, (Client.request_eq_ok_iff hread hhost).mpr ⟨hkey, hreach, rfl⟩⟩
  · have hread := (hsent call q hq).read
    rw [hurl, (hsent call' q' hq').read] at hread
    exact hne (eq_of_setAmong_eq hnames (nodup_names call) (Option.some.inj hread).symm)

/-- An alias with every character that parts a URL, and no alias. -/
theorem odd_alias_is_read_back :
    let c := Client.ofEndpoint ⟨"http://u@agent:8021/admin", none⟩ (.ofSeconds 10)
    let named := "é&b=c?d#e%41+g/ h"
    '?' ∉ c.endpoint.baseUrl.toList ∧ '#' ∉ c.endpoint.baseUrl.toList ∧
    ∃ u w q q', Url.parse (c.endpoint.baseUrl ++ "/connections") = .ok u ∧ IsWeb u.scheme ∧
      Url.parse (c.url (.listConnections (some named))) = .ok w ∧
      Carries w.text [("alias", named)] ∧ isReachable (withoutCredentials w) = true ∧
      c.request (.listConnections (some named)) = .ok q ∧
      c.request (.listConnections none) = .ok q' ∧
      Carries q.urlSent [("alias", named)] ∧ Carries q'.urlSent [] ∧ q.urlSent ≠ q'.urlSent := by
  intro c named
  have hquestion : '?' ∉ c.endpoint.baseUrl.toList := by decide +kernel
  have hhash : '#' ∉ c.endpoint.baseUrl.toList := by decide +kernel
  have hparse : Url.parse (c.endpoint.baseUrl ++ "/connections") =
      .ok ⟨"http", "u", none, some (.domain "agent"), some 8021, .segments ["admin", "connections"],
        none, none⟩ := toOption_eq_some_iff.mp (by decide +kernel)
  have hreachable : ∀ a ∈ [some named, none], (Url.parse (c.url (.listConnections a))).toOption.any
      (fun w => isReachable (withoutCredentials w)) = true := by decide +kernel
  have hreached : ∀ a ∈ [some named, none], ∀ w, Url.parse (c.url (.listConnections a)) = .ok w →
      isReachable (withoutCredentials w) = true := by
    intro a ha w hw
    have hany := hreachable a ha
    rwa [hw] at hany
  obtain ⟨hread, hsent, hdiffer⟩ := parameters_are_read_back c hquestion hhash
  obtain ⟨w, hw, hcarries, hmade⟩ := hread (.listConnections (some named)) _ hparse (.inl rfl)
  obtain ⟨w', hw', -, hmade'⟩ := hread (.listConnections none) _ hparse (.inl rfl)
  have hreach := hreached _ List.mem_cons_self w hw
  obtain ⟨q, hq⟩ := hmade rfl hreach
  obtain ⟨q', hq'⟩ := hmade' rfl (hreached none (by simp) w' hw')
  exact ⟨hquestion, hhash, _, w, q, q', hparse, .inl rfl, hw, hcarries, hreach, hq, hq',
    hsent _ _ hq, hsent _ _ hq', hdiffer _ _ _ _ hq hq' rfl (by decide)⟩

end Rendezvous.Http
