import Rendezvous.Proofs.Config.Addresses
import Rendezvous.Proofs.Http.Places

/-! When a base URL that the configuration accepts serves for all calls. -/

namespace Rendezvous.Http

open Agent (Call)
open Url

variable {call : Call} {v b : String} {dir : List (List Char)}

/-- The place to which the path of a base URL leads, as segments. -/
def leadsTo (base : String) : List (List Char) := directory (pathIn (cleanFront base.toList))

/-! ### The texts of paths -/

theorem flatMap_replicate_nil (n : Nat) :
    (List.replicate n ([] : List Char)).flatMap ('/' :: ·) = List.replicate n '/' := by
  induction n with
  | zero => rfl
  | succ n ih => rw [List.replicate_succ, List.flatMap_cons, ih]; rfl

/-- The text of a path ends with a slash if its last segment is empty. -/
theorem getLast?_flatMap_eq_slash_iff (hdir : ∀ s ∈ dir, '/' ∉ s) :
    (dir.flatMap ('/' :: ·)).getLast? = some '/' ↔ dir.getLast? = some [] := by
  cases hlast : dir.getLast? with
  | none =>
    rw [List.getLast?_eq_none_iff.mp hlast]
    simp
  | some s =>
    obtain ⟨init, rfl⟩ := List.getLast?_eq_some_iff.mp hlast
    rw [List.flatMap_append, List.flatMap_singleton, List.getLast?_append]
    cases s with
    | nil => simp
    | cons x s =>
      have hslash : '/' ∉ x :: s := hdir (x :: s) (by simp)
      have hend := List.getLast?_eq_some_getLast (List.cons_ne_nil x s)
      rw [List.getLast?_cons_cons, hend, Option.some_or]
      refine ⟨fun h => absurd ?_ hslash, fun h => by cases h⟩
      exact Option.some.inj h ▸ List.getLast_mem (List.cons_ne_nil x s)

/-- Behind slashes at its end a path is what it was before, if it ends with no empty segment. -/
theorem trimSlashes_pathText_iff (hdir : ∀ s ∈ dir, '/' ∉ s) (n : Nat) :
    Endpoint.trimSlashes (Url.pathOf (dir ++ List.replicate n [])).text = (Url.pathOf dir).text ↔
      dir.getLast? ≠ some [] := by
  rw [Endpoint.trimSlashes_eq_iff, toList_text_pathOf, toList_text_pathOf, List.flatMap_append,
    flatMap_replicate_nil, ne_eq, ne_eq, getLast?_flatMap_eq_slash_iff hdir]
  exact and_iff_right ⟨n, rfl⟩

theorem pathOf_not_slashes (call : Call) (n : Nat) :
    (pathOf call).toList ≠ List.replicate n '/' := by
  have hletter : 'c' ∈ (pathOf call).toList := by
    cases call <;> simp [pathOf, connectionPath]
  intro h
  rw [h] at hletter
  exact absurd (List.eq_of_mem_replicate hletter) (by decide)

/-! ### Base URLs -/

/-- What is expected of a call's address `w` when the setting is read as `u`: the path goes on from
that of `u` without the slashes at its end, and the query is the call's own. -/
structure Serves (u w : Location) (call : Call) : Prop where
  path : w.path.text = Endpoint.trimSlashes u.path.text ++ pathOf call
  query : w.query = ownQuery call

/-- The path of a call does not get lost in a path that stays as it is. -/
theorem not_serves_of_path_eq {u w : Location} (h : w.path = u.path) : ¬Serves u w call := by
  intro hserves
  have hpath := hserves.path
  obtain ⟨n, hn⟩ := (Endpoint.trimSlashes_eq_iff.mp (rfl : Endpoint.trimSlashes u.path.text = _)).1
  rw [h, ← String.toList_inj, String.toList_append, hn] at hpath
  exact pathOf_not_slashes call n (List.append_cancel_left hpath).symm

theorem serves_iff_of_leads {u w : Location} {dir : List (List Char)} {m : Nat}
    (hdir : ∀ s ∈ dir, '/' ∉ s) (hu : u.path = Url.pathOf (dir ++ List.replicate m []))
    (hw : w.path = Url.pathOf (dir ++ (segmentsOf call).map String.toList))
    (hquery : w.query = ownQuery call) : Serves u w call ↔ dir.getLast? ≠ some [] := by
  have hpath : w.path.text = (Url.pathOf dir).text ++ pathOf call := by
    apply String.toList_injective
    rw [hw, String.toList_append, toList_text_pathOf, toList_text_pathOf, List.flatMap_append,
      pathOf_eq, toList_pathText]
  rw [← trimSlashes_pathText_iff hdir m, ← hu, eq_comm]
  refine ⟨fun h => ?_, fun h => ⟨?_, hquery⟩⟩
  · have happend := hpath.symm.trans h.path
    rwa [String.append_left_inj] at happend
  · rw [hpath, h]

/-- How a base URL is written whose setting is read as `u`. Either it ends with the path of `u`
but for slashes, or a query or fragment has begun, and the slashes belonged to it. -/
theorem written_of_accepted {u : Location} (hread : Config.readUrl v = .ok b)
    (hparse : Url.parse (Text.trim v) = .ok u)
    (hend : ∀ x ∈ (Text.trim v).toList.getLast?, 0x20 < x.toNat) :
    IsWeb u.scheme ∧ b.toList.getLast? ≠ some '/' ∧ ∃ a, u.host = some a.host ∧
      a.host ≠ .empty ∧ u.port = a.port ∧
      ((∃ path n, u = locate u.scheme a (path ++ List.replicate n '/') none none ∧
          Written (cleanFront b.toList) u.scheme a path none none) ∨
        ¬(u.query = none ∧ u.fragment = none) ∧ ∃ path query fragment,
          u.path = Url.pathOf (resolve false (splitPath isWebSlash path.tail)) ∧
          (query.isSome = true ∨ fragment.isSome = true) ∧
          Written (cleanFront b.toList) u.scheme a path query fragment) := by
  obtain ⟨u', hu', hweb, hb⟩ := Config.readUrl_eq_ok_iff.mp hread
  obtain rfl : u' = u := Except.ok.inj (hu'.symm.trans hparse)
  obtain ⟨⟨n, hn⟩, hlast⟩ := Endpoint.trimSlashes_eq_iff.mp hb
  obtain ⟨a, path, query, fragment, hwritten, hu⟩ := (parse_eq_ok_iff hweb).mp hparse
  have hslashes : Sheer (List.replicate n '/') := fun x hx => by
    rw [List.eq_of_mem_replicate hx]
    decide
  have hloose : ∀ x ∈ List.replicate n '/', isLoose x = true := fun x hx => by
    rw [List.eq_of_mem_replicate hx]
    decide
  rw [clean_eq_cleanFront hend, hn, cleanFront_append hslashes] at hwritten
  refine ⟨hweb, hlast, a, by rw [hu]; rfl, hwritten.host_ne_empty, by rw [hu]; rfl, ?_⟩
  rcases hwritten.of_append_loose hloose with
    ⟨path', rfl, rfl, rfl, hfront⟩ | ⟨hbegun, query', fragment', hbegun', hfront⟩
  · exact .inl ⟨path', n, hu, hfront⟩
  · refine .inr ⟨?_, path, query', fragment', by rw [hu]; rfl, hbegun', hfront⟩
    rintro ⟨hquery, hfragment⟩
    rw [hu] at hquery hfragment
    cases query <;> cases fragment <;> simp [locate, assemble] at hbegun hquery hfragment

/-- For an accepted setting that does not end in a control character, the addresses of all calls
keep scheme, host and port, and are what is expected exactly if neither a query nor a fragment
comes behind the path and the path leads to no empty segment. The calls are all but those about a
connection named by one or two points. -/
theorem accepted_base_serves_iff (v b : String) (u : Location) (key : Option String)
    (timeout : Span) (call : Call) (hread : Config.readUrl v = .ok b)
    (hparse : Url.parse (Text.trim v) = .ok u)
    (hend : ∀ x ∈ (Text.trim v).toList.getLast?, 0x20 < x.toNat)
    (hcall : ∀ s ∈ namesOf call, s ≠ "." ∧ s ≠ "..") :
    let c := Client.ofEndpoint ⟨b, key⟩ timeout
    ∃ w, Url.parse (c.url call) = .ok w ∧
      w.scheme = u.scheme ∧ w.host = u.host ∧ w.port = u.port ∧
      (Serves u w call ↔
        u.query = none ∧ u.fragment = none ∧ (leadsTo b).getLast? ≠ some []) ∧
      (∀ q, c.request call = .ok q ↔ keyFits key = true ∧
        isReachable (withoutCredentials w) = true ∧
        q = ⟨methodOf call, withoutCredentials w, credentials? w, key,
          (bodyOf call).map fun _ => "application/json", (bodyOf call).getD "", none⟩) ∧
      (ownQuery call).elim [] parametersIn = (parametersOf call).map fun p =>
        (Text.encodeUtf8 p.1.toList, Text.encodeUtf8 p.2.toList) := by
  intro c
  obtain ⟨hweb, hlast, a, hhost, hne, hport, hcases⟩ := written_of_accepted hread hparse hend
  have hbaseUrl : c.endpoint.baseUrl = b := Endpoint.trimSlashes_eq_self hlast
  have hparameters := parametersIn_ownQuery call
  rcases hcases with ⟨path, n, hu, hfront⟩ | ⟨hbegun, path, query, fragment, hpath, hsome, hfront⟩
  · have hleads : leadsTo b = directory path := by rw [leadsTo, hfront.pathIn_eq]
    rw [← hbaseUrl] at hfront
    have hw := parse_url_of_written hweb hfront call
    rw [resolveFrom_segmentsOf hcall, List.reverse_reverse] at hw
    obtain ⟨m, hm⟩ := exists_resolve_slashes path n
    have hpath : u.path = Url.pathOf (directory path ++ List.replicate m []) := by
      rw [hu, ← hm]
      rfl
    have hnone : u.query = none ∧ u.fragment = none := by
      rw [hu]
      exact ⟨rfl, rfl⟩
    refine ⟨_, hw, rfl, hhost.symm, hport.symm, ?_, fun q =>
      Client.request_eq_ok_iff hw (hasHost_of_ne_empty rfl hne), hparameters⟩
    rw [hleads, serves_iff_of_leads (fun _ => not_mem_of_mem_directory) hpath rfl rfl]
    simp [hnone]
  · rw [← hbaseUrl] at hfront
    obtain ⟨query', fragment', hw⟩ := parse_url_of_begun hweb hfront hsome call
    have hlost : ¬Serves u (locate u.scheme a path query' fragment') call :=
      not_serves_of_path_eq hpath.symm
    refine ⟨_, hw, rfl, hhost.symm, hport.symm, ⟨fun hserves => absurd hserves hlost, ?_⟩, fun q =>
      Client.request_eq_ok_iff hw (hasHost_of_ne_empty rfl hne), hparameters⟩
    rintro ⟨hquery, hfragment, -⟩
    exact absurd ⟨hquery, hfragment⟩ hbegun

/-- A path with segments that lead back, and slashes at its end. -/
theorem base_with_path_serves :
    Config.readUrl " http://inviter:8021/a/../admin// " = .ok "http://inviter:8021/a/../admin" ∧
    ∃ u w, Url.parse (Text.trim " http://inviter:8021/a/../admin// ") = .ok u ∧
      Url.parse ((Client.ofEndpoint ⟨"http://inviter:8021/a/../admin", none⟩ (.ofSeconds 10)).url
        (.createInvitation (some "q") false)) = .ok w ∧
      Serves u w (.createInvitation (some "q") false) := by
  have hread : Config.readUrl " http://inviter:8021/a/../admin// " =
      .ok "http://inviter:8021/a/../admin" := toOption_eq_some_iff.mp (by decide +kernel)
  have hparse : Url.parse (Text.trim " http://inviter:8021/a/../admin// ") =
      .ok ⟨"http", "", none, some (.domain "inviter"), some 8021, .segments ["admin", "", ""], none,
        none⟩ := toOption_eq_some_iff.mp (by decide +kernel)
  have hlast : (Text.trim " http://inviter:8021/a/../admin// ").toList.getLast? = some '/' := by
    decide +kernel
  have hend : ∀ x ∈ (Text.trim " http://inviter:8021/a/../admin// ").toList.getLast?,
      0x20 < x.toNat := by
    rw [hlast]
    rintro _ ⟨⟩
    decide
  obtain ⟨w, hw, -, -, -, hserves, -, -⟩ := accepted_base_serves_iff _ _ _ none (.ofSeconds 10)
    (.createInvitation (some "q") false) hread hparse hend (by decide)
  exact ⟨hread, _, w, hparse, hw, hserves.mpr ⟨rfl, rfl, by decide +kernel⟩⟩

/-- A setting with a query is accepted, and all that calls put behind it gets lost in the query. -/
theorem query_swallows_path :
    Config.readUrl "http://inviter:8021/?x=1" = .ok "http://inviter:8021/?x=1" ∧
    ∃ u w, Url.parse (Text.trim "http://inviter:8021/?x=1") = .ok u ∧
      Url.parse ((Client.ofEndpoint ⟨"http://inviter:8021/?x=1", none⟩ (.ofSeconds 10)).url
        (.createInvitation (some "q") false)) = .ok w ∧
      w.path.text = "/" ∧
      w.path.text ≠ Endpoint.trimSlashes u.path.text ++ "/connections/create-invitation" := by
  refine ⟨toOption_eq_some_iff.mp (by decide +kernel),
    ⟨"http", "", none, some (.domain "inviter"), some 8021, .segments [""], some "x=1", none⟩,
    ⟨"http", "", none, some (.domain "inviter"), some 8021, .segments [""],
      some "x=1/connections/create-invitation?alias=q&auto_accept=false", none⟩,
    toOption_eq_some_iff.mp (by decide +kernel), toOption_eq_some_iff.mp (by decide +kernel),
    ?_, ?_⟩
  · decide
  · decide

end Rendezvous.Http
