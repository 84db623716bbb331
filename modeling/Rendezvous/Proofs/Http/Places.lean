import Rendezvous.Http.Client
import Rendezvous.Proofs.Url.WebAddress

/-! Where the requests of calls go: what calls put behind a base URL, and what the whole is read
as. -/

namespace Rendezvous.Http

open Agent (Call)
open Url

variable {call : Call} {x : Char} {s : String}

/-! ### Escaped texts -/

/-- The characters of which paths and queries of calls are made, but for the query's mark. -/
def isCallChar (x : Char) : Bool := Text.isUnreserved x || ['%', '/', '=', '&'].contains x

theorem toNat_lt_of_isUnreserved (h : Text.isUnreserved x = true) : x.toNat < 0x80 := by
  unfold Text.isUnreserved at h
  delta Char.isAlphanum Char.isAlpha Char.isUpper Char.isLower Char.isDigit at h
  simp only [Bool.or_eq_true, Bool.and_eq_true, decide_eq_true_eq, beq_iff_eq,
    UInt32.le_iff_toNat_le, ge_iff_le] at h
  rcases h with ((((((⟨-, h⟩ | ⟨-, h⟩) | ⟨-, h⟩) | rfl) | rfl) | rfl) | rfl)
  · exact Nat.lt_of_le_of_lt h (by decide)
  · exact Nat.lt_of_le_of_lt h (by decide)
  · exact Nat.lt_of_le_of_lt h (by decide)
  all_goals decide

theorem toNat_lt_of_isCallChar (h : isCallChar x = true) : x.toNat < 0x80 := by
  simp only [isCallChar, Bool.or_eq_true, List.contains_iff_mem] at h
  rcases h with h | h
  · exact toNat_lt_of_isUnreserved h
  · simp only [List.mem_cons, List.not_mem_nil, or_false] at h
    rcases h with rfl | rfl | rfl | rfl <;> decide

/-- What holds of these characters can be checked one by one. -/
theorem forall_isCallChar {P : Char → Prop}
    (h : ∀ n < 0x80, isCallChar (Char.ofNat n) = true → P (Char.ofNat n))
    (hx : isCallChar x = true) : P x := by
  have hchar := h x.toNat (toNat_lt_of_isCallChar hx)
  rw [Char.ofNat_toNat] at hchar
  exact hchar hx

theorem toList_escape (s : String) :
    (escape s).toList = Text.percentEncode Text.isUnreserved s.toList :=
  String.toList_ofList

theorem of_mem_escape (h : x ∈ (escape s).toList) : x = '%' ∨ Text.isUnreserved x = true := by
  rw [toList_escape] at h
  rcases Text.mem_percentEncode h with ⟨-, -, hx⟩ | hx | hx
  · exact .inr hx
  · exact .inl hx
  · exact .inr hx

theorem isCallChar_of_mem_escape (h : x ∈ (escape s).toList) : isCallChar x = true := by
  rcases of_mem_escape h with rfl | hx
  · rfl
  · simp [isCallChar, hx]

theorem not_mem_escape (hx : x ≠ '%') (hreserved : Text.isUnreserved x = false) :
    x ∉ (escape s).toList := by
  intro h
  rcases of_mem_escape h with rfl | h
  · exact hx rfl
  · rw [hreserved] at h
    cases h

/-- Escaping can be undone. -/
theorem percentDecode_escape (s : String) :
    Text.percentDecode (escape s).toList = Text.encodeUtf8 s.toList := by
  rw [toList_escape, Text.percentDecode_percentEncode (by decide)]

theorem escape_injective {t : String} (h : escape s = escape t) : s = t := by
  have hdecode := percentDecode_escape s
  rw [h, percentDecode_escape] at hdecode
  exact String.toList_injective (Text.encodeUtf8_injective hdecode.symm)

theorem escape_eq_self (h : s.toList.all Text.isUnreserved = true) : escape s = s := by
  have hkept : ∀ x ∈ s.toList, x.toNat < 0x80 ∧ Text.isUnreserved x = true := fun x hx =>
    ⟨toNat_lt_of_isUnreserved (List.all_eq_true.mp h x hx), List.all_eq_true.mp h x hx⟩
  rw [escape, Text.percentEncode_eq_self hkept, String.ofList_toList]

/-! ### What calls put behind a base URL -/

/-- The names along a call's path, as they are before they are escaped. -/
def namesOf : Call → List String
  | .createInvitation .. => ["connections", "create-invitation"]
  | .receiveInvitation .. => ["connections", "receive-invitation"]
  | .acceptInvitation id _ => ["connections", id.text, "accept-invitation"]
  | .listConnections _ => ["connections"]
  | .acceptRequest id => ["connections", id.text, "accept-request"]

def segmentsOf (call : Call) : List String := (namesOf call).map escape

def ownQuery (call : Call) : Option String :=
  if (parametersOf call).isEmpty then none
  else some (String.intercalate "&" ((parametersOf call).map fun p => p.1 ++ "=" ++ escape p.2))

theorem pathOf_eq (call : Call) : pathOf call = (Path.segments (segmentsOf call)).text := by
  have hwords : ∀ w ∈ ["connections", "create-invitation", "receive-invitation",
      "accept-invitation", "accept-request"], escape w = w := by
    refine fun w hw => escape_eq_self ?_
    revert w
    decide
  apply String.toList_injective
  rw [toList_pathText]
  cases call <;> simp [pathOf, segmentsOf, namesOf, connectionPath, hwords]

theorem queryOf_eq (call : Call) :
    queryOf (parametersOf call) = (ownQuery call).elim "" ("?" ++ ·) := by
  unfold queryOf ownQuery
  split <;> rfl

theorem toList_queryOf (call : Call) :
    (queryOf (parametersOf call)).toList =
      ((ownQuery call).map String.toList).elim [] ('?' :: ·) := by
  rw [queryOf_eq]
  cases ownQuery call <;> simp

theorem escape_name {p : String × String} (h : p ∈ parametersOf call) : escape p.1 = p.1 := by
  have hwords : ∀ w ∈ ["alias", "auto_accept", "my_label"],
      w.toList.all Text.isUnreserved = true := by decide
  have hname : p.1 ∈ ["alias", "auto_accept", "my_label"] := by
    cases call <;> simp [parametersOf, given] at h <;> grind
  exact escape_eq_self (hwords p.1 hname)

/-- Where the parameters of a call part. -/
theorem splitOn_pairs (hsome : parametersOf call ≠ []) :
    (String.intercalate "&" ((parametersOf call).map fun p =>
        p.1 ++ "=" ++ escape p.2)).toList.splitOn '&' =
      (parametersOf call).map fun p => (escape p.1).toList ++ '=' :: (escape p.2).toList := by
  have hpairs : ((parametersOf call).map fun p => p.1 ++ "=" ++ escape p.2).map String.toList =
      (parametersOf call).map fun p => (escape p.1).toList ++ '=' :: (escape p.2).toList := by
    rw [List.map_map]
    refine List.map_congr_left fun p hp => ?_
    simp [escape_name hp]
  rw [String.toList_intercalate, hpairs]
  refine List.splitOn_intercalate '&' (fun l hl => ?_) (by simpa using hsome)
  obtain ⟨p, -, rfl⟩ := List.mem_map.mp hl
  have hescape : ∀ t : String, '&' ∉ (escape t).toList :=
    fun t => not_mem_escape (by decide) (by decide)
  simp [hescape]

/-- The parameters in a query, as servers read them. -/
def parametersIn (query : String) : List (List UInt8 × List UInt8) :=
  (query.toList.splitOn '&').map fun p =>
    let (name, value) := splitAtChar '=' p
    (Text.percentDecode name, Text.percentDecode (value.getD []))

/-- The query of a call says its parameters. -/
theorem parametersIn_ownQuery (call : Call) :
    (ownQuery call).elim [] parametersIn =
      (parametersOf call).map fun p =>
        (Text.encodeUtf8 p.1.toList, Text.encodeUtf8 p.2.toList) := by
  unfold ownQuery
  split
  · rename_i hnone
    rw [List.isEmpty_iff.mp hnone]
    rfl
  · rename_i hsome
    rw [Option.elim_some, parametersIn, splitOn_pairs (by simpa using hsome), List.map_map]
    refine List.map_congr_left fun p hp => ?_
    have hcut : splitAtChar '=' ((escape p.1).toList ++ '=' :: (escape p.2).toList) =
        ((escape p.1).toList, some (escape p.2).toList) :=
      splitAtChar_eq_iff.mpr ⟨not_mem_escape (by decide) (by decide), rfl⟩
    simp only [Function.comp_apply, hcut, Option.getD_some, percentDecode_escape]

theorem isCallChar_of_mem_ownQuery {q : String} (hq : q ∈ ownQuery call) (hx : x ∈ q.toList) :
    isCallChar x = true := by
  unfold ownQuery at hq
  split at hq
  · cases hq
  · obtain rfl := Option.mem_some_iff.mp hq
    rw [String.toList_intercalate] at hx
    rcases of_mem_intercalate hx with hx | ⟨l, hl, hx⟩
    · obtain rfl : x = '&' := by simpa using hx
      rfl
    · simp only [List.map_map, List.mem_map, Function.comp_apply] at hl
      obtain ⟨p, hp, rfl⟩ := hl
      rw [← escape_name hp, String.toList_append, String.toList_append] at hx
      rcases List.mem_append.mp hx with hx | hx
      · rcases List.mem_append.mp hx with hx | hx
        · exact isCallChar_of_mem_escape hx
        · obtain rfl : x = '=' := by simpa using hx
          rfl
      · exact isCallChar_of_mem_escape hx

theorem isCallChar_of_mem_pathOf (hx : x ∈ (pathOf call).toList) : isCallChar x = true := by
  rw [pathOf_eq, toList_pathText] at hx
  obtain ⟨l, hl, hx⟩ := List.mem_flatMap.mp hx
  rcases List.mem_cons.mp hx with rfl | hx
  · rfl
  · simp only [segmentsOf, List.map_map, List.mem_map, Function.comp_apply] at hl
    obtain ⟨t, -, rfl⟩ := hl
    exact isCallChar_of_mem_escape hx

theorem sheer_of_isCallChar {l : List Char} (h : ∀ x ∈ l, isCallChar x = true) : Sheer l :=
  fun x hx => forall_isCallChar (P := fun x => 0x20 < x.toNat) (by decide) (h x hx)

theorem sheer_behind (call : Call) :
    Sheer ((pathOf call).toList ++ (queryOf (parametersOf call)).toList) := by
  refine (sheer_of_isCallChar fun x hx => isCallChar_of_mem_pathOf hx).append ?_
  rw [toList_queryOf]
  cases hq : ownQuery call with
  | none => exact nofun
  | some q =>
    intro x hx
    rcases List.mem_cons.mp hx with rfl | hx
    · decide
    · exact sheer_of_isCallChar (fun x hx => isCallChar_of_mem_ownQuery hq hx) x hx

theorem noMark_of_isCallChar (h : isCallChar x = true) : x ≠ '?' ∧ x ≠ '#' :=
  forall_isCallChar (P := fun x => x ≠ '?' ∧ x ≠ '#') (by decide) h

theorem hash_not_mem_behind (call : Call) :
    '#' ∉ (pathOf call).toList ++ (queryOf (parametersOf call)).toList := by
  rw [toList_queryOf]
  intro h
  rcases List.mem_append.mp h with h | h
  · exact (noMark_of_isCallChar (isCallChar_of_mem_pathOf h)).2 rfl
  · cases hq : ownQuery call with
    | none =>
      rw [hq] at h
      cases h
    | some q =>
      rw [hq] at h
      rcases List.mem_cons.mp h with h | h
      · exact absurd h (by decide)
      · exact (noMark_of_isCallChar (isCallChar_of_mem_ownQuery hq h)).2 rfl

theorem percentEncode_ownQuery (call : Call) :
    ((ownQuery call).map String.toList).map (fun q =>
      String.ofList (Text.percentEncode (isPlainInQuery true) q)) = ownQuery call := by
  cases hq : ownQuery call with
  | none => rfl
  | some q =>
    have hplain : ∀ x ∈ q.toList, x.toNat < 0x80 ∧ isPlainInQuery true x = true := fun x hx =>
      forall_isCallChar (P := fun x => x.toNat < 0x80 ∧ isPlainInQuery true x = true) (by decide)
        (isCallChar_of_mem_ownQuery hq hx)
    simp [Text.percentEncode_eq_self hplain]

theorem isWebSlash_of_mem_escape (hx : x ∈ (escape s).toList) : isWebSlash x = false := by
  have hslash := forall_isCallChar (P := fun x => x ≠ '/' → isWebSlash x = false) (by decide)
    (isCallChar_of_mem_escape hx)
  refine hslash ?_
  rintro rfl
  exact not_mem_escape (by decide) (by decide) hx

theorem percentEncode_escape (s : String) :
    Text.percentEncode isPlainInPath (escape s).toList = (escape s).toList :=
  Text.percentEncode_eq_self fun _ hx =>
    forall_isCallChar (P := fun x => x.toNat < 0x80 ∧ isPlainInPath x = true) (by decide)
      (isCallChar_of_mem_escape hx)

/-- The path of a call starts with a slash, and is cut into its segments behind it. -/
theorem exists_toList_pathOf (call : Call) : ∃ t, (pathOf call).toList = '/' :: t ∧
    splitPath isWebSlash t = (segmentsOf call).map String.toList := by
  have hne : (segmentsOf call).map String.toList ≠ [] := by
    cases call <;> simp [segmentsOf, namesOf]
  have hsplit := splitPath_flatMap hne fun l hl x hx => by
    simp only [segmentsOf, List.map_map, List.mem_map, Function.comp_apply] at hl
    obtain ⟨t, -, rfl⟩ := hl
    exact isWebSlash_of_mem_escape hx
  rw [pathOf_eq, toList_pathText]
  obtain ⟨l, ls, hls⟩ := List.exists_cons_of_ne_nil hne
  rw [hls] at hsplit ⊢
  exact ⟨_, rfl, hsplit⟩

/-! ### What the whole is read as -/

theorem pathOf_map_toList (parts : List String) :
    Url.pathOf (parts.map String.toList) = .segments parts := by
  simp [Url.pathOf, Function.comp_def]

section Read

variable {c : Client} {scheme : String} {a : Authority} {path : List Char}

theorem clean_url (c : Client) (call : Call) :
    clean (c.url call).toList = cleanFront c.endpoint.baseUrl.toList ++
      ((pathOf call).toList ++ (queryOf (parametersOf call)).toList) := by
  obtain ⟨t, ht, -⟩ := exists_toList_pathOf call
  rw [Client.url, String.toList_append, String.toList_append, List.append_assoc]
  exact clean_append (sheer_behind call) (by simp [ht])

/-- The address of a call, if that of the base URL ends with its path. -/
theorem parse_url_of_written (hweb : IsWeb scheme)
    (h : Written (cleanFront c.endpoint.baseUrl.toList) scheme a path none none) (call : Call) :
    Url.parse (c.url call) = .ok (assemble scheme (some a)
      (Url.pathOf (resolveFrom false (directory path).reverse
        ((segmentsOf call).map String.toList))) (ownQuery call) none) := by
  obtain ⟨t, ht, hsplit⟩ := exists_toList_pathOf call
  have hslash : ∀ x ∈ (pathOf call).toList.head?, isWebSlash x = true := by
    rw [ht]
    rintro _ ⟨⟩
    rfl
  have hmark : '?' ∉ (pathOf call).toList :=
    fun hmark => (noMark_of_isCallChar (isCallChar_of_mem_pathOf hmark)).1 rfl
  have hhash := hash_not_mem_behind call
  rw [toList_queryOf] at hhash
  have hlong := h.append_path hslash hmark hhash
  rw [← toList_queryOf, ← clean_url] at hlong
  refine (parse_eq_ok_iff hweb).mpr ⟨a, _, _, _, hlong, ?_⟩
  rw [locate, percentEncode_ownQuery, ht, resolve_append path rfl, hsplit]
  rfl

/-- The address of a call, if that of the base URL ends with a query or a fragment: the call's path
is lost in it. -/
theorem parse_url_of_begun {query fragment : Option (List Char)} (hweb : IsWeb scheme)
    (h : Written (cleanFront c.endpoint.baseUrl.toList) scheme a path query fragment)
    (hbegun : query.isSome = true ∨ fragment.isSome = true) (call : Call) :
    ∃ query' fragment', Url.parse (c.url call) = .ok (locate scheme a path query' fragment') := by
  obtain ⟨query', fragment', hlong⟩ := h.append_behind hbegun (hash_not_mem_behind call)
  rw [← clean_url] at hlong
  exact ⟨query', fragment', (parse_eq_ok_iff hweb).mpr ⟨a, _, _, _, hlong, rfl⟩⟩

end Read

theorem leads_escape (hs : s ≠ ".") (hs' : s ≠ "..") : Leads (escape s).toList := by
  constructor
  · refine Bool.eq_false_iff.mpr fun h => hs (String.toList_injective ?_)
    exact Text.encodeUtf8_injective
      ((percentDecode_escape s).symm.trans (percentDecode_of_isSingleDot h))
  · refine Bool.eq_false_iff.mpr fun h => hs' (String.toList_injective ?_)
    exact Text.encodeUtf8_injective
      ((percentDecode_escape s).symm.trans (percentDecode_of_isDoubleDot h))

/-- The segments of a call stay as they are, unless the name of a connection leads elsewhere. -/
theorem resolveFrom_segmentsOf (h : ∀ s ∈ namesOf call, s ≠ "." ∧ s ≠ "..")
    (done : List (List Char)) :
    resolveFrom false done ((segmentsOf call).map String.toList) =
      done.reverse ++ (segmentsOf call).map String.toList := by
  have hleads : ∀ l ∈ (segmentsOf call).map String.toList, Leads l := by
    intro l hl
    simp only [segmentsOf, List.map_map, List.mem_map, Function.comp_apply] at hl
    obtain ⟨s, hs, rfl⟩ := hl
    exact leads_escape (h s hs).1 (h s hs).2
  rw [resolveFrom_of_leads hleads, segmentsOf, List.map_map, List.map_map]
  simp [Function.comp_def, percentEncode_escape]

/-! ### The request that is made -/

section Plain

variable {u : Location}

theorem credentials?_eq_none (huser : u.username = "") (hpassword : u.password = none) :
    credentials? u = none := by
  have hempty : Text.decodeUtf8? (Text.percentDecode []) = some [] := rfl
  simp [credentials?, huser, hpassword, hempty]

theorem withoutCredentials_eq_self (huser : u.username = "") (hpassword : u.password = none) :
    withoutCredentials u = u := by
  simp [withoutCredentials, credentials?_eq_none huser hpassword]

theorem hasHost_of_ne_empty {h : Host} (hhost : u.host = some h) (hne : h ≠ .empty) :
    u.hasHost = true := by
  cases h <;> simp_all [Location.hasHost]

/-- The text of an address without user and fragment. -/
theorem text_eq {h : Host} (hhost : u.host = some h) (huser : u.username = "")
    (hpassword : u.password = none) (hfragment : u.fragment = none) :
    u.text = u.scheme ++ "://" ++ Location.authority h u.port ++ u.path.text ++
      u.query.elim "" ("?" ++ ·) := by
  have hfront : ":" ++ "//" = "://" := by decide
  have hinfo : u.userinfo = "" := by simp [Location.userinfo, huser, hpassword]
  simp only [Location.text, hinfo, hhost, hfragment, ← hfront, Option.elim_none,
    String.append_empty, String.append_assoc]

end Plain

/-- A key that a header can hold, or none. -/
def keyFits (key : Option String) : Bool := key.all fun k => k.toList.all isHeaderChar

namespace Request

theorem build_eq_ok_iff {method : Method} {url body : String} {key type : Option String}
    {q : Request} :
    build method url key type body = .ok q ↔ ∃ u, Url.parse url = .ok u ∧ u.hasHost = true ∧
      keyFits key = true ∧ isReachable (withoutCredentials u) = true ∧
      q = ⟨method, withoutCredentials u, credentials? u, key, type, body, none⟩ := by
  have hkey : (key.any fun k => !(k.toList.all isHeaderChar)) = !keyFits key := by
    cases key <;> rfl
  unfold build
  cases Url.parse url with
  | error f => simp
  | ok u =>
    simp only [hkey, Except.ok.injEq, exists_eq_left', eq_comm (a := q)]
    cases u.hasHost <;> cases keyFits key <;> cases isReachable (withoutCredentials u) <;> simp

end Request

/-- The request of a call, once it is known what its address is read as. -/
theorem Client.request_eq_ok_iff {c : Client} {u : Location}
    (hparse : Url.parse (c.url call) = .ok u) (hhost : u.hasHost = true) {q : Request} :
    c.request call = .ok q ↔ keyFits c.endpoint.apiKey = true ∧
      isReachable (withoutCredentials u) = true ∧
      q = ⟨methodOf call, withoutCredentials u, credentials? u, c.endpoint.apiKey,
        (bodyOf call).map fun _ => "application/json", (bodyOf call).getD "", none⟩ := by
  rw [Client.request, Request.build_eq_ok_iff]
  simp only [hparse, Except.ok.injEq, exists_eq_left', hhost, true_and]

end Rendezvous.Http
