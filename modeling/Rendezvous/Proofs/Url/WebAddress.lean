import Rendezvous.Proofs.Url.Padding
import Rendezvous.Proofs.Url.Resolution

/-! How the text of a web address is made up, and what becomes of the address when more text is put
behind it: a path goes on, unless a query or a fragment has begun. -/

namespace Rendezvous.Url

variable {scheme : String} {cs slashes place path t : List Char} {a : Authority}
  {query fragment : Option (List Char)}

def IsWeb (scheme : String) : Prop := scheme = "http" ∨ scheme = "https"

/-- The part of a web address that comes before its query. -/
structure Fronts (scheme : String) (slashes place path : List Char) (a : Authority) : Prop where
  leading : ∀ c ∈ slashes, isWebSlash c = true
  unbroken : ∀ c ∈ place, isWebSlash c = false
  nonempty : place ≠ []
  broken : ∀ c ∈ path.head?, isWebSlash c = true
  authority : ∃ rest, readAuthority scheme true false place = .ok (a, rest)

/-- How the text of a web address is made up, once what means nothing in it is gone. -/
inductive Written (cs : List Char) (scheme : String) (a : Authority) (path : List Char)
    (query fragment : Option (List Char)) : Prop
  | intro (name slashes place : List Char)
      (text : cs = name ++ ':' :: (slashes ++ place ++ path ++ query.elim [] ('?' :: ·) ++
        fragment.elim [] ('#' :: ·)))
      (named : NamesScheme name) (lower : scheme = String.ofList (name.map Char.toLower))
      (fronts : Fronts scheme slashes place path a)
      (noQuery : '?' ∉ slashes ++ place ++ path)
      (noFragment : '#' ∉ slashes ++ place ++ path ++ query.elim [] ('?' :: ·))

/-- The path in the text of a web address, as it stands there. -/
def pathIn (cs : List Char) : List Char :=
  let rest := (cs.dropWhile (· != ':')).tail
  let front := rest.takeWhile fun c => c != '?' && c != '#'
  (front.dropWhile isWebSlash).dropWhile fun c => !isWebSlash c

def locate (scheme : String) (a : Authority) (path : List Char)
    (query fragment : Option (List Char)) : Location :=
  assemble scheme (some a) (pathOf (resolve false (splitPath isWebSlash path.tail)))
    (query.map fun q => String.ofList (Text.percentEncode (isPlainInQuery true) q))
    (fragment.map fun f => String.ofList (Text.percentEncode isPlainInFragment f))

theorem readAuthority_nil (scheme : String) (followed : Bool) :
    readAuthority scheme true followed [] = .error .emptyHost := rfl

theorem Host.ne_empty_of_read {h : Host} (hread : Host.read cs = .ok h) : h ≠ .empty := by
  rintro rfl
  unfold Host.read at hread
  split at hread
  · rename_i address _
    cases address <;> cases hread
  · split at hread
    · cases hread
    · cases hread
    · rename_i name _ _
      split at hread
      · cases hnumber : readIpv4 name <;> rw [hnumber] at hread <;> cases hread
      · cases hread

/-- The authority of a web address names a host. User and password stand before its last `@`. -/
theorem of_readAuthority {followed : Bool} {rest : List Char}
    (h : readAuthority scheme true followed cs = .ok (a, rest)) :
    a.host ≠ .empty ∧
      (a.username, a.password) = readUserinfo ((splitAtLast? '@' cs).getD ([], cs)).1 := by
  unfold readAuthority at h
  rcases hsplit : (splitAtLast? '@' cs).getD ([], cs) with ⟨userinfo, place⟩
  rcases hinfo : readUserinfo userinfo with ⟨username, password⟩
  simp only [hsplit, hinfo, if_true] at h
  split at h
  · cases h
  · obtain ⟨host, hhost, h⟩ := bind_eq_ok_iff.mp h
    split at h
    · cases h
    · obtain ⟨port, -, h⟩ := bind_eq_ok_iff.mp h
      cases h
      exact ⟨Host.ne_empty_of_read hhost, rfl⟩

theorem noUser_of_readAuthority {followed : Bool} {rest : List Char}
    (h : readAuthority scheme true followed cs = .ok (a, rest)) (hat : '@' ∉ cs) :
    a.username = "" ∧ a.password = none := by
  have hback : ∀ c ∈ cs.reverse, (c != '@') = true := by
    intro c hc
    simpa using fun heq : c = '@' => hat (heq ▸ List.mem_reverse.mp hc)
  have hdrop := dropWhile_append_stop (t := []) hback nofun
  have huser := (of_readAuthority h).2
  rw [List.append_nil] at hdrop
  simp only [splitAtLast?, hdrop] at huser
  exact Prod.mk.inj huser

theorem readWeb_eq_ok_iff {x : Option Authority × Path} :
    readWeb scheme cs = .ok x ↔ ∃ slashes place path a, cs = slashes ++ place ++ path ∧
      Fronts scheme slashes place path a ∧
      x = (some a, pathOf (resolve false (splitPath isWebSlash path.tail))) := by
  constructor
  · intro h
    obtain ⟨⟨a, rest⟩, ha, hx⟩ := bind_eq_ok_iff.mp h
    have hstop : ∀ c ∈ ((cs.dropWhile isWebSlash).dropWhile fun c => !isWebSlash c).head?,
        isWebSlash c = true := fun c hc => by simpa using stops_dropWhile hc
    refine ⟨cs.takeWhile isWebSlash, (cs.dropWhile isWebSlash).takeWhile fun c => !isWebSlash c,
      (cs.dropWhile isWebSlash).dropWhile fun c => !isWebSlash c, a, ?_, ?_,
      (Except.ok.inj hx).symm⟩
    · rw [List.append_assoc, List.takeWhile_append_dropWhile, List.takeWhile_append_dropWhile]
    · refine ⟨fun c => of_mem_takeWhile, fun c hc => ?_, fun hnil => ?_, hstop, rest, ha⟩
      · simpa using of_mem_takeWhile hc
      · rw [hnil, readAuthority_nil] at ha
        cases ha
  · rintro ⟨slashes, place, path, a, rfl, ⟨hslashes, hplace, hplaced, hpath, rest, ha⟩, rfl⟩
    have hnot : ∀ c ∈ place, (!isWebSlash c) = true := fun c hc => by simp [hplace c hc]
    have hstop : ∀ c ∈ path.head?, (!isWebSlash c) = false := fun c hc => by simp [hpath c hc]
    have hfront : ∀ c ∈ (place ++ path).head?, isWebSlash c = false := by
      obtain ⟨c, r, rfl⟩ := List.exists_cons_of_ne_nil hplaced
      rintro _ ⟨⟩
      exact hplace c List.mem_cons_self
    rw [readWeb, List.append_assoc, dropWhile_append_stop hslashes hfront]
    dsimp only
    rw [takeWhile_append_stop hnot hstop, dropWhile_append_stop hnot hstop, ha]
    rfl

theorem splitScheme?_of_parse {text : String} {u : Location} (h : parse text = .ok u) :
    ∃ rest, splitScheme? (clean text.toList) = some (u.scheme, rest) := by
  unfold parse at h
  split at h
  · cases h
  · rename_i scheme rest hscheme
    refine ⟨rest, ?_⟩
    rw [hscheme]
    dsimp only at h
    split at h
    · obtain ⟨_, -, hu⟩ := bind_eq_ok_iff.mp h
      cases hu
      rfl
    · split at h
      all_goals
        obtain ⟨_, -, hu⟩ := bind_eq_ok_iff.mp h
        cases hu
        rfl

theorem parse_eq_ok_iff {text : String} {u : Location} (hweb : IsWeb u.scheme) :
    parse text = .ok u ↔ ∃ a path query fragment,
      Written (clean text.toList) u.scheme a path query fragment ∧
        u = locate u.scheme a path query fragment := by
  have hsome : ∀ scheme, IsWeb scheme → scheme ≠ "file" ∧
      ((usualPort? scheme).isSome || scheme == "file") = true := by
    rintro scheme (rfl | rfl) <;> exact ⟨by decide, rfl⟩
  constructor
  · intro h
    obtain ⟨rest, hscheme⟩ := splitScheme?_of_parse h
    obtain ⟨name, htext, hnamed, hlower⟩ := splitScheme?_eq_some_iff.mp hscheme
    obtain ⟨hfile, hport⟩ := hsome u.scheme hweb
    rcases hfragment : splitAtChar '#' rest with ⟨upper, fragment⟩
    rcases hquery : splitAtChar '?' upper with ⟨front, query⟩
    unfold parse at h
    simp only [hscheme, hfragment, hquery, if_neg hfile, hport, if_true] at h
    obtain ⟨⟨authority, path⟩, hread, hu⟩ := bind_eq_ok_iff.mp h
    obtain ⟨slashes, place, path, a, rfl, hfronts, hx⟩ := readWeb_eq_ok_iff.mp hread
    obtain ⟨rfl, rfl⟩ := Prod.mk.inj hx
    obtain ⟨hnoFragment, rfl⟩ := splitAtChar_eq_iff.mp hfragment
    obtain ⟨hnoQuery, rfl⟩ := splitAtChar_eq_iff.mp hquery
    exact ⟨a, path, query, fragment,
      ⟨name, slashes, place, htext, hnamed, hlower, hfronts, hnoQuery, hnoFragment⟩,
      (Except.ok.inj hu).symm⟩
  · rintro ⟨a, path, query, fragment,
      ⟨name, slashes, place, htext, hnamed, hlower, hfronts, hnoQuery, hnoFragment⟩, hu⟩
    obtain ⟨hfile, hport⟩ := hsome u.scheme hweb
    have hscheme := splitScheme?_eq_some_iff.mpr ⟨name, htext, hnamed, hlower⟩
    have hfragment := splitAtChar_eq_iff.mpr
      ⟨hnoFragment, rfl (a := _ ++ fragment.elim [] ('#' :: ·))⟩
    have hquery := splitAtChar_eq_iff.mpr ⟨hnoQuery, rfl (a := _ ++ query.elim [] ('?' :: ·))⟩
    have hread := readWeb_eq_ok_iff.mpr ⟨slashes, place, path, a, rfl, hfronts, rfl⟩
    unfold parse
    rw [hscheme]
    simp only [hfragment, hquery, if_neg hfile, hport, if_true, hread]
    exact congrArg Except.ok hu.symm

namespace Written

theorem host_ne_empty (h : Written cs scheme a path query fragment) : a.host ≠ .empty := by
  obtain ⟨_, _, _, _, _, _, hfronts, -, -⟩ := h
  obtain ⟨rest, hread⟩ := hfronts.authority
  exact (of_readAuthority hread).1

/-- A text without path, query and fragment ends with its place. -/
theorem getLast?_ne_slash (h : Written cs scheme a [] none none) : cs.getLast? ≠ some '/' := by
  obtain ⟨name, slashes, place, rfl, -, -, hfronts, -, -⟩ := h
  have hlast := List.getLast?_eq_some_getLast hfronts.nonempty
  have hslash := hfronts.unbroken _ (List.getLast_mem hfronts.nonempty)
  simp only [Option.elim_none, List.append_nil, List.getLast?_append, List.getLast?_cons, hlast,
    Option.some_or, Option.getD_some]
  intro hend
  rw [Option.some.inj hend] at hslash
  exact absurd hslash (by decide)

/-- The text settles where its path lies. -/
theorem pathIn_eq (h : Written cs scheme a path query fragment) : pathIn cs = path := by
  obtain ⟨name, slashes, place, rfl, hnamed, -, hfronts, hnoQuery, hnoFragment⟩ := h
  have hname : ∀ c ∈ name, (c != ':') = true := by
    intro c hc
    have hlegible := hnamed.legible c hc
    simp only [bne_iff_ne]
    rintro rfl
    exact absurd hlegible (by decide)
  have hfront : ∀ c ∈ slashes ++ place ++ path, (c != '?' && c != '#') = true := by
    intro c hc
    have hquery : c ≠ '?' := fun heq => hnoQuery (heq ▸ hc)
    have hfragment : c ≠ '#' := fun heq => hnoFragment (heq ▸ List.mem_append_left _ hc)
    simp [hquery, hfragment]
  have hend : ∀ c ∈ (query.elim [] ('?' :: ·) ++ fragment.elim [] ('#' :: ·)).head?,
      (c != '?' && c != '#') = false := by
    cases query <;> cases fragment <;> simp
  have hplace : ∀ c ∈ (place ++ path).head?, isWebSlash c = false := by
    obtain ⟨c, r, rfl⟩ := List.exists_cons_of_ne_nil hfronts.nonempty
    rintro _ ⟨⟩
    exact hfronts.unbroken c List.mem_cons_self
  unfold pathIn
  dsimp only
  rw [dropWhile_append_stop hname (by rintro _ ⟨⟩; rfl), List.tail_cons,
    List.append_assoc _ _ (fragment.elim _ _), takeWhile_append_stop hfront hend, List.append_assoc,
    dropWhile_append_stop hfronts.leading hplace,
    dropWhile_append_stop (fun c hc => by simp [hfronts.unbroken c hc])
      (fun c hc => by simp [hfronts.broken c hc])]

/-- A path, and a query if there is none yet, can be put behind an address that ends with its
path. -/
theorem append_path (h : Written cs scheme a path none none)
    (ht : ∀ c ∈ t.head?, isWebSlash c = true) (hquery : '?' ∉ t)
    (hfragment : '#' ∉ t ++ query.elim [] ('?' :: ·)) :
    Written (cs ++ (t ++ query.elim [] ('?' :: ·))) scheme a (path ++ t) query none := by
  obtain ⟨name, slashes, place, rfl, hnamed, hlower, hfronts, hnoQuery, hnoFragment⟩ := h
  have hpath : ∀ c ∈ (path ++ t).head?, isWebSlash c = true := by
    cases path with
    | nil => exact ht
    | cons d path => exact hfronts.broken
  refine ⟨name, slashes, place, by simp, hnamed, hlower, { hfronts with broken := hpath }, ?_, ?_⟩
  · rw [← List.append_assoc]
    exact fun hmem => (List.mem_append.mp hmem).elim hnoQuery hquery
  · rw [← List.append_assoc _ path t, List.append_assoc _ t]
    refine fun hmem => (List.mem_append.mp hmem).elim (fun hmem => hnoFragment ?_) hfragment
    simpa using hmem

/-- What is put behind a query or a fragment becomes part of it. -/
theorem append_behind (h : Written cs scheme a path query fragment)
    (hbehind : query.isSome = true ∨ fragment.isSome = true) (ht : '#' ∉ t) :
    ∃ query' fragment', Written (cs ++ t) scheme a path query' fragment' := by
  obtain ⟨name, slashes, place, rfl, hnamed, hlower, hfronts, hnoQuery, hnoFragment⟩ := h
  cases fragment with
  | some f =>
    exact ⟨query, some (f ++ t), name, slashes, place, by simp, hnamed, hlower, hfronts, hnoQuery,
      hnoFragment⟩
  | none =>
    cases query with
    | some q =>
      refine ⟨some (q ++ t), none, name, slashes, place, by simp, hnamed, hlower, hfronts, hnoQuery,
        ?_⟩
      rw [Option.elim_some, ← List.cons_append, ← List.append_assoc]
      exact fun hmem => (List.mem_append.mp hmem).elim hnoFragment ht
    | none => simp at hbehind

theorem of_append_loose_path (ht : ∀ c ∈ t, isLoose c = true)
    (h : Written (cs ++ t) scheme a path none none) :
    ∃ path', path = path' ++ t ∧ Written cs scheme a path' none none := by
  obtain ⟨name, slashes, place, htext, hnamed, hlower, hfronts, hnoQuery, hnoFragment⟩ := h
  -- The authority is not empty and ends with nothing loose, so what is loose comes behind it.
  obtain ⟨init, c, rfl⟩ : ∃ init c, place = init ++ [c] :=
    ⟨_, _, (List.dropLast_concat_getLast hfronts.nonempty).symm⟩
  have hc : c ∉ t := by
    intro hmem
    rcases Bool.or_eq_true_iff.mp (ht c hmem) with hslash | hpadding
    · rw [beq_iff_eq.mp hslash] at hfronts
      exact absurd (hfronts.unbroken '/' (by simp)) (by decide)
    · obtain ⟨rest, hread⟩ := hfronts.authority
      have hinit : ∀ d ∈ init, isWebSlash d = false :=
        fun d hd => hfronts.unbroken d (List.mem_append_left _ hd)
      exact readAuthority_concat_ne_ok hpadding hinit _ hread
  have hcut : cs ++ t = (name ++ ':' :: (slashes ++ init)) ++ c :: path := by
    rw [htext]
    simp
  obtain ⟨path', rfl, rfl⟩ := exists_of_append_eq hc hcut
  have hpath : ∀ d ∈ path'.head?, isWebSlash d = true := by
    intro d hd
    refine hfronts.broken d ?_
    rw [List.head?_append, Option.mem_def.mp hd]
    rfl
  refine ⟨path', rfl, name, slashes, init ++ [c], by simp, hnamed, hlower,
    { hfronts with broken := hpath }, fun hmem => hnoQuery ?_, fun hmem => hnoFragment ?_⟩
  · rw [← List.append_assoc]
    exact List.mem_append_left _ hmem
  · rw [Option.elim_none, List.append_nil] at hmem ⊢
    rw [← List.append_assoc]
    exact List.mem_append_left _ hmem

/-- What is loose at the end of an address belongs to its path, unless a query or a fragment has
begun. -/
theorem of_append_loose (ht : ∀ c ∈ t, isLoose c = true)
    (h : Written (cs ++ t) scheme a path query fragment) :
    (∃ path', path = path' ++ t ∧ query = none ∧ fragment = none ∧
        Written cs scheme a path' none none) ∨
      (query.isSome = true ∨ fragment.isSome = true) ∧ ∃ query' fragment',
        (query'.isSome = true ∨ fragment'.isSome = true) ∧
          Written cs scheme a path query' fragment' := by
  have hnot : ∀ c, isLoose c = false → c ∉ t := by
    intro c hc hmem
    rw [ht c hmem] at hc
    cases hc
  cases fragment with
  | some f =>
    obtain ⟨name, slashes, place, htext, hnamed, hlower, hfronts, hnoQuery, hnoFragment⟩ := h
    rw [Option.elim_some, ← List.cons_append, ← List.append_assoc] at htext
    obtain ⟨f', -, rfl⟩ := exists_of_append_eq (hnot '#' (by decide)) htext
    exact .inr ⟨.inr rfl, query, some f', .inr rfl, name, slashes, place, by simp, hnamed, hlower,
      hfronts, hnoQuery, hnoFragment⟩
  | none =>
    cases query with
    | some q =>
      obtain ⟨name, slashes, place, htext, hnamed, hlower, hfronts, hnoQuery, hnoFragment⟩ := h
      rw [Option.elim_none, List.append_nil, Option.elim_some, ← List.cons_append,
        ← List.append_assoc] at htext
      obtain ⟨q', rfl, rfl⟩ := exists_of_append_eq (hnot '?' (by decide)) htext
      refine .inr ⟨.inl rfl, some q', none, .inl rfl, name, slashes, place, by simp, hnamed, hlower,
        hfronts, hnoQuery, fun hmem => hnoFragment ?_⟩
      rw [Option.elim_some, ← List.cons_append, ← List.append_assoc]
      exact List.mem_append_left _ hmem
    | none =>
      obtain ⟨path', hpath, hwritten⟩ := of_append_loose_path ht h
      exact .inl ⟨path', hpath, rfl, rfl, hwritten⟩

end Written

/-! ### Addresses that are a scheme and a place only -/

/-- What follows `://` in a URL without user, path, query and fragment. -/
def IsBare (place : String) : Prop :=
  ∀ c ∈ place.toList, 0x20 < c.toNat ∧ c ∉ ['/', '\\', '?', '#', '@']

instance (place : String) : Decidable (IsBare place) := List.decidableBAll _ place.toList

section Bare

variable {bare : String} {u : Location}

theorem IsBare.isWebSlash_eq_false (h : IsBare bare) {c : Char} (hc : c ∈ bare.toList) :
    isWebSlash c = false := by
  obtain ⟨-, hmarks⟩ := h c hc
  simp only [List.mem_cons, not_or] at hmarks
  simp [isWebSlash, hmarks]

theorem sheer_bare (hweb : IsWeb scheme) (h : IsBare bare) :
    Sheer (scheme ++ "://" ++ bare).toList := by
  rw [String.toList_append]
  refine Sheer.append ?_ fun c hc => (h c hc).1
  rcases hweb with rfl | rfl <;> decide

theorem Sheer.clean (h : Sheer cs) : clean cs = cs := by
  rw [clean_eq_cleanFront fun c hc => h c (List.mem_of_getLast? hc), cleanFront_eq_self h]

theorem splitScheme?_bare (hweb : IsWeb scheme) (bare : String) :
    splitScheme? (scheme ++ "://" ++ bare).toList = some (scheme, '/' :: '/' :: bare.toList) := by
  refine splitScheme?_eq_some_iff.mpr ⟨scheme.toList, by simp, ?_⟩
  rcases hweb with rfl | rfl
  · exact ⟨⟨⟨'h', rfl, rfl⟩, List.all_eq_true.mp rfl⟩, by decide⟩
  · exact ⟨⟨⟨'h', rfl, rfl⟩, List.all_eq_true.mp rfl⟩, by decide⟩

/-- Two slashes and a place without slashes can be divided only between them. -/
theorem Fronts.eq_of_bare (h : Fronts scheme slashes place path a) (hbare : IsBare bare)
    (htext : '/' :: '/' :: bare.toList = slashes ++ (place ++ path ++ t)) :
    bare.toList = place ++ path ++ t := by
  obtain ⟨c, r, rfl⟩ := List.exists_cons_of_ne_nil h.nonempty
  have hdrop := dropWhile_append_stop (t := c :: r ++ path ++ t) h.leading (by
    rintro _ ⟨⟩
    exact h.unbroken c List.mem_cons_self)
  have hdrop' := dropWhile_append_stop (s := ['/', '/']) (p := isWebSlash) (List.all_eq_true.mp rfl)
    fun c hc => hbare.isWebSlash_eq_false (List.mem_of_mem_head? hc)
  rw [← hdrop, ← hdrop', ← htext]
  rfl

theorem exists_written_of_bare (hweb : IsWeb scheme) (hbare : IsBare bare)
    (h : parse (scheme ++ "://" ++ bare) = .ok u) :
    ∃ a, Written (scheme ++ "://" ++ bare).toList scheme a [] none none ∧
      u = locate scheme a [] none none ∧ a.username = "" ∧ a.password = none := by
  have hclean := (sheer_bare hweb hbare).clean
  have hscheme := splitScheme?_bare hweb bare
  obtain rfl : u.scheme = scheme := by
    obtain ⟨rest, hrest⟩ := splitScheme?_of_parse h
    rw [hclean, hscheme] at hrest
    cases hrest
    rfl
  obtain ⟨a, path, query, fragment, hwritten, hu⟩ := (parse_eq_ok_iff hweb).mp h
  rw [hclean] at hwritten
  obtain ⟨name, slashes, place, htext, hnamed, hlower, hfronts, hnoQuery, hnoFragment⟩ := hwritten
  have hbehind := hscheme.symm.trans (splitScheme?_eq_some_iff.mpr ⟨_, htext, hnamed, hlower⟩)
  have hplace := hfronts.eq_of_bare (t := query.elim [] ('?' :: ·) ++ fragment.elim [] ('#' :: ·))
    hbare (by simpa using hbehind)
  have hmarks : ∀ c ∈ bare.toList, c ∉ ['/', '\\', '?', '#', '@'] := fun c hc => (hbare c hc).2
  rw [hplace] at hmarks
  obtain rfl : path = [] := by
    cases path with
    | nil => rfl
    | cons c r =>
      have hc := hbare.isWebSlash_eq_false (c := c) (by simp [hplace])
      rw [hfronts.broken c rfl] at hc
      cases hc
  obtain rfl : query = none := by
    cases query with
    | none => rfl
    | some q => exact absurd (by simp) (hmarks '?' (by simp))
  obtain rfl : fragment = none := by
    cases fragment with
    | none => rfl
    | some f => exact absurd (by simp) (hmarks '#' (by simp))
  obtain ⟨rest, hread⟩ := hfronts.authority
  have huser := noUser_of_readAuthority hread fun hat => hmarks '@' (by simp [hat]) (by simp)
  exact ⟨a, ⟨name, slashes, place, htext, hnamed, hlower, hfronts, hnoQuery, hnoFragment⟩, hu,
    huser⟩

end Bare

end Rendezvous.Url
