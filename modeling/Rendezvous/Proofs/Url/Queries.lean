import Rendezvous.Proofs.Url.Hosts
import Rendezvous.Proofs.Url.WebAddress

/-! A question mark in the text of a web address marks its query, and nothing else. -/

namespace Rendezvous.Url

variable {scheme : String} {a : Authority} {u : Location} {cs : List Char}

theorem question_not_mem_percentEncode {keep : Char → Bool} (h : keep '?' = false)
    (cs : List Char) : '?' ∉ Text.percentEncode keep cs := by
  intro hc
  rcases Text.mem_percentEncode hc with ⟨-, -, hkeep⟩ | hc | hc
  · rw [h] at hkeep
    cases hkeep
  · exact absurd hc (by decide)
  · exact absurd hc (by decide)

theorem question_not_mem_text_of_read {host : Host} (h : Host.read cs = .ok host) :
    '?' ∉ host.text.toList := by
  intro hc
  rcases of_mem_text_of_read h hc with hmark | hfree
  · exact absurd hmark (by decide)
  · exact absurd hfree (by decide)

theorem question_not_mem_toString (n : Nat) : '?' ∉ (toString n).toList := by
  intro hc
  rw [Nat.toString_eq_repr, Nat.toList_repr] at hc
  exact absurd (not_forbidden_of_mem_toDigits hc) (by decide)

theorem host_of_readAuthority {followed : Bool} {rest : List Char}
    (h : readAuthority scheme true followed cs = .ok (a, rest)) :
    ∃ name, Host.read name = .ok a.host := by
  unfold readAuthority at h
  rcases hsplit : (splitAtLast? '@' cs).getD ([], cs) with ⟨userinfo, place⟩
  rcases hinfo : readUserinfo userinfo with ⟨username, password⟩
  simp only [hsplit, hinfo, if_true] at h
  split at h
  · cases h
  · obtain ⟨host, hhost, h⟩ := bind_eq_ok_iff.mp h
    split at h
    · cases h
    · obtain ⟨port, -, h⟩ := bind_eq_ok_iff.mp h
      cases h
      exact ⟨_, hhost⟩

/-- User and password as they are read hold no question mark. -/
theorem question_not_mem_readUserinfo (cs : List Char) :
    '?' ∉ (readUserinfo cs).1.toList ∧ ∀ p ∈ (readUserinfo cs).2, '?' ∉ p.toList := by
  have hwritten : ∀ cs, '?' ∉ (String.ofList (Text.percentEncode isPlainInUserinfo cs)).toList := by
    intro cs
    rw [String.toList_ofList]
    exact question_not_mem_percentEncode (by decide) cs
  unfold readUserinfo
  split
  · exact ⟨hwritten _, fun p hp => Option.mem_some_iff.mp hp ▸ hwritten _⟩
  · exact ⟨hwritten _, nofun⟩

theorem question_not_mem_resolveFrom {done segments : List (List Char)}
    (hdone : ∀ s ∈ done, '?' ∉ s) : ∀ s ∈ resolveFrom false done segments, '?' ∉ s := by
  induction segments generalizing done with
  | nil => exact fun s hs => hdone s (List.mem_reverse.mp hs)
  | cons t rest ih =>
    have hend : ∀ {done : List (List Char)}, (∀ s ∈ done, '?' ∉ s) →
        ∀ s ∈ if rest.isEmpty then [] :: done else done, '?' ∉ s := by
      intro done hdone
      split
      · exact List.forall_mem_cons.mpr ⟨List.not_mem_nil, hdone⟩
      · exact hdone
    rw [resolveFrom]
    split
    · refine ih (hend fun s hs => hdone s ?_)
      rw [shorten_eq_tail] at hs
      exact List.mem_of_mem_tail hs
    · split
      · exact ih (hend hdone)
      · rw [Bool.false_and, Bool.false_and, if_neg Bool.false_ne_true]
        exact ih (List.forall_mem_cons.mpr
          ⟨question_not_mem_percentEncode (by decide) t, hdone⟩)

/-- The query of an address is what stands behind the first question mark of its text. -/
theorem Written.query_eq {front path : List Char} {behind query fragment : Option (List Char)}
    (h : Written (front ++ behind.elim [] ('?' :: ·)) scheme a path query fragment)
    (hquestion : '?' ∉ front) (hhash : '#' ∉ front ++ behind.elim [] ('?' :: ·)) :
    query = behind ∧ fragment = none := by
  obtain ⟨name, slashes, place, htext, hnamed, -, -, hnoQuery, -⟩ := h
  obtain rfl : fragment = none := by
    cases fragment with
    | none => rfl
    | some f => exact absurd (by simp [htext]) hhash
  have hname : '?' ∉ name ++ ':' :: (slashes ++ place ++ path) := by
    intro hmem
    rcases List.mem_append.mp hmem with hmem | hmem
    · exact absurd (hnamed.legible _ hmem) (by decide)
    · rcases List.mem_cons.mp hmem with hcolon | hmem
      · exact absurd hcolon (by decide)
      · exact hnoQuery hmem
  have hcut := splitAtChar_eq_iff.mpr ⟨hquestion, rfl (a := front ++ behind.elim [] ('?' :: ·))⟩
  have hcut' : splitAtChar '?' (front ++ behind.elim [] ('?' :: ·)) = (_, query) :=
    splitAtChar_eq_iff.mpr ⟨hname, htext.trans (by simp)⟩
  exact ⟨(Prod.mk.inj (hcut'.symm.trans hcut)).2, rfl⟩

theorem Written.eq_none {path : List Char} {query fragment : Option (List Char)}
    (h : Written cs scheme a path query fragment) (hquestion : '?' ∉ cs) (hhash : '#' ∉ cs) :
    query = none ∧ fragment = none := by
  have hnil : cs = cs ++ (none : Option (List Char)).elim [] ('?' :: ·) := by simp
  rw [hnil] at h hhash
  exact h.query_eq hquestion hhash

/-- A query can be put behind an address that has none. -/
theorem Written.append_query {path : List Char} {query : Option (List Char)}
    (h : Written cs scheme a path none none) (hhash : '#' ∉ query.elim [] ('?' :: ·)) :
    Written (cs ++ query.elim [] ('?' :: ·)) scheme a path query none := by
  have hlong := h.append_path (t := []) nofun List.not_mem_nil hhash
  rwa [List.nil_append, List.append_nil] at hlong

def Location.front (u : Location) : String :=
  { u with query := none, fragment := none : Location }.text

theorem Location.text_eq_front (u : Location) : u.text =
    u.front ++ (u.query.elim "" fun q => "?" ++ q) ++ u.fragment.elim "" fun f => "#" ++ f := by
  simp [Location.front, Location.text, Location.userinfo]

/-- No part of an address holds a question mark, its query and fragment apart. -/
structure Unasked (u : Location) : Prop where
  scheme : '?' ∉ u.scheme.toList
  username : '?' ∉ u.username.toList
  password : ∀ p ∈ u.password, '?' ∉ p.toList
  host : ∀ h ∈ u.host, '?' ∉ h.text.toList
  path : '?' ∉ u.path.text.toList

namespace Unasked

theorem userinfo (h : Unasked u) : '?' ∉ u.userinfo.toList := by
  unfold Location.userinfo
  split
  · rename_i p hp
    simp [h.username, h.password p hp]
  · split
    · simp
    · simp [h.username]

theorem front (h : Unasked u) : '?' ∉ u.front.toList := by
  have hport : '?' ∉ (u.port.elim "" fun p => ":" ++ toString p).toList := by
    cases u.port with
    | none => simp
    | some p =>
      rw [Option.elim_some, String.toList_append]
      simpa using question_not_mem_toString p
  have hinfo : { u with query := none, fragment := none : Location }.userinfo = u.userinfo := rfl
  simp only [Location.front, Location.text, hinfo, String.toList_append, List.mem_append, not_or]
  refine ⟨⟨⟨⟨⟨h.scheme, by decide⟩, ?_⟩, h.path⟩, by simp⟩, by simp⟩
  split
  · rename_i host hhost
    simp only [Location.authority, String.toList_append, List.mem_append, not_or]
    exact ⟨⟨by decide, h.userinfo⟩, h.host host hhost, hport⟩
  · split <;> decide

end Unasked

/-- A web address that was read is in standard form, in which no question mark stands for itself
before the query. -/
theorem unasked_locate {rest path : List Char} {query fragment : Option (List Char)}
    (hweb : IsWeb scheme) (ha : readAuthority scheme true false cs = .ok (a, rest)) :
    Unasked (locate scheme a path query fragment) := by
  obtain ⟨name, hname⟩ := host_of_readAuthority ha
  have hinfo := question_not_mem_readUserinfo ((splitAtLast? '@' cs).getD ([], cs)).1
  rw [← (of_readAuthority ha).2] at hinfo
  refine ⟨?_, hinfo.1, hinfo.2, fun h hh => ?_, fun hmem => ?_⟩
  · rcases hweb with rfl | rfl
    · exact show '?' ∉ "http".toList by decide
    · exact show '?' ∉ "https".toList by decide
  · exact Option.mem_some_iff.mp hh ▸ question_not_mem_text_of_read hname
  · rw [locate, assemble, toList_text_pathOf] at hmem
    obtain ⟨part, hpart, hmem⟩ := List.mem_flatMap.mp hmem
    rcases List.mem_cons.mp hmem with hslash | hmem
    · exact absurd hslash (by decide)
    · exact question_not_mem_resolveFrom (List.forall_mem_nil _) part hpart hmem

end Rendezvous.Url
