import Rendezvous.Proofs.Text.Runs
import Rendezvous.Proofs.Text.Trimming
import Rendezvous.Url.Parse

/-! Where a text is cut when it is read as a URL. Each cut is settled by what stands on either side
of it, and stays where it is when more text follows. -/

namespace Rendezvous.Url

variable {s t front : List Char} {behind : Option (List Char)} {x : Char}

/-- A text that is put behind another one, and does not hold a character, leaves the place of that
character in the other one as it is. -/
theorem exists_of_append_eq {u : List Char} (hu : x ∉ u) (h : s ++ u = front ++ x :: t) :
    ∃ t', t = t' ++ u ∧ s = front ++ x :: t' := by
  rcases List.append_eq_append_iff.mp h with ⟨a, -, rfl⟩ | ⟨a, rfl, ha⟩
  · simp at hu
  · cases a with
    | nil =>
      obtain rfl : x :: t = u := ha
      simp at hu
    | cons c a =>
      obtain ⟨rfl, rfl⟩ := List.cons.inj ha
      exact ⟨a, rfl, rfl⟩

/-! ### What surrounds a URL -/

/-- What a text is read as when more text follows it: what surrounds a URL goes at its start
only. -/
def cleanFront (cs : List Char) : List Char :=
  (cs.dropWhile fun c => c.toNat ≤ 0x20).filter fun c => !(c == '\t' || c == '\n' || c == '\r')

theorem mem_of_mem_cleanFront (h : x ∈ cleanFront s) : x ∈ s :=
  (List.dropWhile_sublist _).subset (List.mem_filter.mp h).1

def Sheer (cs : List Char) : Prop := ∀ c ∈ cs, 0x20 < c.toNat

instance (cs : List Char) : Decidable (Sheer cs) := List.decidableBAll _ cs

theorem Sheer.append (hs : Sheer s) (ht : Sheer t) : Sheer (s ++ t) := by
  intro c hc
  rcases List.mem_append.mp hc with hc | hc
  · exact hs c hc
  · exact ht c hc

theorem Sheer.dropWhile (h : Sheer t) : t.dropWhile (fun c => c.toNat ≤ 0x20) = t :=
  dropWhile_of_stop fun c hc => by simpa using h c (List.mem_of_mem_head? hc)

theorem Sheer.filter (h : Sheer t) :
    t.filter (fun c => !(c == '\t' || c == '\n' || c == '\r')) = t := by
  rw [List.filter_eq_self]
  intro c hc
  have hsheer := h c hc
  simp only [Bool.not_eq_true', Bool.or_eq_false_iff, beq_eq_false_iff_ne]
  refine ⟨⟨?_, ?_⟩, ?_⟩ <;> rintro rfl <;> exact absurd hsheer (by decide)

theorem cleanFront_append (h : Sheer t) : cleanFront (s ++ t) = cleanFront s ++ t := by
  unfold cleanFront
  rw [List.dropWhile_append]
  split
  · rename_i hempty
    rw [List.isEmpty_iff.mp hempty, h.dropWhile, h.filter]
    rfl
  · rw [List.filter_append, h.filter]

theorem cleanFront_eq_self (h : Sheer s) : cleanFront s = s := by
  unfold cleanFront
  rw [h.dropWhile, h.filter]

/-- Nothing goes at the end of a text whose last character does not. -/
theorem clean_eq_cleanFront (h : ∀ c ∈ s.getLast?, 0x20 < c.toNat) : clean s = cleanFront s := by
  have hend : ((s.dropWhile fun c => c.toNat ≤ 0x20).reverse.dropWhile
      fun c => c.toNat ≤ 0x20) = (s.dropWhile fun c => c.toNat ≤ 0x20).reverse := by
    obtain ⟨gone, hgone⟩ := List.dropWhile_suffix (l := s) fun c => decide (c.toNat ≤ 0x20)
    refine dropWhile_of_stop fun c hc => ?_
    rw [List.head?_reverse] at hc
    have hlast : s.getLast? = some c := by
      rw [← hgone, List.getLast?_append, Option.mem_def.mp hc]
      rfl
    simpa using h c hlast
  rw [clean, hend, List.reverse_reverse]
  rfl

theorem clean_append (h : Sheer t) (hne : t ≠ []) : clean (s ++ t) = cleanFront s ++ t := by
  rw [clean_eq_cleanFront, cleanFront_append h]
  intro c hc
  rw [List.getLast?_append, List.getLast?_eq_some_getLast hne] at hc
  obtain rfl : t.getLast hne = c := by simpa using hc
  exact h _ (List.getLast_mem hne)

/-- Text that is put behind another may keep what would go at the end of that one. -/
theorem exists_clean_append (s t : List Char) : ∃ t', clean (s ++ t) = clean s ++ t' ∧
    ∀ c ∈ t', c ∈ t ∨ c.toNat ≤ 0x20 := by
  let outer (c : Char) : Bool := c.toNat ≤ 0x20
  let inner (c : Char) : Bool := !(c == '\t' || c == '\n' || c == '\r')
  have hclean : ∀ cs, clean cs = (Text.dropEndWhile outer (cs.dropWhile outer)).filter inner :=
    fun _ => rfl
  obtain ⟨⟨gone, hgone, houter⟩, -⟩ :=
    Text.dropEndWhile_eq_iff.mp (rfl : Text.dropEndWhile outer (s.dropWhile outer) = _)
  rw [hclean, hclean, List.dropWhile_append]
  split
  · rename_i hempty
    rw [List.isEmpty_iff.mp hempty]
    refine ⟨_, rfl, fun c hc => .inl ?_⟩
    exact (List.dropWhile_sublist _).subset
      (Text.mem_of_mem_dropEndWhile (List.mem_filter.mp hc).1)
  · rw [Text.dropEndWhile_append]
    split
    · exact ⟨[], (List.append_nil _).symm, nofun⟩
    · refine ⟨(gone ++ Text.dropEndWhile outer t).filter inner, ?_, fun c hc => ?_⟩
      · rw [← List.filter_append, ← List.append_assoc, ← hgone]
      · rcases List.mem_append.mp (List.mem_filter.mp hc).1 with hc | hc
        · exact .inr (of_decide_eq_true (houter c hc))
        · exact .inl (Text.mem_of_mem_dropEndWhile hc)

/-! ### The cuts at a single character -/

/-- A text that begins as a URL does, up to its first colon. -/
structure NamesScheme (name : List Char) : Prop where
  letter : ∃ c ∈ name.head?, c.isAlpha = true
  legible : ∀ c ∈ name, isSchemeChar c = true

theorem splitScheme?_eq_some_iff {scheme : String} {rest : List Char} :
    splitScheme? s = some (scheme, rest) ↔
      ∃ name, s = name ++ ':' :: rest ∧ NamesScheme name ∧
        scheme = String.ofList (name.map Char.toLower) := by
  constructor
  · intro h
    unfold splitScheme? at h
    split at h
    · rename_i c cs
      split at h
      · rename_i hletter
        split at h
        · rename_i rest' hdrop
          obtain ⟨rfl, rfl⟩ : _ = scheme ∧ rest' = rest := by simpa using h
          refine ⟨_, ?_, ⟨⟨c, ?_, hletter⟩, fun d => of_mem_takeWhile⟩, rfl⟩
          · rw [← hdrop, List.takeWhile_append_dropWhile]
          · have hc : isSchemeChar c = true := by simp [isSchemeChar, Char.isAlphanum, hletter]
            rw [List.takeWhile_cons_of_pos hc, List.head?_cons]
            rfl
        · cases h
      · cases h
    · cases h
  · rintro ⟨name, rfl, ⟨⟨c, hc, hletter⟩, hlegible⟩, rfl⟩
    obtain ⟨name, rfl⟩ : ∃ cs, name = c :: cs := by
      cases name with
      | nil => cases hc
      | cons d cs =>
        obtain rfl : d = c := by simpa using hc
        exact ⟨cs, rfl⟩
    have hstop : ∀ d ∈ (':' :: rest).head?, isSchemeChar d = false := by
      rintro d ⟨⟩
      decide
    have htake := takeWhile_append_stop hlegible hstop
    have hdrop := dropWhile_append_stop hlegible hstop
    rw [List.cons_append] at htake hdrop ⊢
    simp only [splitScheme?, hletter, if_true, htake, hdrop]

theorem splitAtChar_eq_iff :
    splitAtChar x s = (front, behind) ↔
      x ∉ front ∧ s = front ++ behind.elim [] (x :: ·) := by
  constructor
  · intro h
    unfold splitAtChar at h
    split at h
    · rename_i hdrop
      obtain ⟨rfl, rfl⟩ : s = front ∧ none = behind := by simpa using h
      refine ⟨fun hx => ?_, by simp⟩
      rw [← List.takeWhile_append_dropWhile (p := (· != x)) (l := s), hdrop, List.append_nil] at hx
      simpa using of_mem_takeWhile hx
    · rename_i c rest hdrop
      obtain ⟨rfl, rfl⟩ : _ = front ∧ some rest = behind := by simpa using h
      have hc : c = x := by
        have hstop := stops_dropWhile (p := (· != x)) (s := s) (c := c) (by simp [hdrop])
        simpa using hstop
      refine ⟨fun hx => by simpa using of_mem_takeWhile hx, ?_⟩
      rw [Option.elim_some, ← hc, ← hdrop, hc, List.takeWhile_append_dropWhile]
  · rintro ⟨hx, rfl⟩
    have hfront : ∀ c ∈ front, (c != x) = true := by
      intro c hc
      simpa using fun heq : c = x => hx (heq ▸ hc)
    cases behind with
    | none =>
      have hdrop := dropWhile_append_stop (t := []) hfront nofun
      rw [List.append_nil] at hdrop
      simp [splitAtChar, hdrop]
    | some rest =>
      have hstop : ∀ c ∈ (x :: rest).head?, (c != x) = false := by
        rintro c ⟨⟩
        simp
      simp only [splitAtChar, Option.elim_some, dropWhile_append_stop hfront hstop,
        takeWhile_append_stop hfront hstop]

end Rendezvous.Url
