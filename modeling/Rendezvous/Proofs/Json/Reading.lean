import Rendezvous.Agent.Wire
import Rendezvous.Proofs.Json.Scanning
import Rendezvous.Proofs.Json.Uniqueness

/-! What readers take is white space and one value. A value kept as it is written is kept whole. -/

namespace Rendezvous.Json

variable {α β : Type} {cs rest : List Char}

/-- Whatever the reader reads is one value. -/
def TakesValues (read : Reader α) : Prop :=
  ∀ {cs a rest}, read cs = .ok (a, rest) → TakesValue cs rest

@[simp] theorem wrongType_ne_ok (wanted : String) (cs : List Char) (a : α) :
    wrongType wanted cs ≠ .ok a := by
  unfold wrongType
  repeat' split
  all_goals simp [bind_eq_ok_iff]

/-- A value that begins behind white space is the very text that is read. -/
theorem eq_nil_of_skipSpace {s v : List Char} (hs : Spaces s) (hcs : skipSpace cs = s ++ v) :
    s = [] := by
  cases s with
  | nil => rfl
  | cons c s =>
    have hspace : isSpace c = true := hs c (by simp)
    have hhead := List.head?_dropWhile_not isSpace cs
    rw [show List.dropWhile isSpace cs = c :: (s ++ v) from hcs] at hhead
    simp [hspace] at hhead

theorem skipSpace_append {s v : List Char} (hs : Spaces s) (hv : Value v) :
    skipSpace (s ++ (v ++ rest)) = v ++ rest := by
  obtain ⟨c, r, rfl, hc⟩ := visible_of_value hv
  rw [skipSpace, List.dropWhile_append_of_pos hs]
  simp [hc]

theorem value_of_readRaw {t : String} (h : readRaw cs = .ok (t, rest)) :
    ∃ s v, Spaces s ∧ Value v ∧ t = String.ofList v ∧ cs = s ++ (v ++ rest) := by
  obtain ⟨s, hs, hspace⟩ := exists_spaces cs
  obtain ⟨rest', hskip, hok⟩ := bind_eq_ok_iff.mp h
  obtain ⟨s', v, hs', hv, hstart⟩ := takesValue_of_skipValue hskip
  cases hok
  have hnil := eq_nil_of_skipSpace hs' hstart
  subst hnil
  refine ⟨s, v, hs, hv, ?_, by rw [← hspace, hstart]; rfl⟩
  rw [hstart]
  simp

theorem takesValues_readRaw : TakesValues readRaw := by
  intro cs t rest h
  obtain ⟨s, v, hs, hv, -, hcs⟩ := value_of_readRaw h
  exact ⟨s, v, hs, hv, hcs⟩

theorem spells_of_readText {t : String} (h : readText cs = .ok (t, rest)) :
    ∃ s b name, Spaces s ∧ Spells b name ∧ t = String.ofList name ∧
      cs = s ++ '"' :: (b ++ '"' :: rest) := by
  obtain ⟨s, hs, hspace⟩ := exists_spaces cs
  unfold readText at h
  split at h
  · simp at h
  · rename_i r hr
    obtain ⟨⟨name, rest'⟩, hread, hok⟩ := bind_eq_ok_iff.mp h
    cases hok
    obtain ⟨b, name', hb, hname, rfl⟩ := spells_of_readString hread
    exact ⟨s, b, name', hs, hb, by rw [hname]; rfl, by rw [← hspace, hr]⟩
  · simp at h

theorem takesValues_readText : TakesValues readText := by
  intro cs t rest h
  obtain ⟨s, b, name, hs, hb, -, hcs⟩ := spells_of_readText h
  exact ⟨s, _, hs, .string hb.stringBody, by rw [hcs]; simp⟩

/-- An optional value is `null` or what is read in its place. -/
theorem null_or_of_readOptional {read : Reader α} {a : Option α}
    (h : readOptional read cs = .ok (a, rest)) :
    (a = none ∧ ∃ s, Spaces s ∧ cs = s ++ ('n' :: 'u' :: 'l' :: 'l' :: rest)) ∨
      ∃ b, a = some b ∧ read (skipSpace cs) = .ok (b, rest) := by
  obtain ⟨s, hs, hspace⟩ := exists_spaces cs
  unfold readOptional at h
  split at h
  · rename_i r hr
    obtain ⟨rest', hword, hok⟩ := bind_eq_ok_iff.mp h
    cases hok
    exact .inl ⟨rfl, s, hs, by rw [← hspace, hr, skipWord_eq hword]; rfl⟩
  · obtain ⟨⟨b, rest'⟩, hread, hok⟩ := bind_eq_ok_iff.mp h
    cases hok
    exact .inr ⟨b, rfl, hread⟩

theorem takesValues_readOptional {read : Reader α} (hread : TakesValues read) :
    TakesValues (readOptional read) := by
  intro cs a rest h
  rcases null_or_of_readOptional h with ⟨-, s, hs, hcs⟩ | ⟨b, -, hb⟩
  · exact ⟨s, _, hs, .null, hcs⟩
  · obtain ⟨s, hs, hspace⟩ := exists_spaces cs
    obtain ⟨s', v, hs', hv, hrest⟩ := hread hb
    have hnil := eq_nil_of_skipSpace hs' hrest
    subst hnil
    exact ⟨s, v, hs, hv, by rw [← hspace, hrest]; rfl⟩

theorem takesValues_optionalField {read : Reader β} (hread : TakesValues read) (name : String)
    (put : α → Option β → α) (record : α) :
    TakesValues ((optionalField name read put).read record) := by
  intro cs a rest h
  obtain ⟨⟨b, rest'⟩, hb, hok⟩ := bind_eq_ok_iff.mp h
  cases hok
  exact takesValues_readOptional hread hb

end Rendezvous.Json
