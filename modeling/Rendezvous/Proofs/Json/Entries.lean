import Rendezvous.Proofs.Json.Rewording

/-! What the fields of a record hold after it is read from an object, field by field. -/

namespace Rendezvous.Json

variable {α β : Type} {sh : Shape α} {seen : List String} {record out : α} {name : String}
  {m m' : Member} {members : List Member} {f : Field α}

def Once (members : List Member) (name : String) : Prop :=
  members.Pairwise fun m m' => ¬(m.Named name ∧ m'.Named name)

theorem Once.unique (h : Once members name) (hm : m ∈ members) (hm' : m' ∈ members)
    (hname : m.Named name) (hname' : m'.Named name) : m = m' := by
  have hsymm : Std.Symm fun m m' : Member => ¬(m.Named name ∧ m'.Named name) :=
    ⟨fun _ _ h h' => h h'.symm⟩
  apply Classical.byContradiction
  intro hne
  exact h.forall hm hm' hne ⟨hname, hname'⟩

theorem Field.Puts.keeps {γ : Type} {put : α → γ → α} {M : List Char → γ → Prop} {get : α → β}
    (puts : f.Puts put M) (h : ∀ r b, get (put r b) = get r) {r r' : α} {v : List Char}
    (reads : f.Reads r r' v) : get r' = get r := by
  obtain ⟨-, b, -, rfl⟩ := puts.reads_iff.mp reads
  exact h r b

namespace Filled

/-- Members fill a record if their names can be decoded, no field has two of them, and each can be
read as the field of its name. -/
theorem exists_filled (hdistinct : (sh.fields.map Field.name).Nodup)
    (named : ∀ m ∈ members, ∃ name, m.Named name)
    (once : ∀ f ∈ sh.fields, Once members f.name)
    (readable : ∀ f ∈ sh.fields, ∀ m ∈ members, m.Named f.name →
      ∀ record, ∃ record', f.Reads record record' m.value)
    (fresh : ∀ m ∈ members, ∀ name ∈ seen, ¬m.Named name) (record : α) :
    ∃ out, Filled sh seen record members out := by
  induction members generalizing seen record with
  | nil => exact ⟨record, .done⟩
  | cons m ms ih =>
    simp only [List.forall_mem_cons] at named readable fresh
    obtain ⟨name, hname⟩ := named.1
    have hmore : ∀ {seen : List String}, (∀ m ∈ ms, ∀ name ∈ seen, ¬m.Named name) →
        ∀ record, ∃ out, Filled sh seen record ms out :=
      ih named.2 (fun f hf => (once f hf).of_cons) fun f hf => (readable f hf).2
    by_cases hknown : sh.Knows name
    · obtain ⟨f, hf, rfl, found⟩ := hknown.find? hdistinct
      obtain ⟨record', reads⟩ := (readable f hf).1 hname record
      have hlater : ∀ m' ∈ ms, ∀ name ∈ f.name :: seen, ¬m'.Named name := by
        intro m' hm'
        refine List.forall_mem_cons.mpr ⟨fun hname' => ?_, fresh.2 m' hm'⟩
        exact List.rel_of_pairwise_cons (once f hf) hm' ⟨hname, hname'⟩
      obtain ⟨out, hrest⟩ := hmore hlater record'
      have hfresh : f.name ∉ seen := fun hseen => fresh.1 f.name hseen hname
      exact ⟨out, (cons_known_iff hname found).mpr ⟨hfresh, record', reads, hrest⟩⟩
    · obtain ⟨out, hrest⟩ := hmore fresh.2 record
      exact ⟨out, (cons_unknown_iff hname hknown).mpr hrest⟩

section Entry

variable {put : α → Option β → α} {M : List Char → β → Prop}

/-- A field that may be missing holds what its member means, if that is not `null`. -/
theorem entry_iff (get : α → Option β) (hdistinct : (sh.fields.map Field.name).Nodup)
    (hf : f ∈ sh.fields) (puts : f.Puts put (Optionally M)) (hput : ∀ r b?, get (put r b?) = b?)
    (hother : ∀ g ∈ sh.fields, g.name ≠ f.name → ∀ r r' v, g.Reads r r' v → get r' = get r)
    (hempty : get sh.empty = none) (hunique : ∀ {v b b'}, M v b → M v b' → b = b')
    (filled : Filled sh [] sh.empty members out) {b : β} :
    get out = some b ↔ ∃ m ∈ members, m.Named f.name ∧ m.value ≠ nullText ∧ M m.value b := by
  have hsets : ∀ m ∈ members, m.Named f.name → Optionally M m.value (get out) := by
    intro m hm hname
    obtain ⟨before, after, reads, hget⟩ :=
      filled.sets (Shape.find?_eq_some hdistinct hf) hother hm hname
    obtain ⟨-, b?, hb, rfl⟩ := puts.reads_iff.mp reads
    rwa [hget, hput]
  constructor
  · intro hsome
    by_cases hnone : ∀ m ∈ members, ¬m.Named f.name
    · have hkept := filled.keeps hother (.inr hnone)
      rw [hsome, hempty] at hkept
      cases hkept
    · simp only [not_forall, not_not] at hnone
      obtain ⟨m, hm, hname⟩ := hnone
      have hmeans := hsets m hm hname
      rw [hsome] at hmeans
      cases hmeans with
      | some hne means => exact ⟨m, hm, hname, hne, means⟩
  · rintro ⟨m, hm, hname, hne, means⟩
    have hmeans := hsets m hm hname
    generalize get out = b? at hmeans
    cases hmeans with
    | null hnull => exact absurd hnull hne
    | some _ means' => rw [hunique means means']

end Entry

end Filled

end Rendezvous.Json
