import Mathlib.Data.List.Nodup
import Mathlib.Data.List.Pairwise
import Rendezvous.Proofs.Json.Filling

/-! Objects that differ in their wording only: in the order of their members, in how names and texts
are spelt, and in members that say nothing. -/

namespace Rendezvous.Json

variable {α β γ : Type}

/-- The values are one and the same, or strings that spell the same text. -/
inductive SaysSame (v v' : List Char) : Prop
  | same (same : v = v')
  | spelt {t : String} (spelt : SpellsText v t) (respelt : SpellsText v' t)

theorem SaysSame.symm {v v' : List Char} (h : SaysSame v v') : SaysSame v' v := by
  cases h with
  | same same => exact .same same.symm
  | spelt spelt respelt => exact .spelt respelt spelt

/-! ### Fields that can be read in any order -/

/-- It makes no difference which of the two fields is read first. -/
def Field.Commutes (f g : Field α) : Prop :=
  ∀ ⦃r r' : α⦄ ⦃v w : List Char⦄,
    (∃ r₁, f.Reads r r₁ v ∧ g.Reads r₁ r' w) ↔ ∃ r₁, g.Reads r r₁ w ∧ f.Reads r₁ r' v

instance : Std.Symm (Field.Commutes (α := α)) where
  symm _ _ h r r' v w := (@h r r' w v).symm

/-- Strings that spell the same text mean the same. -/
def Respells (M : List Char → β → Prop) : Prop :=
  ∀ ⦃v v' : List Char⦄ ⦃b : β⦄, SaysSame v v' → M v b → M v' b

theorem respells_text : Respells SpellsText := by
  intro v v' t h ht
  cases h with
  | same same => exact same ▸ ht
  | spelt spelt respelt =>
    obtain rfl := spelt.unique ht
    exact respelt

theorem Respells.optional {M : List Char → β → Prop} (h : Respells M) :
    Respells (Optionally M) := by
  intro v v' b? hsame hb
  cases hb with
  | null hnull =>
    cases hsame with
    | same same => exact .null (same ▸ hnull)
    | spelt spelt _ => exact absurd hnull spelt.ne_null
  | some hne means =>
    refine .some ?_ (h hsame means)
    cases hsame with
    | same same => exact same ▸ hne
    | spelt _ respelt => exact respelt.ne_null

namespace Field.Puts

variable {f g : Field α} {put : α → β → α} {put' : α → γ → α} {M : List Char → β → Prop}
  {N : List Char → γ → Prop}

theorem commutes (hf : f.Puts put M) (hg : g.Puts put' N)
    (h : ∀ r b c, put' (put r b) c = put (put' r c) b) : f.Commutes g := by
  intro r r' v w
  simp only [hf.reads_iff, hg.reads_iff]
  constructor
  · rintro ⟨_, ⟨hv, b, hb, rfl⟩, hw, c, hc, rfl⟩
    exact ⟨_, ⟨hw, c, hc, rfl⟩, hv, b, hb, h r b c⟩
  · rintro ⟨_, ⟨hw, c, hc, rfl⟩, hv, b, hb, rfl⟩
    exact ⟨_, ⟨hv, b, hb, rfl⟩, hw, c, hc, (h r b c).symm⟩

theorem reads_of_saysSame (hf : f.Puts put M) (hM : Respells M) {r r' : α} {v v' : List Char}
    (hsame : SaysSame v v') (h : f.Reads r r' v) : f.Reads r r' v' := by
  obtain ⟨hv, b, hb, rfl⟩ := hf.reads_iff.mp h
  refine hf.reads_iff.mpr ⟨?_, b, hM hsame hb, rfl⟩
  cases hsame with
  | same same => exact same ▸ hv
  | spelt _ respelt => exact respelt.value

end Field.Puts

/-- Where nothing is put, a field that may be missing leaves the record as it is. -/
theorem optionalField_null_iff {read : Reader β} {M : List Char → β → Prop} (h : Means read M)
    {name : String} {put : α → Option β → α} {r r' : α} :
    (optionalField name read put).Reads r r' nullText ↔ r' = put r none := by
  rw [(optionalField_puts h name put).reads_iff]
  constructor
  · rintro ⟨-, b?, hb, rfl⟩
    cases hb with
    | null _ => rfl
    | some hne _ => exact absurd rfl hne
  · rintro rfl
    exact ⟨.null, none, .null rfl, rfl⟩

namespace Shape

variable {sh : Shape α} {name : String} {seen : List String} {record out : α} {m : Member}
  {ms ms' : List Member}

/-- Every field is read from a text, or from nothing where it may be missing, and apart from the
others. -/
structure Loose (sh : Shape α) : Prop where
  steady : ∀ f ∈ sh.fields, f.Steady
  distinct : (sh.fields.map Field.name).Nodup
  commutes : sh.fields.Pairwise Field.Commutes
  respells : ∀ f ∈ sh.fields, ∀ ⦃r r' : α⦄ ⦃v v' : List Char⦄, SaysSame v v' →
    f.Reads r r' v → f.Reads r r' v'
  null : ∀ f ∈ sh.fields, f.needed = false → ∀ {r'}, f.Reads sh.empty r' nullText ↔ r' = sh.empty

/-- The members have one name, and say the same if the name is that of a field. -/
def Alike (sh : Shape α) (m m' : Member) : Prop :=
  ∃ name, m.Named name ∧ m'.Named name ∧ (sh.Knows name → SaysSame m.value m'.value)

theorem Alike.symm {m m' : Member} (h : sh.Alike m m') : sh.Alike m' m := by
  obtain ⟨name, hm, hm', hsame⟩ := h
  exact ⟨name, hm', hm, fun hknown => (hsame hknown).symm⟩

/-- The members of two objects that differ in their wording only. A member can be added if no field
has its name, or if it is `null` for a field that may be missing and has no other member. -/
inductive Rewords (sh : Shape α) : List Member → List Member → Prop
  | reordered {ms ms' : List Member} (perm : ms.Perm ms') : Rewords sh ms ms'
  | respelt {ms ms' : List Member} (alike : List.Forall₂ sh.Alike ms ms') : Rewords sh ms ms'
  | unknown {before after : List Member} {m : Member} {name : String} (named : m.Named name)
      (foreign : ¬sh.Knows name) : Rewords sh (before ++ after) (before ++ m :: after)
  | null {before after : List Member} {m : Member} {f : Field α} (known : f ∈ sh.fields)
      (optional : f.needed = false) (named : m.Named f.name) (null : m.value = nullText)
      (alone : ∀ n ∈ before ++ after, ¬n.Named f.name) :
      Rewords sh (before ++ after) (before ++ m :: after)
  | symm {ms ms' : List Member} (h : Rewords sh ms ms') : Rewords sh ms' ms
  | trans {ms ms' ms'' : List Member} (h : Rewords sh ms ms') (h' : Rewords sh ms' ms'') :
      Rewords sh ms ms''

theorem find?_eq_none_iff : sh.fields.find? (fun f => f.name == name) = none ↔ ¬sh.Knows name := by
  simp [List.find?_eq_none, Knows]

theorem find?_eq_some (hdistinct : (sh.fields.map Field.name).Nodup) {f : Field α}
    (hf : f ∈ sh.fields) : sh.fields.find? (fun g => g.name == f.name) = some f := by
  have hsome : (sh.fields.find? fun g => g.name == f.name).isSome = true :=
    List.find?_isSome.mpr ⟨f, hf, beq_self_eq_true f.name⟩
  obtain ⟨g, hg⟩ := Option.isSome_iff_exists.mp hsome
  have hname : g.name = f.name := by simpa using List.find?_some hg
  rw [hg, List.inj_on_of_nodup_map hdistinct (List.mem_of_find?_eq_some hg) hf hname]

theorem Knows.find? (hdistinct : (sh.fields.map Field.name).Nodup) (h : sh.Knows name) :
    ∃ f ∈ sh.fields, f.name = name ∧ sh.fields.find? (fun g => g.name == name) = some f := by
  obtain ⟨f, hf, rfl⟩ := h
  exact ⟨f, hf, rfl, find?_eq_some hdistinct hf⟩

end Shape

namespace Filled

open Shape

variable {sh : Shape α} {name : String} {seen seen' : List String} {record out : α} {m : Member}
  {ms ms' : List Member}

/-- A name that is no longer said to be seen spoils nothing. -/
theorem mono (h : Filled sh seen record ms out) (hseen : ∀ name ∈ seen', name ∈ seen) :
    Filled sh seen' record ms out := by
  induction h generalizing seen' with
  | done => exact .done
  | @known _ _ _ _ m ms _ f spells named fresh reads _ ih =>
    refine .known spells named (fun hf => fresh (hseen _ hf)) reads (ih ?_)
    intro name hname
    rcases List.mem_cons.mp hname with rfl | hname
    · exact List.mem_cons_self
    · exact List.mem_cons_of_mem _ (hseen _ hname)
  | unknown spells foreign _ ih => exact .unknown spells foreign (ih hseen)

/-- A name that no member has may be said to be seen. -/
theorem see (h : Filled sh seen record ms out) (hnone : ∀ m ∈ ms, ¬m.Named name) :
    Filled sh (name :: seen) record ms out := by
  induction h with
  | done => exact .done
  | @known seen _ _ _ m ms spelt f spells named fresh reads _ ih =>
    have hrest := ih fun n hn => hnone n (List.mem_cons_of_mem m hn)
    have hname : f.name = String.ofList spelt := by simpa using List.find?_some named
    have hne : f.name ≠ name := by
      rintro rfl
      exact hnone m List.mem_cons_self ((named_iff spells).mpr hname)
    refine .known spells named (by simpa [hne] using fresh) reads (hrest.mono ?_)
    simp +contextual [or_left_comm]
  | @unknown _ _ _ m ms _ spells foreign _ ih =>
    exact .unknown spells foreign (ih fun n hn => hnone n (List.mem_cons_of_mem m hn))

/-- Every member has a name that can be decoded. -/
theorem exists_named (h : Filled sh seen record ms out) : ∀ m ∈ ms, ∃ name, m.Named name := by
  induction h with
  | done => exact nofun
  | @known _ _ _ _ _ _ name _ spells _ _ _ _ ih =>
    exact List.forall_mem_cons.mpr
      ⟨⟨String.ofList name, (named_iff spells).mpr rfl⟩, ih⟩
  | @unknown _ _ _ _ _ name spells _ _ ih =>
    exact List.forall_mem_cons.mpr
      ⟨⟨String.ofList name, (named_iff spells).mpr rfl⟩, ih⟩

theorem cons_unknown_iff (named : m.Named name) (foreign : ¬sh.Knows name) :
    Filled sh seen record (m :: ms) out ↔ Filled sh seen record ms out := by
  have hnone := find?_eq_none_iff.mpr foreign
  constructor
  · intro h
    cases h with
    | @known _ _ _ _ _ _ spelt f spells found fresh reads rest =>
      rw [← (named_iff spells).mp named, hnone] at found
      cases found
    | unknown _ _ rest => exact rest
  · intro h
    refine .unknown named ?_ h
    rwa [String.ofList_toList]

theorem cons_known_iff {f : Field α} (named : m.Named name)
    (found : sh.fields.find? (fun f => f.name == name) = some f) :
    Filled sh seen record (m :: ms) out ↔ f.name ∉ seen ∧
      ∃ record', f.Reads record record' m.value ∧ Filled sh (f.name :: seen) record' ms out := by
  constructor
  · intro h
    cases h with
    | known spells found' fresh reads rest =>
      rw [← (named_iff spells).mp named, found] at found'
      cases found'
      exact ⟨fresh, _, reads, rest⟩
    | unknown spells none _ =>
      rw [← (named_iff spells).mp named, found] at none
      cases none
  · rintro ⟨fresh, record', reads, rest⟩
    refine .known named ?_ fresh reads rest
    rwa [String.ofList_toList]

section Loose

variable (hsh : sh.Loose)

include hsh

theorem perm_of_filled (hperm : ms.Perm ms') (h : Filled sh seen record ms out) :
    Filled sh seen record ms' out := by
  induction hperm generalizing seen record with
  | nil => exact h
  | cons m _ ih =>
    cases h with
    | known spells named fresh reads rest => exact .known spells named fresh reads (ih rest)
    | unknown spells foreign rest => exact .unknown spells foreign (ih rest)
  | swap m n l =>
    -- A member of an unknown name is passed over wherever it stands.
    cases h with
    | unknown spells foreign rest =>
      cases rest with
      | unknown spells' foreign' rest =>
        exact .unknown spells' foreign' (.unknown spells foreign rest)
      | known spells' named' fresh' reads' rest =>
        exact .known spells' named' fresh' reads' (.unknown spells foreign rest)
    | @known _ _ _ _ _ _ _ f spells named fresh reads rest =>
      cases rest with
      | unknown spells' foreign' rest =>
        exact .unknown spells' foreign' (.known spells named fresh reads rest)
      | @known _ _ _ _ _ _ _ g spells' named' fresh' reads' rest =>
        rw [List.mem_cons, not_or] at fresh'
        have hne : f ≠ g := by
          rintro rfl
          exact fresh'.1 rfl
        have hcommutes : f.Commutes g := hsh.commutes.forall (List.mem_of_find?_eq_some named)
          (List.mem_of_find?_eq_some named') hne
        obtain ⟨record', hg, hf⟩ := hcommutes.mp ⟨_, reads, reads'⟩
        refine .known spells' named' fresh'.2 hg (.known spells named ?_ hf (rest.mono ?_))
        · simpa [Ne.symm fresh'.1] using fresh
        · simp +contextual [or_left_comm]
  | trans _ _ ih ih' => exact ih' (ih h)

theorem respelt (halike : List.Forall₂ sh.Alike ms ms') (h : Filled sh seen record ms out) :
    Filled sh seen record ms' out := by
  induction halike generalizing seen record with
  | nil => exact h
  | @cons m m' _ _ hm _ ih =>
    obtain ⟨name, named, named', hsame⟩ := hm
    by_cases hknown : sh.Knows name
    · obtain ⟨f, hf, rfl, found⟩ := hknown.find? hsh.distinct
      obtain ⟨fresh, record', reads, rest⟩ := (cons_known_iff named found).mp h
      have reads' := hsh.respells f hf (hsame hknown) reads
      exact (cons_known_iff named' found).mpr ⟨fresh, record', reads', ih rest⟩
    · have rest := (cons_unknown_iff named hknown).mp h
      exact (cons_unknown_iff named' hknown).mpr (ih rest)

/-- A `null` for a field without a member says nothing. -/
theorem cons_null_iff {f : Field α} (hf : f ∈ sh.fields) (optional : f.needed = false)
    (named : m.Named f.name) (hnull : m.value = nullText) (alone : ∀ n ∈ ms, ¬n.Named f.name) :
    Filled sh [] sh.empty (m :: ms) out ↔ Filled sh [] sh.empty ms out := by
  rw [cons_known_iff named (find?_eq_some hsh.distinct hf), hnull]
  constructor
  · rintro ⟨-, record', reads, rest⟩
    obtain rfl := (hsh.null f hf optional).mp reads
    exact rest.mono nofun
  · intro h
    exact ⟨nofun, sh.empty, (hsh.null f hf optional).mpr rfl, h.see alone⟩

end Loose

end Filled

namespace Shape

variable {sh : Shape α} {out : α} {ms ms' : List Member}

def Accepts (sh : Shape α) (ms : List Member) (out : α) : Prop :=
  Filled sh [] sh.empty ms out ∧ sh.Complete ms

theorem complete_cons_iff {m : Member}
    (h : ∀ f ∈ sh.fields, f.needed = true → ¬m.Named f.name) :
    sh.Complete (m :: ms) ↔ sh.Complete ms := by
  refine forall_congr' fun f => forall_congr' fun hf => imp_congr_right fun hneeded => ?_
  simp [h f hf hneeded]

theorem Complete.perm (hperm : ms.Perm ms') (h : sh.Complete ms) : sh.Complete ms' := by
  intro f hf hneeded
  obtain ⟨m, hm, hnamed⟩ := h f hf hneeded
  exact ⟨m, hperm.mem_iff.mp hm, hnamed⟩

theorem exists_alike {m : Member} (halike : List.Forall₂ sh.Alike ms ms') (hm : m ∈ ms) :
    ∃ m' ∈ ms', sh.Alike m m' := by
  induction halike with
  | nil => exact absurd hm List.not_mem_nil
  | @cons n n' ns ns' hn _ ih =>
    rcases List.mem_cons.mp hm with rfl | hm
    · exact ⟨n', List.mem_cons_self, hn⟩
    · obtain ⟨m', hm', halike⟩ := ih hm
      exact ⟨m', List.mem_cons_of_mem n' hm', halike⟩

theorem Complete.respelt (halike : List.Forall₂ sh.Alike ms ms') (h : sh.Complete ms) :
    sh.Complete ms' := by
  intro f hf hneeded
  obtain ⟨m, hm, hnamed⟩ := h f hf hneeded
  obtain ⟨m', hm', name, named, named', -⟩ := exists_alike halike hm
  rw [hnamed.unique named]
  exact ⟨m', hm', named'⟩

theorem Accepts.perm (hsh : sh.Loose) (hperm : ms.Perm ms') (h : sh.Accepts ms out) :
    sh.Accepts ms' out := ⟨h.1.perm_of_filled hsh hperm, h.2.perm hperm⟩

theorem Accepts.respelt (hsh : sh.Loose) (halike : List.Forall₂ sh.Alike ms ms')
    (h : sh.Accepts ms out) : sh.Accepts ms' out := ⟨h.1.respelt hsh halike, h.2.respelt halike⟩

theorem accepts_middle_iff (hsh : sh.Loose) {before after : List Member} {m : Member} :
    sh.Accepts (before ++ m :: after) out ↔ sh.Accepts (m :: (before ++ after)) out :=
  ⟨.perm hsh List.perm_middle, .perm hsh List.perm_middle.symm⟩

/-- What is read of an object is settled by what its members say. -/
theorem Rewords.accepts_iff (hsh : sh.Loose) (h : sh.Rewords ms ms') :
    sh.Accepts ms out ↔ sh.Accepts ms' out := by
  induction h with
  | reordered perm => exact ⟨.perm hsh perm, .perm hsh perm.symm⟩
  | respelt alike =>
    have alike' := alike.flip.imp fun _ _ h => Alike.symm h
    exact ⟨.respelt hsh alike, .respelt hsh alike'⟩
  | @unknown before after m name named foreign =>
    have hnone : ∀ f ∈ sh.fields, f.needed = true → ¬m.Named f.name := by
      intro f hf _ hname
      exact foreign ⟨f, hf, hname.unique named⟩
    rw [accepts_middle_iff hsh, Accepts, Accepts, Filled.cons_unknown_iff named foreign,
      complete_cons_iff hnone]
  | @null before after m f known optional named null alone =>
    have hnone : ∀ g ∈ sh.fields, g.needed = true → ¬m.Named g.name := by
      intro g hg hneeded hname
      have hsame := List.inj_on_of_nodup_map hsh.distinct hg known (hname.unique named)
      rw [hsame, optional] at hneeded
      cases hneeded
    rw [accepts_middle_iff hsh, Accepts, Accepts,
      Filled.cons_null_iff hsh known optional named null alone, complete_cons_iff hnone]
  | symm _ ih => exact ih.symm
  | trans _ _ ih ih' => exact ih.trans ih'

theorem Rewords.readAll_iff (hsh : sh.Loose) (h : sh.Rewords ms ms') {text text' : String}
    (object : ObjectOf text ms) (object' : ObjectOf text' ms') :
    readAll sh.read text = .ok out ↔ readAll sh.read text' = .ok out :=
  calc readAll sh.read text = .ok out
    _ ↔ sh.Accepts ms out := readAll_object_iff hsh.steady object
    _ ↔ sh.Accepts ms' out := h.accepts_iff hsh
    _ ↔ readAll sh.read text' = .ok out := (readAll_object_iff hsh.steady object').symm

/-- A member whose name cannot be decoded spoils the object, whatever its value is. -/
theorem readAll_ne_ok_of_nameless (hsteady : ∀ f ∈ sh.fields, f.Steady) {text : String}
    (object : ObjectOf text ms) {m : Member} (hm : m ∈ ms) (hname : ∀ name, ¬m.Named name) :
    readAll sh.read text ≠ .ok out := by
  intro h
  have hfilled := ((readAll_object_iff hsteady object).mp h).1
  obtain ⟨name, hnamed⟩ := hfilled.exists_named m hm
  exact hname name hnamed

end Shape

/-- A member whose name is one half of a character only. -/
def nameless : Member := ⟨[], ['\\', 'u', 'd', '8', '0', '0'], [], ⟨[], ['1'], []⟩⟩

theorem nameless_sound : nameless.Sound where
  spaced := ⟨spaces_nil, spaces_nil, spaces_nil, spaces_nil⟩
  key := .code (by decide) .nil
  value := by
    have hone : Whole ['1'] :=
      .digits (by decide) (by decide) fun _ hd => absurd hd List.not_mem_nil
    exact .number (.mk hone .none .none)

theorem not_named_nameless (name : String) : ¬nameless.Named name := by
  intro h
  have hkey : Spells ['\\', 'u', 'd', '8', '0', '0'] name.toList := h
  generalize name.toList = t at hkey
  cases hkey with
  | char _ escape _ _ => exact absurd rfl escape
  | short letter _ => exact absurd letter (by decide)
  | code _ _ high _ => exact absurd high (by decide)

end Rendezvous.Json
