import Rendezvous.Proofs.Json.Reading

/-! A record gets each of its fields from the value of the field's own member, and from no other
part of the text. -/

namespace Rendezvous.Json

variable {α β : Type} {cs rest : List Char}

/-- Reading the value `v` as the field takes one record to the other. -/
def Field.Reads (f : Field α) (record record' : α) (v : List Char) : Prop :=
  Value v ∧ ∃ s rest, Spaces s ∧ f.read record (s ++ (v ++ rest)) = .ok (record', rest)

/-- A field that may be missing gets nothing from `null`, and otherwise what is read of the
value. -/
theorem Field.Reads.optional {name : String} {read : Reader β} {put : α → Option β → α}
    {record record' : α} {v : List Char}
    (h : (optionalField name read put).Reads record record' v) :
    ∃ b?, record' = put record b? ∧
      ∀ b, b? = some b → ∃ rest, read (v ++ rest) = .ok (b, rest) := by
  obtain ⟨hv, s, rest, hs, h⟩ := h
  obtain ⟨⟨b?, rest'⟩, hread, hok⟩ := bind_eq_ok_iff.mp h
  cases hok
  refine ⟨b?, rfl, ?_⟩
  rintro b rfl
  rcases null_or_of_readOptional hread with ⟨hnone, -⟩ | ⟨b', hb', hvalue⟩
  · cases hnone
  · cases hb'
    rw [skipSpace_append hs hv] at hvalue
    exact ⟨rest, hvalue⟩

/-- Every field of the shape is read from one value. -/
def Shape.Regular (sh : Shape α) : Prop :=
  ∀ f ∈ sh.fields, ∀ record, TakesValues (f.read record)

/-- How members fill a record: each field is filled once at most, and members of other names are
passed over. -/
inductive Filled (sh : Shape α) : List String → α → List Member → α → Prop
  | done {seen : List String} {record : α} : Filled sh seen record [] record
  | known {seen : List String} {record record' out : α} {m : Member} {ms : List Member}
      {name : List Char} {f : Field α} (spells : Spells m.key name)
      (named : sh.fields.find? (fun f => f.name == String.ofList name) = some f)
      (fresh : f.name ∉ seen) (reads : f.Reads record record' m.value)
      (rest : Filled sh (f.name :: seen) record' ms out) : Filled sh seen record (m :: ms) out
  | unknown {seen : List String} {record out : α} {m : Member} {ms : List Member}
      {name : List Char} (spells : Spells m.key name)
      (foreign : sh.fields.find? (fun f => f.name == String.ofList name) = none)
      (rest : Filled sh seen record ms out) : Filled sh seen record (m :: ms) out

/-- How the values of a list fill the fields of a record in their order. -/
inductive FilledInOrder : α → List (Field α) → List Item → α → Prop
  | done {record : α} {fs : List (Field α)} : FilledInOrder record fs [] record
  | item {record record' out : α} {f : Field α} {fs : List (Field α)} {i : Item}
      {items : List Item} (reads : f.Reads record record' i.value)
      (rest : FilledInOrder record' fs items out) :
      FilledInOrder record (f :: fs) (i :: items) out

/-- The ways to write a record. -/
inductive Written (sh : Shape α) (out : α) (text : List Char) : Prop
  | object {members : List Member} (sound : ∀ m ∈ members, m.Sound)
      (written : ObjectText members text) (filled : Filled sh [] sh.empty members out)
  | list {items : List Item} (sound : ∀ i ∈ items, i.Sound) (written : ListText items text)
      (filled : FilledInOrder sh.empty sh.fields items out)

namespace Filled

variable {sh : Shape α} {seen : List String} {record out : α} {members : List Member}
  {name : String} {π : α → β}

/-- Where `π` depends on the field `name` only, it stays the same without a member of that name that
could still count. -/
theorem keeps (hother : ∀ f ∈ sh.fields, f.name ≠ name →
      ∀ record record' v, f.Reads record record' v → π record' = π record)
    (h : Filled sh seen record members out)
    (hnone : name ∈ seen ∨ ∀ m ∈ members, ¬Spells m.key name.toList) : π out = π record := by
  induction h with
  | done => rfl
  | @known seen record record' out m ms spelt f spells named fresh reads _ ih =>
    have hname : f.name = String.ofList spelt := by simpa using List.find?_some named
    have hf : f.name ≠ name := by
      rcases hnone with hseen | hnone
      · rintro rfl
        exact fresh hseen
      · intro heq
        refine hnone m (by simp) ?_
        rw [← heq, hname, String.toList_ofList]
        exact spells
    have hrest : name ∈ f.name :: seen ∨ ∀ n ∈ ms, ¬Spells n.key name.toList :=
      hnone.imp (by simp +contextual) fun h n hn => h n (by simp [hn])
    rw [ih hrest]
    exact hother f (List.mem_of_find?_eq_some named) hf _ _ _ reads
  | unknown spells foreign _ ih => exact ih (hnone.imp id fun h n hn => h n (by simp [hn]))

/-- A member of the field's name is the one from which the field is read. -/
theorem sets {f : Field α} (hf : sh.fields.find? (fun f => f.name == name) = some f)
    (hother : ∀ f ∈ sh.fields, f.name ≠ name →
      ∀ record record' v, f.Reads record record' v → π record' = π record)
    (h : Filled sh seen record members out) {m : Member} (hm : m ∈ members)
    (hs : Spells m.key name.toList) :
    ∃ before after, f.Reads before after m.value ∧ π out = π after := by
  have hname : f.name = name := by simpa using List.find?_some hf
  induction h with
  | done => simp at hm
  | @known seen record record' out m' ms spelt f' spells named fresh reads rest ih =>
    rcases List.mem_cons.mp hm with rfl | hm
    · rw [spells.unique hs, String.ofList_toList, hf] at named
      cases named
      refine ⟨record, record', reads, rest.keeps hother (.inl ?_)⟩
      simp [hname]
    · exact ih hm
  | @unknown seen record out m' ms spelt spells foreign _ ih =>
    rcases List.mem_cons.mp hm with rfl | hm
    · rw [spells.unique hs, String.ofList_toList, hf] at foreign
      cases foreign
    · exact ih hm

end Filled

namespace Shape

variable {sh : Shape α}

theorem ended_of_nextKey {first : Bool} (h : nextKey first cs = .ok (.ended rest)) :
    ∃ s, Spaces s ∧ cs = s ++ '\x7d' :: rest := by
  obtain ⟨s, hs, hspace⟩ := exists_spaces cs
  unfold nextKey at h
  split at h
  · simp at h
  · rename_i r hr
    cases h
    exact ⟨s, hs, by rw [← hspace, hr]⟩
  · repeat' split at h
    all_goals simp at h

/-- What stands before a key: white space, or also a comma before it. -/
theorem goes_of_nextKey {first : Bool} {r : List Char} (h : nextKey first cs = .ok (.item r)) :
    ∃ s, Spaces s ∧ ∀ {t ts rest}, Goes '\x7d' rest true (t :: ts) (s ++ '"' :: r) →
      Goes '\x7d' rest first (t :: ts) cs := by
  obtain ⟨s, hs, hspace⟩ := exists_spaces cs
  unfold nextKey at h
  split at h
  · simp at h
  · cases h
  · rename_i c r₁ _ hr₁
    split at h
    · rename_i hfirst
      split at h
      · rename_i hc
        cases h
        refine ⟨s, hs, fun hgoes => ?_⟩
        rwa [← hspace, hr₁, hc, hfirst]
      · simp at h
    · rename_i hfirst
      split at h
      · rename_i hc
        obtain ⟨s', hs', hspace'⟩ := exists_spaces r₁
        split at h
        · simp at h
        · rename_i r₂ hr₂
          cases h
          refine ⟨s', hs', fun hgoes => ?_⟩
          rw [← hspace, hr₁, hc, ← hspace', hr₂, show first = false by simpa using hfirst]
          exact hgoes.after_comma hs
        · simp at h
        · simp at h
      · simp at h

theorem filled_of_readMembers (hregular : sh.Regular) {n : Nat} {first : Bool}
    {seen : List String} {record out : α}
    (h : sh.readMembers n first seen record cs = .ok (out, rest)) :
    ∃ members, (∀ m ∈ members, m.Sound) ∧ Filled sh seen record members out ∧
      Goes '\x7d' rest first (members.map Member.text) cs := by
  induction n generalizing first seen record cs with
  | zero => simp [readMembers] at h
  | succ n ih =>
    obtain ⟨next, hnext, hstep⟩ := bind_eq_ok_iff.mp h
    cases next with
    | ended rest' =>
      obtain ⟨s, hs, rfl⟩ := ended_of_nextKey hnext
      dsimp only [close] at hstep
      split at hstep
      · simp at hstep
      · cases hstep
        exact ⟨[], by simp, .done, .ended hs first⟩
    | item r =>
      obtain ⟨s, hs, hgoes⟩ := goes_of_nextKey hnext
      obtain ⟨⟨key, r₁⟩, hkey, hmember⟩ := bind_eq_ok_iff.mp hstep
      obtain ⟨b, name, hb, rfl, rfl⟩ := spells_of_readString hkey
      dsimp only at hmember
      split at hmember
      · rename_i f hf
        split at hmember
        · simp at hmember
        · rename_i hfresh
          obtain ⟨r₂, hcolon, hfield⟩ := bind_eq_ok_iff.mp hmember
          obtain ⟨⟨record', r₃⟩, hread, hmore⟩ := bind_eq_ok_iff.mp hfield
          obtain ⟨s₁, hs₁, rfl⟩ := colon_of_skipColon hcolon
          obtain ⟨s₂, v, hs₂, hv, rfl⟩ := hregular f (List.mem_of_find?_eq_some hf) record hread
          obtain ⟨members, hall, hfilled, hrest⟩ := ih hmore
          obtain ⟨m, hm, rfl, rfl, hfirst⟩ := hrest.member hs hb.stringBody hs₁ hs₂ hv
          exact ⟨m :: members, by simpa [hm] using hall,
            .known hb hf (by simpa using hfresh) ⟨hv, s₂, r₃, hs₂, hread⟩ hfilled, hgoes hfirst⟩
      · rename_i hf
        obtain ⟨r₂, hcolon, hvalue⟩ := bind_eq_ok_iff.mp hmember
        obtain ⟨r₃, hskip, hmore⟩ := bind_eq_ok_iff.mp hvalue
        obtain ⟨s₁, hs₁, rfl⟩ := colon_of_skipColon hcolon
        obtain ⟨s₂, v, hs₂, hv, rfl⟩ := takesValue_of_skipValue hskip
        obtain ⟨members, hall, hfilled, hrest⟩ := ih hmore
        obtain ⟨m, hm, rfl, -, hfirst⟩ := hrest.member hs hb.stringBody hs₁ hs₂ hv
        exact ⟨m :: members, by simpa [hm] using hall, .unknown hb hf hfilled, hgoes hfirst⟩

theorem ended_of_nextItem {first : Bool} (h : nextItem first cs = .ok (.ended rest)) :
    ∃ s, Spaces s ∧ cs = s ++ ']' :: rest := by
  obtain ⟨s, hs, hspace⟩ := exists_spaces cs
  unfold nextItem at h
  split at h
  · simp at h
  · rename_i r hr
    cases h
    exact ⟨s, hs, by rw [← hspace, hr]⟩
  · repeat' split at h
    all_goals simp at h

theorem goes_of_nextItem {first : Bool} {r : List Char} (h : nextItem first cs = .ok (.item r)) :
    ∃ s, Spaces s ∧ ∀ {t ts rest}, Goes ']' rest true (t :: ts) (s ++ r) →
      Goes ']' rest first (t :: ts) cs := by
  obtain ⟨s, hs, hspace⟩ := exists_spaces cs
  unfold nextItem at h
  split at h
  · simp at h
  · cases h
  · rename_i c r₁ _ hr₁
    split at h
    · rename_i hfirst
      cases h
      refine ⟨s, hs, fun hgoes => ?_⟩
      rwa [← hspace, hr₁, hfirst]
    · rename_i hfirst
      split at h
      · rename_i hc
        obtain ⟨s', hs', hspace'⟩ := exists_spaces r₁
        split at h
        · simp at h
        · simp at h
        · rename_i r₂ _ _
          cases h
          refine ⟨s', hs', fun hgoes => ?_⟩
          rw [← hspace, hr₁, hc, ← hspace', show first = false by simpa using hfirst]
          exact hgoes.after_comma hs
      · simp at h

theorem ended_of_closeList {record out : α} (h : closeList record cs = .ok (out, rest)) :
    out = record ∧ ∃ s, Spaces s ∧ cs = s ++ ']' :: rest := by
  obtain ⟨s, hs, hspace⟩ := exists_spaces cs
  unfold closeList at h
  split at h
  · simp at h
  · rename_i r hr
    cases h
    exact ⟨rfl, s, hs, by rw [← hspace, hr]⟩
  · split at h <;> simp at h
  · simp at h

theorem filledInOrder_of_readItems {fs : List (Field α)}
    (hregular : ∀ f ∈ fs, ∀ record, TakesValues (f.read record)) {index : Nat} {record out : α}
    (h : sh.readItems index record fs cs = .ok (out, rest)) :
    ∃ items, (∀ i ∈ items, i.Sound) ∧ FilledInOrder record fs items out ∧
      Goes ']' rest (index == 0) (items.map Item.text) cs := by
  induction fs generalizing index record cs with
  | nil =>
    obtain ⟨rfl, s, hs, rfl⟩ := ended_of_closeList h
    exact ⟨[], by simp, .done, .ended hs _⟩
  | cons f fs ih =>
    obtain ⟨next, hnext, hstep⟩ := bind_eq_ok_iff.mp h
    cases next with
    | ended rest' =>
      obtain ⟨s, hs, rfl⟩ := ended_of_nextItem hnext
      dsimp only at hstep
      split at hstep
      · simp at hstep
      · cases hstep
        exact ⟨[], by simp, .done, .ended hs _⟩
    | item r =>
      obtain ⟨s, hs, hgoes⟩ := goes_of_nextItem hnext
      obtain ⟨⟨record', r₁⟩, hread, hmore⟩ := bind_eq_ok_iff.mp hstep
      obtain ⟨s', v, hs', hv, rfl⟩ := hregular f (by simp) record hread
      obtain ⟨items, hall, hfilled, hrest⟩ := ih (fun f hf => hregular f (by simp [hf])) hmore
      rw [show (index + 1 == 0) = false by simp] at hrest
      obtain ⟨i, hi, rfl, hfirst⟩ := hrest.item (hs.append hs') hv
      rw [List.append_assoc] at hfirst
      exact ⟨i :: items, by simpa [hi] using hall, .item ⟨hv, s', r₁, hs', hread⟩ hfilled,
        hgoes hfirst⟩

/-- What a record is read from is the text of an object or of a list, with all that stands in it. -/
theorem written_of_read (hregular : sh.Regular) {out : α} (h : sh.read cs = .ok (out, rest)) :
    ∃ s text, Spaces s ∧ Written sh out text ∧ cs = s ++ (text ++ rest) := by
  obtain ⟨s, hs, hspace⟩ := exists_spaces cs
  unfold read at h
  split at h
  · simp at h
  · rename_i r hr
    obtain ⟨members, hall, hfilled, hgoes⟩ := filled_of_readMembers hregular h
    obtain ⟨text, htext, heq⟩ := hgoes.bracketed '\x7b'
    exact ⟨s, text, hs, .object hall htext hfilled, by rw [← heq, ← hr, hspace]⟩
  · rename_i r hr
    obtain ⟨items, hall, hfilled, hgoes⟩ := filledInOrder_of_readItems hregular h
    obtain ⟨text, htext, heq⟩ := hgoes.bracketed '['
    exact ⟨s, text, hs, .list hall htext hfilled, by rw [← heq, ← hr, hspace]⟩
  · simp at h

theorem written_of_readAll (hregular : sh.Regular) {out : α} {text : String}
    (h : readAll sh.read text = .ok out) :
    ∃ v, Surrounds text.toList v ∧ Written sh out v := by
  obtain ⟨⟨a, rest⟩, hread, hend⟩ := bind_eq_ok_iff.mp (mapError_eq_ok_iff.mp h)
  obtain ⟨s, v, hs, hv, hcs⟩ := written_of_read hregular hread
  obtain ⟨s', hs', hspace⟩ := exists_spaces rest
  dsimp only at hend
  split at hend
  · rename_i hnil
    cases hend
    rw [hnil, List.append_nil] at hspace
    exact ⟨v, ⟨s, s', hs, hs', by rw [hcs, hspace]⟩, hv⟩
  · simp at hend

end Shape

end Rendezvous.Json
