import Rendezvous.Proofs.Json.Meaning

/-! Objects and lists that a record can be read from: exactly those that fill it and leave out
nothing that it needs. -/

namespace Rendezvous.Json

variable {α : Type} {s v rest cs : List Char}

/-! ### Objects -/

def Member.Named (m : Member) (name : String) : Prop := Spells m.key name.toList

theorem Member.Named.unique {m : Member} {name name' : String} (h : m.Named name)
    (h' : m.Named name') : name = name' :=
  String.toList_injective (Spells.unique h h')

theorem named_iff {m : Member} {name : List Char} (h : Spells m.key name) {name' : String} :
    m.Named name' ↔ name' = String.ofList name := by
  constructor
  · intro hnamed
    exact Member.Named.unique hnamed (by rwa [Member.Named, String.toList_ofList])
  · rintro rfl
    rwa [Member.Named, String.toList_ofList]

/-- The text is that of an object with the members, whatever white space is around it. -/
structure ObjectOf (text : String) (members : List Member) : Prop where
  sound : ∀ m ∈ members, m.Sound
  written : ∃ v, Surrounds text.toList v ∧ ObjectText members v

namespace Shape

variable {sh : Shape α} {seen : List String} {record out : α} {m : Member} {members : List Member}
  {items : List Item} {first : Bool}

def behindQuote (m : Member) (t : List Char) : List Char :=
  m.key ++ '"' :: (m.between ++ ':' :: (m.item.before ++ (m.value ++ (m.item.after ++ t))))

theorem nextKey_ended {gap : List Char} (hgap : Spaces gap) (first : Bool) (rest : List Char) :
    nextKey first (gap ++ '\x7d' :: rest) = .ok (.ended rest) := by
  have hspace := skipSpace_of_visible (t := '\x7d' :: rest) hgap (visible_cons (by decide))
  rw [nextKey, hspace]
  rfl

theorem nextKey_item (hm : m.Sound)
    (h : Goes '\x7d' rest first ((m :: members).map Member.text) cs) :
    nextKey first cs =
      .ok (.item (behindQuote m (goesOn '\x7d' (members.map Member.text) rest))) := by
  have hquote := skipSpace_member hm (goesOn '\x7d' (members.map Member.text) rest)
  cases h with
  | first =>
    change nextKey true (m.text ++ goesOn '\x7d' (members.map Member.text) rest) = _
    rw [nextKey, hquote]
    rfl
  | @later gap _ hgap =>
    change nextKey false (gap ++ goesOn '\x7d' (m.text :: members.map Member.text) rest) = _
    rw [nextKey, skipSpace_goesOn hgap]
    simp [hquote, behindQuote]

theorem close_eq_ok_iff {a : α} :
    sh.close seen record rest = .ok (a, cs) ↔
      (∀ f ∈ sh.fields, f.needed = true → f.name ∈ seen) ∧ a = record ∧ cs = rest := by
  unfold close
  split
  · rename_i f hf
    have hneeded : f.needed = true ∧ f.name ∉ seen := by simpa using List.find?_some hf
    simp only [failAt_ne_ok, false_iff, not_and]
    intro h
    exact absurd (h f (List.mem_of_find?_eq_some hf) hneeded.1) hneeded.2
  · rename_i hnone
    have hall : ∀ f ∈ sh.fields, f.needed = true → f.name ∈ seen := by
      simpa using List.find?_eq_none.mp hnone
    simp only [Except.ok.injEq, Prod.mk.injEq]
    constructor
    · rintro ⟨rfl, rfl⟩
      exact ⟨hall, rfl, rfl⟩
    · rintro ⟨-, rfl, rfl⟩
      exact ⟨rfl, rfl⟩

def Knows (sh : Shape α) (name : String) : Prop := ∃ f ∈ sh.fields, f.name = name

/-- Reading members that fill a record comes to its end, where it is known which fields were
filled. -/
theorem readMembers_of_filled (hsteady : ∀ f ∈ sh.fields, f.Steady)
    (h : Filled sh seen record members out) (hsound : ∀ m ∈ members, m.Sound) {n : Nat}
    (hn : members.length < n) (hgoes : Goes '\x7d' rest first (members.map Member.text) cs) :
    ∃ seen', (∀ name, name ∈ seen' ↔ name ∈ seen ∨ sh.Knows name ∧ ∃ m ∈ members, m.Named name) ∧
      sh.readMembers n first seen record cs = sh.close seen' out rest := by
  obtain ⟨k, rfl⟩ : ∃ k, n = k + 1 := ⟨n - 1, by omega⟩
  induction h generalizing first cs k with
  | @done seen record =>
    refine ⟨seen, by simp, ?_⟩
    obtain ⟨gap, hgap, rfl⟩ := hgoes.exists_of_nil
    rw [readMembers, nextKey_ended hgap, ok_bind]
  | @known seen record record' out m ms name f spells named fresh reads _ ih =>
    have hm : m.Sound := hsound m List.mem_cons_self
    have hends := hm.ends (stops_goesOn '\x7d' (ms.map Member.text) rest)
    have hread := (hsteady f (List.mem_of_find?_eq_some named) record).read hm.spaced.item.before
      hm.value hends reads
    have hname : f.name = String.ofList name := by simpa using List.find?_some named
    rw [List.length_cons] at hn
    obtain ⟨j, rfl⟩ : ∃ j, k = j + 1 := ⟨k - 1, by omega⟩
    obtain ⟨seen', hseen, hmembers⟩ := ih (fun m' hm' => hsound m' (List.mem_cons_of_mem m hm'))
      (.later hm.spaced.item.after) j (by omega)
    refine ⟨seen', fun name' => ?_, ?_⟩
    · have hnamed : m.Named name' ↔ name' = f.name := by
        rw [hname, named_iff spells]
      have hknows : sh.Knows f.name := ⟨f, List.mem_of_find?_eq_some named, rfl⟩
      simp only [hseen, List.mem_cons, or_and_right, exists_or, exists_eq_left, hnamed]
      grind
    · have hfresh : seen.contains f.name = false := by simpa using fresh
      rw [readMembers, nextKey_item hm hgoes, ok_bind]
      simp only [behindQuote, readString_of_spells spells, ok_bind, List.reverse_nil,
        List.nil_append, named, hfresh, skipColon_append hm.spaced.between, Bool.false_eq_true,
        if_false, hread]
      exact hmembers
  | @unknown seen record out m ms name spells foreign _ ih =>
    have hm : m.Sound := hsound m List.mem_cons_self
    have hends := hm.ends (stops_goesOn '\x7d' (ms.map Member.text) rest)
    have hskip := skipValue_of_value hm.spaced.item.before hm.value hends
    rw [List.length_cons] at hn
    obtain ⟨j, rfl⟩ : ∃ j, k = j + 1 := ⟨k - 1, by omega⟩
    obtain ⟨seen', hseen, hmembers⟩ := ih (fun m' hm' => hsound m' (List.mem_cons_of_mem m hm'))
      (.later hm.spaced.item.after) j (by omega)
    refine ⟨seen', fun name' => ?_, ?_⟩
    · have hnot : ¬(sh.Knows name' ∧ m.Named name') := by
        rintro ⟨⟨f, hf, rfl⟩, hnamed⟩
        have hother := List.find?_eq_none.mp foreign f hf
        rw [← (named_iff spells).mp hnamed] at hother
        exact hother (by simp)
      simp only [hseen, List.mem_cons, or_and_right, exists_or, exists_eq_left]
      grind
    · rw [readMembers, nextKey_item hm hgoes, ok_bind]
      simp only [behindQuote, readString_of_spells spells, ok_bind, List.reverse_nil,
        List.nil_append, foreign, skipColon_append hm.spaced.between, hskip]
      exact hmembers

def Complete (sh : Shape α) (members : List Member) : Prop :=
  ∀ f ∈ sh.fields, f.needed = true → ∃ m ∈ members, m.Named f.name

/-- The texts that a record is read from. -/
inductive Spelt (sh : Shape α) (v : List Char) (out : α) : Prop
  | object {members : List Member} (sound : ∀ m ∈ members, m.Sound)
      (written : ObjectText members v) (filled : Filled sh [] sh.empty members out)
      (complete : sh.Complete members)
  | list {items : List Item} (sound : ∀ i ∈ items, i.Sound) (written : ListText items v)
      (filled : FilledInOrder sh.empty sh.fields items out)
      (enough : ∀ f ∈ sh.fields.drop items.length, f.needed = false)

/-- Whether a list that fills a record is accepted depends on the fields behind its values. -/
theorem readItems_iff {fs : List (Field α)} (hfs : ∀ f ∈ fs, f.Steady)
    (filled : FilledInOrder record fs items out) (sound : ∀ i ∈ items, i.Sound) {index : Nat}
    (hgoes : Goes ']' rest (index == 0) (items.map Item.text) cs) {a : α} {cs' : List Char} :
    sh.readItems index record fs cs = .ok (a, cs') ↔
      (∀ f ∈ fs.drop items.length, f.needed = false) ∧ a = out ∧ cs' = rest := by
  induction filled generalizing index cs with
  | @done record fs =>
    obtain ⟨gap, hgap, rfl⟩ := hgoes.exists_of_nil
    cases fs with
    | nil =>
      have hspace := skipSpace_of_visible (t := ']' :: rest) hgap (visible_cons (by decide))
      rw [readItems, closeList, hspace]
      simp only [List.drop_nil, Except.ok.injEq, Prod.mk.injEq]
      constructor
      · rintro ⟨rfl, rfl⟩
        exact ⟨nofun, rfl, rfl⟩
      · rintro ⟨-, rfl, rfl⟩
        exact ⟨rfl, rfl⟩
    | cons f fs =>
      rw [readItems, nextItem_ended hgap, ok_bind]
      dsimp only
      split
      · rename_i k hk
        obtain ⟨hlt, hneeded, -⟩ := List.findIdx?_eq_some_iff_getElem.mp hk
        simp only [failAt_ne_ok, false_iff, not_and, List.length_nil, List.drop_zero]
        intro h
        rw [h _ (List.getElem_mem hlt)] at hneeded
        cases hneeded
      · rename_i hk
        have hall : ∀ f' ∈ f :: fs, f'.needed = false := by
          simpa using List.findIdx?_eq_none_iff.mp hk
        simp only [Except.ok.injEq, Prod.mk.injEq, List.length_nil, List.drop_zero]
        constructor
        · rintro ⟨rfl, rfl⟩
          exact ⟨hall, rfl, rfl⟩
        · rintro ⟨-, rfl, rfl⟩
          exact ⟨rfl, rfl⟩
  | @item record record' out f fs i items reads _ ih =>
    have hi : i.Sound := sound i List.mem_cons_self
    have hends := hi.ends (stops_goesOn ']' (items.map Item.text) rest)
    have hread := (hfs f List.mem_cons_self record).read spaces_nil hi.value hends reads
    rw [List.nil_append] at hread
    rw [readItems, nextItem_item hi hgoes, ok_bind]
    dsimp only
    rw [hread, ok_bind]
    exact ih (fun f' hf' => hfs f' (List.mem_cons_of_mem f hf'))
      (fun i' hi' => sound i' (List.mem_cons_of_mem i hi')) (.later hi.spaced.after)

section Object

variable (hsteady : ∀ f ∈ sh.fields, f.Steady)

include hsteady

theorem regular_of_steady : sh.Regular := by
  intro f hf record cs a rest h
  obtain ⟨s, v, hs, hv, -, hcs⟩ := (hsteady f hf record).of_read h
  exact ⟨s, v, hs, hv, hcs⟩

/-- Whether an object that fills a record is accepted depends on its needed members alone. -/
theorem read_object_iff (sound : ∀ m ∈ members, m.Sound) (written : ObjectText members v)
    (filled : Filled sh [] sh.empty members out) (hs : Spaces s) {a : α} :
    sh.read (s ++ (v ++ rest)) = .ok (a, cs) ↔ sh.Complete members ∧ a = out ∧ cs = rest := by
  obtain ⟨inner, rfl, hgoes⟩ := written.goes rest
  have hlength := hgoes.length_le
  rw [List.length_map] at hlength
  have hspace := skipSpace_of_visible (t := '\x7b' :: (inner ++ rest)) hs (visible_cons (by decide))
  obtain ⟨seen, hseen, hread⟩ := readMembers_of_filled hsteady filled sound
    (Nat.lt_succ_of_le hlength) hgoes
  have hcomplete : sh.Complete members ↔ ∀ f ∈ sh.fields, f.needed = true → f.name ∈ seen := by
    refine forall_congr' fun f => forall_congr' fun hf => imp_congr_right fun _ => ?_
    have hknows : sh.Knows f.name := ⟨f, hf, rfl⟩
    simp [hseen, hknows]
  rw [read, List.cons_append, hspace, hcomplete]
  exact (congrArg (· = _) hread).to_iff.trans close_eq_ok_iff

theorem read_list_iff (sound : ∀ i ∈ items, i.Sound) (written : ListText items v)
    (filled : FilledInOrder sh.empty sh.fields items out) (hs : Spaces s) {a : α} :
    sh.read (s ++ (v ++ rest)) = .ok (a, cs) ↔
      (∀ f ∈ sh.fields.drop items.length, f.needed = false) ∧ a = out ∧ cs = rest := by
  obtain ⟨inner, rfl, hgoes⟩ := written.goes rest
  have hspace := skipSpace_of_visible (t := '[' :: (inner ++ rest)) hs (visible_cons (by decide))
  rw [read, List.cons_append, hspace]
  exact readItems_iff hsteady filled sound hgoes

/-- A record is read from the texts that spell it, and from no others. -/
theorem means_read : Means sh.read sh.Spelt where
  of_read {cs rest out} h := by
    obtain ⟨s, v, hs, hwritten, rfl⟩ := written_of_read (regular_of_steady hsteady) h
    cases hwritten with
    | object sound written filled =>
      have hcomplete := ((read_object_iff hsteady sound written filled hs).mp h).1
      exact ⟨s, v, hs, .of_members sound written, .object sound written filled hcomplete, rfl⟩
    | list sound written filled =>
      have henough := ((read_list_iff hsteady sound written filled hs).mp h).1
      exact ⟨s, v, hs, .of_items sound written, .list sound written filled henough, rfl⟩
  read hs _ _ h := by
    cases h with
    | object sound written filled complete =>
      exact (read_object_iff hsteady sound written filled hs).mpr ⟨complete, rfl, rfl⟩
    | list sound written filled enough =>
      exact (read_list_iff hsteady sound written filled hs).mpr ⟨enough, rfl, rfl⟩

/-- A record is read from an object exactly if its members fill the record and none that is needed
is missing. -/
theorem readAll_object_iff {text : String} (object : ObjectOf text members) :
    readAll sh.read text = .ok out ↔
      Filled sh [] sh.empty members out ∧ sh.Complete members := by
  obtain ⟨v, around, written⟩ := object.written
  have hv : Value v := .of_members object.sound written
  rw [(means_read hsteady).readAll_iff]
  constructor
  · rintro ⟨w, around', hw, hspelt⟩
    obtain rfl := around.unique around' hv hw
    cases hspelt with
    | object sound' written' filled complete =>
      obtain rfl := written.members_unique object.sound sound' written'
      exact ⟨filled, complete⟩
    | list _ written' _ _ => exact (written.not_list written').elim
  · rintro ⟨filled, complete⟩
    exact ⟨v, around, hv, .object object.sound written filled complete⟩

end Object

end Shape

end Rendezvous.Json
