import Mathlib.Data.List.Forall2
import Rendezvous.Proofs.Json.Completeness
import Rendezvous.Proofs.Json.Records

/-! What the value of a text means to a reader, so that what is read is settled by the value alone:
by the white space around it and by what comes next it is not. -/

namespace Rendezvous.Json

variable {α β : Type} {s v rest cs : List Char}

theorem skipSpace_of_spaces (hs : Spaces s) : skipSpace s = [] := by
  have hspace := dropWhile_append_stop (t := []) hs nofun
  rwa [List.append_nil] at hspace

theorem surrounds_self (v : List Char) : Surrounds v v :=
  ⟨[], [], spaces_nil, spaces_nil, (List.append_nil v).symm⟩

def SpellsText (v : List Char) (t : String) : Prop :=
  ∃ b, v = '"' :: (b ++ ['"']) ∧ Spells b t.toList

def nullText : List Char := ['n', 'u', 'l', 'l']

/-- What the reader makes of a value is `M`, wherever the value stands. -/
structure Means (read : Reader α) (M : List Char → α → Prop) : Prop where
  of_read : ∀ {cs rest a}, read cs = .ok (a, rest) →
    ∃ s v, Spaces s ∧ Value v ∧ M v a ∧ cs = s ++ (v ++ rest)
  read : ∀ {s v rest a}, Spaces s → Value v → Ends rest → M v a →
    read (s ++ (v ++ rest)) = .ok (a, rest)

theorem SpellsText.value {t : String} (h : SpellsText v t) : Value v := by
  obtain ⟨b, rfl, hb⟩ := h
  exact .string hb.stringBody

theorem SpellsText.ne_null {t : String} (h : SpellsText v t) : v ≠ nullText := by
  obtain ⟨b, rfl, -⟩ := h
  exact fun hnull => absurd (List.cons.inj hnull).1 (by decide)

theorem SpellsText.unique {t t' : String} (h : SpellsText v t) (h' : SpellsText v t') : t = t' := by
  obtain ⟨b, rfl, hb⟩ := h
  obtain ⟨b', heq, hb'⟩ := h'
  obtain rfl : b = b' := List.append_cancel_right (List.cons.inj heq).2
  exact String.toList_injective (hb.unique hb')

theorem means_readText : Means readText SpellsText where
  of_read h := by
    obtain ⟨s, b, name, hs, hb, rfl, rfl⟩ := spells_of_readText h
    have hv : SpellsText ('"' :: (b ++ ['"'])) (String.ofList name) :=
      ⟨b, rfl, by rwa [String.toList_ofList]⟩
    exact ⟨s, _, hs, hv.value, hv, by simp⟩
  read {s v rest t} hs _ _ h := by
    obtain ⟨b, rfl, hb⟩ := h
    have hspace := skipSpace_of_visible (t := '"' :: (b ++ '"' :: rest)) hs
      (visible_cons (by decide))
    have htext : s ++ ('"' :: (b ++ ['"']) ++ rest) = s ++ '"' :: (b ++ '"' :: rest) := by simp
    rw [htext, readText, hspace]
    simp [readString_of_spells hb, ok_bind]

/-- A value kept as it is written. -/
theorem means_readRaw : Means readRaw fun v t => t = String.ofList v where
  of_read h := by
    obtain ⟨s, v, hs, hv, rfl, rfl⟩ := value_of_readRaw h
    exact ⟨s, v, hs, hv, rfl, rfl⟩
  read {s v rest t} hs hv hrest h := by
    subst h
    have hskip := skipValue_of_value (s := []) spaces_nil hv hrest
    rw [List.nil_append] at hskip
    have hspace : skipSpace (s ++ (v ++ rest)) = v ++ rest := skipSpace_append hs hv
    simp [readRaw, hspace, hskip, ok_bind]

/-- What a field that may be missing gets: nothing from `null`, otherwise what the value means. -/
inductive Optionally (M : List Char → β → Prop) (v : List Char) : Option β → Prop
  | null (h : v = nullText) : Optionally M v none
  | some {b : β} (h : v ≠ nullText) (means : M v b) : Optionally M v (some b)

theorem Value.eq_null_of_head {r : List Char} (h : Value v) (hv : v = 'n' :: r) : v = nullText := by
  obtain ⟨c, t, rfl, hb⟩ := h.exists_begins
  obtain ⟨rfl, rfl⟩ := List.cons.inj hv
  obtain rfl : t = ['u', 'l', 'l'] := by simpa [Begins] using hb
  rfl

theorem Means.optional {read : Reader β} {M : List Char → β → Prop} (h : Means read M) :
    Means (readOptional read) (Optionally M) where
  of_read {cs rest a} hread := by
    obtain ⟨s, hs, hspace⟩ := exists_spaces cs
    unfold readOptional at hread
    split at hread
    · rename_i r hr
      obtain ⟨rest', hword, hok⟩ := bind_eq_ok_iff.mp hread
      cases hok
      exact ⟨s, nullText, hs, .null, .null rfl, by rw [← hspace, hr, skipWord_eq hword]; rfl⟩
    · rename_i hn
      obtain ⟨⟨b, rest'⟩, hb, hok⟩ := bind_eq_ok_iff.mp hread
      cases hok
      obtain ⟨s', v, hs', hv, hmeans, hstart⟩ := h.of_read hb
      obtain rfl := eq_nil_of_skipSpace hs' hstart
      refine ⟨s, v, hs, hv, .some ?_ hmeans, by rw [← hspace, hstart]; rfl⟩
      rintro rfl
      exact hn _ hstart
  read {s v rest a} hs hv hrest hmeans := by
    have hspace : skipSpace (s ++ (v ++ rest)) = v ++ rest := skipSpace_append hs hv
    unfold readOptional
    cases hmeans with
    | null hnull =>
      subst hnull
      rw [hspace]
      change (skipWord ['u', 'l', 'l'] (['u', 'l', 'l'] ++ rest) >>= fun r => .ok (none, r)) = _
      rw [skipWord_append, ok_bind]
    | some hne hmeans =>
      have hread := h.read spaces_nil hv hrest hmeans
      rw [hspace]
      split
      · rename_i r hr
        obtain ⟨c, t, rfl, -⟩ := visible_of_value hv
        obtain ⟨rfl, -⟩ := List.cons.inj hr
        exact absurd (hv.eq_null_of_head rfl) hne
      · rw [List.nil_append] at hread
        rw [hread, ok_bind]

theorem readAll_eq_ok_iff {read : Reader α} {text : String} {a : α} :
    readAll read text = .ok a ↔
      ∃ rest, read text.toList = .ok (a, rest) ∧ skipSpace rest = [] := by
  refine mapError_eq_ok_iff.trans (bind_eq_ok_iff.trans ⟨?_, ?_⟩)
  · rintro ⟨⟨b, rest⟩, hread, hok⟩
    dsimp only at hok
    split at hok
    · rename_i hnil
      cases hok
      exact ⟨rest, hread, hnil⟩
    · simp at hok
  · rintro ⟨rest, hread, hnil⟩
    refine ⟨(a, rest), hread, ?_⟩
    dsimp only
    rw [hnil]

/-- A text is read as what its one value means. -/
theorem Means.readAll_iff {read : Reader α} {M : List Char → α → Prop} (h : Means read M)
    {text : String} {a : α} :
    readAll read text = .ok a ↔ ∃ v, Surrounds text.toList v ∧ Value v ∧ M v a := by
  rw [readAll_eq_ok_iff]
  constructor
  · rintro ⟨rest, hread, hnil⟩
    obtain ⟨s, v, hs, hv, hmeans, htext⟩ := h.of_read hread
    obtain ⟨s', hs', hspace⟩ := exists_spaces rest
    rw [hnil, List.append_nil] at hspace
    exact ⟨v, ⟨s, s', hs, hs', by rw [htext, hspace]⟩, hv, hmeans⟩
  · rintro ⟨v, ⟨s, s', hs, hs', htext⟩, hv, hmeans⟩
    have hends : Ends s' := by
      simpa using hs'.ends (t := []) trivial
    exact ⟨s', by rw [htext, h.read hs hv hends hmeans], skipSpace_of_spaces hs'⟩

/-! ### Lists -/

theorem Bracketed.goes {opening closing : Char} {ts : List (List Char)}
    (h : Bracketed opening closing ts v) (rest : List Char) :
    ∃ inner, v = opening :: inner ∧ Goes closing rest true ts (inner ++ rest) := by
  cases h with
  | empty spaces => exact ⟨_, rfl, by simpa using Goes.empty spaces⟩
  | texts => exact ⟨_, rfl, by simpa using Goes.first⟩

theorem Goes.length_le {closing : Char} {first : Bool} {ts : List (List Char)}
    (h : Goes closing rest first ts cs) :
    ts.length ≤ cs.length := by
  have hflat : ∀ ts : List (List Char), ts.length ≤ (ts.flatMap (',' :: ·)).length := by
    intro ts
    induction ts with
    | nil => exact Nat.le_refl 0
    | cons t ts ih =>
      rw [List.flatMap_cons, List.length_append, List.length_cons, List.length_cons]
      omega
  cases h with
  | empty _ => exact Nat.zero_le _
  | @first t ts =>
    have hts := hflat ts
    simp only [List.length_append, List.length_cons]
    omega
  | @later gap ts _ =>
    have hts := hflat ts
    simp only [List.length_append]
    omega

theorem Goes.exists_of_nil {closing : Char} {first : Bool} (h : Goes closing rest first [] cs) :
    ∃ gap, Spaces gap ∧ cs = gap ++ closing :: rest := by
  cases h with
  | empty spaces => exact ⟨_, spaces, rfl⟩
  | later spaces => exact ⟨_, spaces, rfl⟩

section List

variable {read : Reader α} {M : List Char → α → Prop} {items : List Item} {i : Item} {as : List α}

/-- What a list means whose values mean something to the reader of its items. -/
inductive ListMeans (M : List Char → α → Prop) (v : List Char) (as : List α) : Prop
  | mk {items : List Item} (sound : ∀ i ∈ items, i.Sound) (written : ListText items v)
      (means : List.Forall₂ (fun i a => M i.value a) items as)

theorem nextItem_ended {gap : List Char} (hgap : Spaces gap) (first : Bool) (rest : List Char) :
    Shape.nextItem first (gap ++ ']' :: rest) = .ok (.ended rest) := by
  have hspace := skipSpace_of_visible (t := ']' :: rest) hgap (visible_cons (by decide))
  rw [Shape.nextItem, hspace]
  rfl

theorem nextItem_item {first : Bool} (hi : i.Sound)
    (h : Goes ']' rest first ((i :: items).map Item.text) cs) :
    Shape.nextItem first cs =
      .ok (.item (i.value ++ (i.after ++ goesOn ']' (items.map Item.text) rest))) := by
  have hvalue := skipSpace_item hi (goesOn ']' (items.map Item.text) rest)
  obtain ⟨c, r, hbegins, -⟩ := visible_of_value hi.value
  have hopen : c ≠ ']' := (hi.value.not_closed hbegins).1
  rw [hbegins] at hvalue ⊢
  cases h with
  | first =>
    change Shape.nextItem true (i.text ++ goesOn ']' (items.map Item.text) rest) = _
    rw [Shape.nextItem, hvalue]
    simp
  | @later gap _ hgap =>
    change Shape.nextItem false (gap ++ goesOn ']' (i.text :: items.map Item.text) rest) = _
    rw [Shape.nextItem, skipSpace_goesOn hgap]
    simp [hvalue, hopen]

theorem forall₂_of_readItemsWith (h : Means read M) {n : Nat} {first : Bool} {done out : List α}
    (hread : readItemsWith read n first done cs = .ok (out, rest)) :
    ∃ items as, (∀ i ∈ items, i.Sound) ∧ List.Forall₂ (fun i a => M i.value a) items as ∧
      out = done.reverse ++ as ∧ Goes ']' rest first (items.map Item.text) cs := by
  induction n generalizing first done cs with
  | zero => simp [readItemsWith] at hread
  | succ n ih =>
    obtain ⟨next, hnext, hstep⟩ := bind_eq_ok_iff.mp hread
    cases next with
    | ended rest' =>
      obtain ⟨s, hs, rfl⟩ := Shape.ended_of_nextItem hnext
      cases hstep
      exact ⟨[], [], by simp, .nil, by simp, .ended hs first⟩
    | item r =>
      obtain ⟨s, hs, hgoes⟩ := Shape.goes_of_nextItem hnext
      obtain ⟨⟨a, r₁⟩, hvalue, hmore⟩ := bind_eq_ok_iff.mp hstep
      obtain ⟨s', v, hs', hv, hmeans, rfl⟩ := h.of_read hvalue
      obtain ⟨items, as, hall, hmatch, rfl, hrest⟩ := ih hmore
      obtain ⟨i, hi, rfl, hfirst⟩ := hrest.item (hs.append hs') hv
      rw [List.append_assoc] at hfirst
      exact ⟨i :: items, a :: as, by simpa [hi] using hall, .cons hmeans hmatch, by simp,
        hgoes hfirst⟩

theorem readItemsWith_of_forall₂ (h : Means read M)
    (hmatch : List.Forall₂ (fun i a => M i.value a) items as) (hsound : ∀ i ∈ items, i.Sound)
    {n : Nat} (hn : items.length < n) {first : Bool} {done : List α}
    (hgoes : Goes ']' rest first (items.map Item.text) cs) :
    readItemsWith read n first done cs = .ok (done.reverse ++ as, rest) := by
  obtain ⟨k, rfl⟩ : ∃ k, n = k + 1 := ⟨n - 1, by omega⟩
  induction hmatch generalizing first cs k done with
  | nil =>
    obtain ⟨gap, hgap, rfl⟩ := hgoes.exists_of_nil
    rw [readItemsWith, nextItem_ended hgap, ok_bind, List.append_nil]
  | @cons i a items as hmeans _ ih =>
    have hi : i.Sound := hsound i List.mem_cons_self
    have hends := hi.ends (stops_goesOn ']' (items.map Item.text) rest)
    have hread := h.read spaces_nil hi.value hends hmeans
    rw [List.length_cons] at hn
    obtain ⟨j, rfl⟩ : ∃ j, k = j + 1 := ⟨k - 1, by omega⟩
    rw [readItemsWith, nextItem_item hi hgoes, ok_bind]
    dsimp only
    rw [List.nil_append] at hread
    rw [hread, ok_bind]
    rw [List.append_cons, ← List.reverse_cons]
    exact ih (fun i' hi' => hsound i' (List.mem_cons_of_mem i hi')) (.later hi.spaced.after) j
      (by omega)

theorem Means.list (h : Means read M) : Means (readList read) (ListMeans M) where
  of_read {cs rest as} hread := by
    obtain ⟨s, hs, hspace⟩ := exists_spaces cs
    unfold readList at hread
    split at hread
    · simp at hread
    · rename_i r hr
      obtain ⟨items, as', hall, hmatch, rfl, hgoes⟩ := forall₂_of_readItemsWith h hread
      obtain ⟨v, hwritten, heq⟩ := hgoes.bracketed '['
      exact ⟨s, v, hs, .of_items hall hwritten, ⟨hall, hwritten, by simpa using hmatch⟩,
        by rw [← heq, ← hr, hspace]⟩
    · simp at hread
  read {s v rest as} hs _ _ hmeans := by
    obtain ⟨hall, hwritten, hmatch⟩ := hmeans
    obtain ⟨inner, rfl, hgoes⟩ := hwritten.goes rest
    have hlength := hgoes.length_le
    rw [List.length_map] at hlength
    have hspace := skipSpace_of_visible (t := '[' :: (inner ++ rest)) hs (visible_cons (by decide))
    rw [readList, List.cons_append, hspace]
    exact readItemsWith_of_forall₂ h hmatch hall (Nat.lt_succ_of_le hlength) hgoes

end List

/-! ### Fields -/

section Fields

variable {name : String} {needed : Bool} {f g : Field α} {record record' : α}

/-- What a field makes of a value does not depend on what stands around the value. -/
def Field.Steady (f : Field α) : Prop := ∀ record, Means (f.read record) fun v record' =>
  f.Reads record record' v

/-- A value is the same one whatever is read of it. -/
theorem Means.iff_of_read {read : Reader α} {M : List Char → α → Prop} (h : Means read M) {a : α} :
    (Value v ∧ ∃ s rest, Spaces s ∧ read (s ++ (v ++ rest)) = .ok (a, rest)) ↔
      Value v ∧ M v a := by
  constructor
  · rintro ⟨hv, s, rest, hs, hread⟩
    obtain ⟨s', v', hs', hv', hmeans, heq⟩ := h.of_read hread
    rw [← List.append_assoc, ← List.append_assoc] at heq
    obtain ⟨-, rfl⟩ := append_inj_of_spaces hs hs' (visible_of_value hv) (visible_of_value hv')
      (List.append_cancel_right heq)
    exact ⟨hv, hmeans⟩
  · rintro ⟨hv, hmeans⟩
    exact ⟨hv, [], [], spaces_nil, h.read spaces_nil hv trivial hmeans⟩

/-- The field puts into a record what its value means. -/
structure Field.Puts (f : Field α) (put : α → β → α) (M : List Char → β → Prop) : Prop where
  steady : f.Steady
  reads_iff : ∀ {record record' v},
    f.Reads record record' v ↔ Value v ∧ ∃ b, M v b ∧ record' = put record b

theorem Field.puts_of_means {put : α → β → α} {M : List Char → β → Prop}
    (h : ∀ record, Means (f.read record) fun v record' => ∃ b, M v b ∧ record' = put record b) :
    f.Puts put M where
  steady record :=
    { of_read := fun hread => by
        obtain ⟨s, v, hs, hv, hmeans, rfl⟩ := (h record).of_read hread
        exact ⟨s, v, hs, hv, (h record).iff_of_read.mpr ⟨hv, hmeans⟩, rfl⟩
      read := fun hs hv hrest hreads =>
        (h record).read hs hv hrest ((h record).iff_of_read.mp hreads).2 }
  reads_iff := (h _).iff_of_read

theorem Means.map {read : Reader β} {M : List Char → β → Prop} (h : Means read M) (g : β → α) :
    Means (fun cs => do
      let (b, rest) ← read cs
      .ok (g b, rest)) fun v a => ∃ b, M v b ∧ a = g b where
  of_read hread := by
    obtain ⟨⟨b, rest'⟩, hb, hok⟩ := bind_eq_ok_iff.mp hread
    cases hok
    obtain ⟨s, v, hs, hv, hmeans, rfl⟩ := h.of_read hb
    exact ⟨s, v, hs, hv, ⟨b, hmeans, rfl⟩, rfl⟩
  read hs hv hrest hmeans := by
    obtain ⟨b, hb, rfl⟩ := hmeans
    dsimp only
    rw [h.read hs hv hrest hb, ok_bind]

theorem textField_puts (name : String) (put : α → String → α) :
    (textField name put).Puts put SpellsText :=
  Field.puts_of_means fun record => means_readText.map (put record)

theorem optionalField_puts {read : Reader β} {M : List Char → β → Prop} (h : Means read M)
    (name : String) (put : α → Option β → α) : (optionalField name read put).Puts put
      (Optionally M) :=
  Field.puts_of_means fun record => h.optional.map (put record)

end Fields

end Rendezvous.Json
