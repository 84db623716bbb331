import Rendezvous.Proofs.Json.Grammar

/-! A text holds a value in one way only: where the value ends, and what stands in its brackets, is
settled by its characters. -/

namespace Rendezvous.Json

theorem Spaces.append {s s' : List Char} (hs : Spaces s) (hs' : Spaces s') : Spaces (s ++ s') := by
  intro c hc
  rcases List.mem_append.mp hc with hc | hc
  · exact hs c hc
  · exact hs' c hc

theorem isSpace_iff {c : Char} :
    isSpace c = true ↔ c = ' ' ∨ c = '\n' ∨ c = '\t' ∨ c = '\r' := by
  simp [isSpace, or_assoc]

/-- A run of characters of one kind ends where another kind begins. -/
theorem append_inj_of_head {p : Char → Bool} {s s' t t' : List Char} (hs : ∀ c ∈ s, p c = true)
    (hs' : ∀ c ∈ s', p c = true) (ht : ∀ c ∈ t.head?, p c = false)
    (ht' : ∀ c ∈ t'.head?, p c = false) (h : s ++ t = s' ++ t') : s = s' ∧ t = t' := by
  have hnone : ∀ t : List Char, (∀ c ∈ t.head?, p c = false) → t.takeWhile p = [] := by
    intro t ht
    cases t with
    | nil => rfl
    | cons c t => simp [ht c rfl]
  have htake := congrArg (List.takeWhile p) h
  rw [List.takeWhile_append_of_pos hs, List.takeWhile_append_of_pos hs', hnone t ht, hnone t' ht',
    List.append_nil, List.append_nil] at htake
  subst htake
  exact ⟨rfl, List.append_cancel_left h⟩

/-- A value can end here: what comes next, if anything, goes on with no number. -/
def Ends : List Char → Prop
  | [] => True
  | c :: _ => isSpace c = true ∨ c = ',' ∨ c = ']' ∨ c = '\x7d'

theorem Spaces.ends {s t : List Char} (hs : Spaces s) (ht : Ends t) : Ends (s ++ t) := by
  cases s with
  | nil => exact ht
  | cons c s => exact .inl (hs c (by simp))

def isNumeric (c : Char) : Bool := c.isDigit || ['.', 'e', 'E', '+', '-'].contains c

theorem isNumeric_of_isDigit {c : Char} (h : c.isDigit = true) : isNumeric c = true := by
  simp [isNumeric, h]

theorem Digits.isNumeric {ds : List Char} (h : Digits ds) : ∀ c ∈ ds, isNumeric c = true :=
  fun c hc => isNumeric_of_isDigit (h.digits c hc)

theorem Unsigned.isNumeric {n : List Char} (h : Unsigned n) : ∀ c ∈ n, isNumeric c = true := by
  obtain @⟨w, f, e, hw, hf, he⟩ := h
  have hwhole : ∀ c ∈ w, Json.isNumeric c = true := by
    cases hw with
    | zero =>
      intro c hc
      rw [List.mem_singleton.mp hc]
      decide
    | digits first _ rest =>
      intro c hc
      rcases List.mem_cons.mp hc with rfl | hc
      · exact isNumeric_of_isDigit first
      · exact isNumeric_of_isDigit (rest c hc)
  have hfraction : ∀ c ∈ f, Json.isNumeric c = true := by
    cases hf with
    | none => simp
    | some digits =>
      intro c hc
      rcases List.mem_cons.mp hc with rfl | hc
      · decide
      · exact digits.isNumeric c hc
  have hexponent : ∀ c ∈ e, Json.isNumeric c = true := by
    cases he with
    | none => simp
    | some letter optional digits =>
      intro c hc
      rcases List.mem_cons.mp hc with rfl | hc
      · rcases letter with rfl | rfl <;> decide
      rcases List.mem_append.mp hc with hc | hc
      · rcases optional with rfl | rfl | rfl <;> simp_all [Json.isNumeric]
      · exact digits.isNumeric c hc
  intro c hc
  rcases List.mem_append.mp hc with hc | hc
  · exact hwhole c hc
  rcases List.mem_append.mp hc with hc | hc
  · exact hfraction c hc
  · exact hexponent c hc

theorem Unsigned.exists_digit {n : List Char} (h : Unsigned n) :
    ∃ c r, n = c :: r ∧ c.isDigit = true := by
  obtain @⟨w, f, e, hw, hf, he⟩ := h
  cases hw with
  | zero => exact ⟨_, _, rfl, by decide⟩
  | digits first _ _ => exact ⟨_, _, rfl, first⟩

theorem Ends.not_isNumeric {t : List Char} (h : Ends t) : ∀ c ∈ t.head?, isNumeric c = false := by
  cases t with
  | nil => simp
  | cons c t =>
    intro d hd
    cases hd
    rcases h with h | rfl | rfl | rfl
    · rcases isSpace_iff.mp h with rfl | rfl | rfl | rfl <;> decide
    all_goals decide

theorem Unsigned.unique {n n' t t' : List Char} (hn : Unsigned n) (hn' : Unsigned n') (ht : Ends t)
    (ht' : Ends t') (h : n ++ t = n' ++ t') : n = n' ∧ t = t' :=
  append_inj_of_head hn.isNumeric hn'.isNumeric ht.not_isNumeric ht'.not_isNumeric h

theorem StringBody.unique {b b' t t' : List Char} (hb : StringBody b) (hb' : StringBody b')
    (h : b ++ '"' :: t = b' ++ '"' :: t') : b = b' ∧ t = t' := by
  induction hb generalizing b' with
  | nil =>
    cases hb' with
    | nil => simpa using h
    | char quote _ _ _ =>
      simp only [List.nil_append, List.cons_append, List.cons.injEq] at h
      exact absurd h.1.symm quote
    | _ => simp at h
  | @char c r quote escape _ _ ih =>
    cases hb' with
    | nil =>
      simp only [List.nil_append, List.cons_append, List.cons.injEq] at h
      exact absurd h.1 quote
    | char _ _ _ rest' =>
      simp only [List.cons_append, List.cons.injEq] at h
      obtain ⟨rfl, h⟩ := h
      obtain ⟨rfl, rfl⟩ := ih rest' h
      exact ⟨rfl, rfl⟩
    | _ =>
      simp only [List.cons_append, List.cons.injEq] at h
      exact absurd h.1 escape
  | @short e r letter _ ih =>
    cases hb' with
    | nil => simp at h
    | char _ escape' _ _ =>
      simp only [List.cons_append, List.cons.injEq] at h
      exact absurd h.1.symm escape'
    | short _ rest' =>
      simp only [List.cons_append, List.cons.injEq, true_and] at h
      obtain ⟨rfl, h⟩ := h
      obtain ⟨rfl, rfl⟩ := ih rest' h
      exact ⟨rfl, rfl⟩
    | code _ _ =>
      simp only [List.cons_append, List.cons.injEq, true_and] at h
      rw [h.1] at letter
      exact absurd letter (by decide)
  | code hex _ ih =>
    cases hb' with
    | nil => simp at h
    | char _ escape' _ _ =>
      simp only [List.cons_append, List.cons.injEq] at h
      exact absurd h.1.symm escape'
    | short letter' _ =>
      simp only [List.cons_append, List.cons.injEq, true_and] at h
      rw [← h.1] at letter'
      exact absurd letter' (by decide)
    | code _ rest' =>
      simp only [List.cons_append, List.cons.injEq, true_and] at h
      obtain ⟨rfl, rfl, rfl, rfl, h⟩ := h
      obtain ⟨rfl, rfl⟩ := ih rest' h
      exact ⟨rfl, rfl⟩

/-- Between the same quotes stands one text only. -/
theorem Spells.unique {b s s' : List Char} (h : Spells b s) (h' : Spells b s') : s = s' := by
  induction h generalizing s' with
  | nil =>
    cases h'
    rfl
  | char quote escape _ _ ih =>
    cases h' with
    | char _ _ _ rest' => rw [ih rest']
    | _ => exact absurd rfl escape
  | short letter _ ih =>
    cases h' with
    | char _ escape' _ _ => exact absurd rfl escape'
    | short _ rest' => rw [ih rest']
    | _ => exact absurd letter (by decide)
  | code _ _ high _ ih =>
    cases h' with
    | char _ escape' _ _ => exact absurd rfl escape'
    | short letter' _ => exact absurd letter' (by decide)
    | code _ _ _ rest' => rw [ih rest']
    | pair _ _ high' _ _ => simp [high] at high'
  | pair _ _ high _ _ ih =>
    cases h' with
    | char _ escape' _ _ => exact absurd rfl escape'
    | short letter' _ => exact absurd letter' (by decide)
    | code _ _ high' _ => simp [high] at high'
    | pair _ _ _ _ rest' => rw [ih rest']

/-- What a value that begins with `c` goes on with. -/
def Begins (c : Char) (t : List Char) : Prop :=
  if c = 'n' then t = ['u', 'l', 'l']
  else if c = 't' then t = ['r', 'u', 'e']
  else if c = 'f' then t = ['a', 'l', 's', 'e']
  else if c = '-' then Unsigned t
  else if c = '"' then ∃ b, StringBody b ∧ t = b ++ ['"']
  else if c = '[' then ∃ items, (∀ i ∈ items, i.Sound) ∧ ListText items (c :: t)
  else if c = '\x7b' then ∃ members, (∀ m ∈ members, m.Sound) ∧ ObjectText members (c :: t)
  else c.isDigit = true ∧ Unsigned (c :: t)

theorem begins_digit {c : Char} {t : List Char} (hc : c.isDigit = true) :
    Begins c t ↔ Unsigned (c :: t) := by
  have hne : ∀ d : Char, d.isDigit = false → c ≠ d := by
    rintro d hd rfl
    rw [hc] at hd
    cases hd
  unfold Begins
  rw [if_neg (hne _ (by decide)), if_neg (hne _ (by decide)), if_neg (hne _ (by decide)),
    if_neg (hne _ (by decide)), if_neg (hne _ (by decide)), if_neg (hne _ (by decide)),
    if_neg (hne _ (by decide))]
  simp [hc]

theorem Bracketed.exists_inner {opening closing : Char} {ts : List (List Char)} {text : List Char}
    (h : Bracketed opening closing ts text) : ∃ inner, text = opening :: inner := by
  cases h <;> exact ⟨_, rfl⟩

theorem Value.exists_begins {v : List Char} (h : Value v) : ∃ c t, v = c :: t ∧ Begins c t := by
  cases h with
  | number number =>
    obtain ⟨c, r, rfl, hc⟩ := number.exists_digit
    exact ⟨c, r, rfl, (begins_digit hc).mpr number⟩
  | negative number => exact ⟨_, _, rfl, number⟩
  | string body => exact ⟨_, _, rfl, _, body, rfl⟩
  | list spaced values written =>
    obtain ⟨inner, rfl⟩ := written.exists_inner
    exact ⟨_, _, rfl, _, fun i hi => ⟨spaced i hi, values i hi⟩, written⟩
  | object spaced keys values written =>
    obtain ⟨inner, rfl⟩ := written.exists_inner
    exact ⟨_, _, rfl, _, fun m hm => ⟨spaced m hm, keys m hm, values m hm⟩, written⟩
  | _ => exact ⟨_, _, rfl, rfl⟩

/-- The text begins with something to be seen. -/
def Visible (t : List Char) : Prop := ∃ c r, t = c :: r ∧ isSpace c = false

theorem visible_cons {c : Char} {r : List Char} (h : isSpace c = false) : Visible (c :: r) :=
  ⟨c, r, rfl, h⟩

theorem Visible.append {v : List Char} (h : Visible v) (t : List Char) : Visible (v ++ t) := by
  obtain ⟨c, r, rfl, hc⟩ := h
  exact visible_cons hc

theorem visible_of_value {v : List Char} (h : Value v) : Visible v := by
  obtain ⟨c, t, rfl, hb⟩ := h.exists_begins
  refine visible_cons ?_
  by_cases hc : isSpace c = true
  · rcases isSpace_iff.mp hc with rfl | rfl | rfl | rfl <;>
      exact absurd hb (by simp [Begins, Char.isDigit])
  · simpa using hc

theorem append_inj_of_spaces {s s' t t' : List Char} (hs : Spaces s) (hs' : Spaces s')
    (ht : Visible t) (ht' : Visible t') (h : s ++ t = s' ++ t') : s = s' ∧ t = t' := by
  obtain ⟨c, r, rfl, hc⟩ := ht
  obtain ⟨c', r', rfl, hc'⟩ := ht'
  exact append_inj_of_head hs hs' (by simpa using hc) (by simpa using hc') h

/-- Wherever the text `v` can stand as a value, no other one can. -/
def Alone (v : List Char) : Prop :=
  ∀ {v' t t' : List Char}, Value v' → Ends t → Ends t' → v ++ t = v' ++ t' → v = v' ∧ t = t'

/-- What comes next ends an item or what the items stand in. -/
def Stops (closing : Char) (t : List Char) : Prop := ∃ c r, t = c :: r ∧ (c = ',' ∨ c = closing)

theorem Stops.visible {closing : Char} {t : List Char} (h : Stops closing t)
    (hc : isSpace closing = false) : Visible t := by
  obtain ⟨c, r, rfl, rfl | rfl⟩ := h
  · exact visible_cons (by decide)
  · exact visible_cons hc

theorem Item.unique {closing : Char} (hclosing : closing = ']' ∨ closing = '\x7d') {i j : Item}
    {t t' : List Char} (hi : i.Sound) (hj : j.Sound) (halone : Alone i.value)
    (ht : Stops closing t) (ht' : Stops closing t') (h : i.text ++ t = j.text ++ t') :
    i = j ∧ t = t' := by
  have hspace : isSpace closing = false := by rcases hclosing with rfl | rfl <;> decide
  have hends : ∀ {t}, Stops closing t → Ends t := by
    rintro t ⟨c, r, rfl, rfl | rfl⟩
    · exact .inr (.inl rfl)
    · exact .inr (.inr hclosing)
  simp only [Item.text, List.append_assoc] at h
  obtain ⟨hbefore, h⟩ := append_inj_of_spaces hi.spaced.before hj.spaced.before
    ((visible_of_value hi.value).append _) ((visible_of_value hj.value).append _) h
  obtain ⟨hvalue, h⟩ := halone hj.value (hi.spaced.after.ends (hends ht))
    (hj.spaced.after.ends (hends ht')) h
  obtain ⟨hafter, hrest⟩ := append_inj_of_spaces hi.spaced.after hj.spaced.after
    (ht.visible hspace) (ht'.visible hspace) h
  obtain ⟨b, v, a⟩ := i
  obtain ⟨b', v', a'⟩ := j
  dsimp only at hbefore hvalue hafter
  subst hbefore hvalue hafter
  exact ⟨rfl, hrest⟩

theorem Member.unique {m n : Member} {t t' : List Char} (hm : m.Sound) (hn : n.Sound)
    (halone : Alone m.value) (ht : Stops '\x7d' t) (ht' : Stops '\x7d' t')
    (h : m.text ++ t = n.text ++ t') : m = n ∧ t = t' := by
  simp only [Member.text, List.append_assoc, List.cons_append] at h
  obtain ⟨hbefore, h⟩ := append_inj_of_spaces hm.spaced.before hn.spaced.before
    (visible_cons (by decide)) (visible_cons (by decide)) h
  obtain ⟨hkey, h⟩ := hm.key.unique hn.key (List.cons.inj h).2
  obtain ⟨hbetween, h⟩ := append_inj_of_spaces hm.spaced.between hn.spaced.between
    (visible_cons (by decide)) (visible_cons (by decide)) h
  obtain ⟨hitem, hrest⟩ := Item.unique (.inr rfl) ⟨hm.spaced.item, hm.value⟩
    ⟨hn.spaced.item, hn.value⟩ halone ht ht' (List.cons.inj h).2
  obtain ⟨b, k, s, i⟩ := m
  obtain ⟨b', k', s', i'⟩ := n
  dsimp only at hbefore hkey hbetween hitem
  subst hbefore hkey hbetween hitem
  exact ⟨rfl, hrest⟩

section Bracketed

variable {ι : Type} {text : ι → List Char} {opening closing : Char} {xs ys : List ι}
  {t t' v v' : List Char}

/-- One of the texts `xs` is not mistaken for one of `ys`. -/
def Apart (text : ι → List Char) (closing : Char) (xs ys : List ι) : Prop :=
  ∀ x ∈ xs, ∀ y ∈ ys, ∀ {t t'}, Stops closing t → Stops closing t' →
    text x ++ t = text y ++ t' → x = y ∧ t = t'

theorem stops_flatMap (closing : Char) (ts : List (List Char)) (t : List Char) :
    Stops closing (ts.flatMap (',' :: ·) ++ closing :: t) := by
  cases ts with
  | nil => exact ⟨_, _, rfl, .inr rfl⟩
  | cons t ts => exact ⟨_, _, rfl, .inl rfl⟩

theorem flatMap_unique (hclosing : closing ≠ ',') (hapart : Apart text closing xs ys)
    (h : (xs.map text).flatMap (',' :: ·) ++ closing :: t =
      (ys.map text).flatMap (',' :: ·) ++ closing :: t') : xs = ys ∧ t = t' := by
  induction xs generalizing ys with
  | nil =>
    cases ys with
    | nil => simpa using h
    | cons y ys => exact absurd (List.cons.inj h).1 hclosing
  | cons x xs ih =>
    cases ys with
    | nil => exact absurd (List.cons.inj h).1.symm hclosing
    | cons y ys =>
      simp only [List.map_cons, List.flatMap_cons, List.cons_append, List.append_assoc,
        List.cons.injEq, true_and] at h
      obtain ⟨hxy, hrest⟩ :=
        hapart x (by simp) y (by simp) (stops_flatMap ..) (stops_flatMap ..) h
      obtain ⟨hxs, ht⟩ := ih (fun x hx y hy => hapart x (by simp [hx]) y (by simp [hy])) hrest
      exact ⟨by rw [hxy, hxs], ht⟩

theorem Bracketed.unique (hclosing : closing ≠ ',' ∧ isSpace closing = false)
    (hapart : Apart text closing xs ys)
    (hshown : ∀ x ∈ xs ++ ys, ∀ {gap t t'}, Spaces gap → text x ++ t ≠ gap ++ closing :: t')
    (hv : Bracketed opening closing (xs.map text) v)
    (hv' : Bracketed opening closing (ys.map text) v') (h : v ++ t = v' ++ t') :
    xs = ys ∧ v = v' ∧ t = t' := by
  cases xs with
  | nil =>
    cases ys with
    | nil =>
      cases hv with
      | empty hgap =>
        cases hv' with
        | empty hgap' =>
          simp only [List.cons_append, List.append_assoc, List.nil_append, List.cons.injEq,
            true_and] at h
          obtain ⟨hgaps, hrest⟩ := append_inj_of_spaces hgap hgap' (visible_cons hclosing.2)
            (visible_cons hclosing.2) h
          exact ⟨rfl, by rw [hgaps], (List.cons.inj hrest).2⟩
    | cons y ys =>
      cases hv with
      | empty hgap =>
        cases hv' with
        | texts =>
          simp only [List.cons_append, List.append_assoc, List.nil_append, List.cons.injEq,
            true_and] at h
          exact absurd h.symm (hshown y (by simp) hgap)
  | cons x xs =>
    cases hv with
    | texts =>
      cases ys with
      | nil =>
        cases hv' with
        | empty hgap =>
          simp only [List.cons_append, List.append_assoc, List.nil_append, List.cons.injEq,
            true_and] at h
          exact absurd h (hshown x (by simp) hgap)
      | cons y ys =>
        cases hv' with
        | texts =>
          simp only [List.cons_append, List.append_assoc, List.nil_append, List.cons.injEq,
            true_and] at h
          have hcomma : ((x :: xs).map text).flatMap (',' :: ·) ++ closing :: t =
              ((y :: ys).map text).flatMap (',' :: ·) ++ closing :: t' := by
            simpa using h
          obtain ⟨heq, rfl⟩ := flatMap_unique hclosing.1 hapart hcomma
          cases heq
          exact ⟨rfl, rfl, rfl⟩

end Bracketed

theorem ListText.unique {items items' : List Item} {v v' t t' : List Char}
    (hitems : ∀ i ∈ items, i.Sound ∧ Alone i.value) (hitems' : ∀ i ∈ items', i.Sound)
    (hv : ListText items v) (hv' : ListText items' v') (h : v ++ t = v' ++ t') :
    items = items' ∧ v = v' ∧ t = t' := by
  refine Bracketed.unique (by decide) ?_ ?_ hv hv' h
  · intro i hi j hj t t' ht ht' h
    exact Item.unique (.inl rfl) (hitems i hi).1 (hitems' j hj) (hitems i hi).2 ht ht' h
  · intro i hi gap t t' hgap h
    have hsound : i.Sound := by
      rcases List.mem_append.mp hi with hi | hi
      · exact (hitems i hi).1
      · exact hitems' i hi
    simp only [Item.text, List.append_assoc] at h
    obtain ⟨-, hrest⟩ := append_inj_of_spaces hsound.spaced.before hgap
      ((visible_of_value hsound.value).append _) (visible_cons (by decide)) h
    obtain ⟨c, r, hc, hb⟩ := hsound.value.exists_begins
    rw [hc] at hrest
    rw [(List.cons.inj hrest).1] at hb
    exact absurd hb (by simp [Begins, Char.isDigit])

theorem ObjectText.unique {members members' : List Member} {v v' t t' : List Char}
    (hmembers : ∀ m ∈ members, m.Sound ∧ Alone m.value) (hmembers' : ∀ m ∈ members', m.Sound)
    (hv : ObjectText members v) (hv' : ObjectText members' v') (h : v ++ t = v' ++ t') :
    members = members' ∧ v = v' ∧ t = t' := by
  refine Bracketed.unique (by decide) ?_ ?_ hv hv' h
  · intro m hm n hn t t' ht ht' h
    exact Member.unique (hmembers m hm).1 (hmembers' n hn) (hmembers m hm).2 ht ht' h
  · intro m hm gap t t' hgap h
    have hsound : m.Sound := by
      rcases List.mem_append.mp hm with hm | hm
      · exact (hmembers m hm).1
      · exact hmembers' m hm
    simp only [Member.text, List.append_assoc, List.cons_append] at h
    obtain ⟨-, hrest⟩ := append_inj_of_spaces hsound.spaced.before hgap (visible_cons (by decide))
      (visible_cons (by decide)) h
    exact absurd (List.cons.inj hrest).1 (by decide)

theorem alone_of_begins {c : Char} {r : List Char}
    (h : ∀ {r' t t'}, Begins c r' → Ends t → Ends t' → r ++ t = r' ++ t' → r = r' ∧ t = t') :
    Alone (c :: r) := by
  intro v' t t' hv' ht ht' heq
  obtain ⟨c', r', rfl, hb⟩ := hv'.exists_begins
  obtain ⟨rfl, hrest⟩ := List.cons.inj heq
  obtain ⟨rfl, rfl⟩ := h hb ht ht' hrest
  exact ⟨rfl, rfl⟩

theorem alone_of_word {c : Char} {r : List Char} (h : ∀ r', Begins c r' → r' = r) :
    Alone (c :: r) := by
  apply alone_of_begins
  intro r' t t' hb _ _ heq
  rw [h r' hb] at heq ⊢
  exact ⟨rfl, List.append_cancel_left heq⟩

/-- A value and what stands behind it are told apart in one way only. -/
theorem Value.alone {v : List Char} (h : Value v) : Alone v := by
  induction h with
  | null => exact alone_of_word (by simp [Begins])
  | true => exact alone_of_word (by simp [Begins])
  | false => exact alone_of_word (by simp [Begins])
  | number number =>
    obtain ⟨c, r, rfl, hc⟩ := number.exists_digit
    apply alone_of_begins
    intro r' t t' hb ht ht' heq
    obtain ⟨hn, hrest⟩ :=
      number.unique ((begins_digit hc).mp hb) ht ht' (congrArg (List.cons c) heq)
    exact ⟨(List.cons.inj hn).2, hrest⟩
  | negative number =>
    apply alone_of_begins
    intro r' t t' hb ht ht' heq
    have hr : Unsigned r' := by simpa [Begins] using hb
    exact number.unique hr ht ht' heq
  | string body =>
    apply alone_of_begins
    intro r' t t' hb _ _ heq
    obtain ⟨b', hb', rfl⟩ : ∃ b, StringBody b ∧ r' = b ++ ['"'] := by simpa [Begins] using hb
    obtain ⟨rfl, hrest⟩ := body.unique hb' (by simpa using heq)
    exact ⟨rfl, hrest⟩
  | list spaced values written ih =>
    obtain ⟨inner, rfl⟩ := written.exists_inner
    apply alone_of_begins
    intro r' t t' hb _ _ heq
    obtain ⟨items', hsound, written'⟩ :
        ∃ items, (∀ i ∈ items, i.Sound) ∧ ListText items ('[' :: r') := by simpa [Begins] using hb
    obtain ⟨-, hv, hrest⟩ := written.unique (fun i hi => ⟨⟨spaced i hi, values i hi⟩, ih i hi⟩)
      hsound written' (congrArg (List.cons '[') heq)
    exact ⟨(List.cons.inj hv).2, hrest⟩
  | object spaced keys values written ih =>
    obtain ⟨inner, rfl⟩ := written.exists_inner
    apply alone_of_begins
    intro r' t t' hb _ _ heq
    obtain ⟨members', hsound, written'⟩ : ∃ members, (∀ m ∈ members, m.Sound) ∧
        ObjectText members ('\x7b' :: r') := by simpa [Begins] using hb
    obtain ⟨-, hv, hrest⟩ := written.unique
      (fun m hm => ⟨⟨spaced m hm, keys m hm, values m hm⟩, ih m hm⟩) hsound written'
      (congrArg (List.cons '\x7b') heq)
    exact ⟨(List.cons.inj hv).2, hrest⟩

/-- The white space around a value is no part of it. -/
theorem Surrounds.unique {text v w : List Char} (h : Surrounds text v) (h' : Surrounds text w)
    (hv : Value v) (hw : Value w) : v = w := by
  obtain ⟨s, s', hs, hs', rfl⟩ := h
  obtain ⟨t, t', ht, ht', heq⟩ := h'
  have hends : ∀ {s : List Char}, Spaces s → Ends s := by
    intro s hs
    simpa using hs.ends (t := []) trivial
  obtain ⟨-, hrest⟩ := append_inj_of_spaces hs ht ((visible_of_value hv).append _)
    ((visible_of_value hw).append _) heq
  exact (hv.alone hw (hends hs') (hends ht') hrest).1

theorem Surrounds.isInfix {text v : List Char} (h : Surrounds text v) : v <:+: text := by
  obtain ⟨s, s', -, -, rfl⟩ := h
  exact ⟨s, s', List.append_assoc ..⟩

theorem ObjectText.members_unique {members members' : List Member} {v : List Char}
    (h : ∀ m ∈ members, m.Sound) (h' : ∀ m ∈ members', m.Sound) (hv : ObjectText members v)
    (hv' : ObjectText members' v) : members = members' :=
  (ObjectText.unique (fun m hm => ⟨h m hm, (h m hm).value.alone⟩) h' hv hv'
    (rfl : v ++ [] = v ++ [])).1

theorem ListText.items_unique {items items' : List Item} {v : List Char}
    (h : ∀ i ∈ items, i.Sound) (h' : ∀ i ∈ items', i.Sound) (hv : ListText items v)
    (hv' : ListText items' v) : items = items' :=
  (ListText.unique (fun i hi => ⟨h i hi, (h i hi).value.alone⟩) h' hv hv'
    (rfl : v ++ [] = v ++ [])).1

theorem ObjectText.not_list {members : List Member} {items : List Item} {v : List Char}
    (hv : ObjectText members v) (hv' : ListText items v) : False := by
  obtain ⟨inner, rfl⟩ := hv.exists_inner
  obtain ⟨inner', hinner⟩ := hv'.exists_inner
  exact absurd (List.cons.inj hinner).1 (by decide)

end Rendezvous.Json
