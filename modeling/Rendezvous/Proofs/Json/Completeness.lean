import Rendezvous.Proofs.Json.Scanning
import Rendezvous.Proofs.Json.Uniqueness
import Rendezvous.Proofs.Text.Runs

/-! The converse of scanning: what the grammar allows is taken, to its last character. -/

namespace Rendezvous.Json

variable {s t v rest : List Char}

theorem skipSpace_of_visible (hs : Spaces s) (ht : Visible t) : skipSpace (s ++ t) = t := by
  obtain ⟨c, r, rfl, hc⟩ := ht
  refine dropWhile_append_stop hs ?_
  rintro _ ⟨⟩
  exact hc

theorem skipWord_append (ws rest : List Char) : skipWord ws (ws ++ rest) = .ok rest := by
  induction ws with
  | nil => rfl
  | cons w ws ih => rw [List.cons_append, skipWord, if_pos rfl, ih]

theorem skipColon_append (hs : Spaces s) (rest : List Char) :
    skipColon (s ++ ':' :: rest) = .ok rest := by
  have hspace := skipSpace_of_visible (t := ':' :: rest) hs (visible_cons (by decide))
  simp [skipColon, hspace]

/-! ### Numbers -/

/-- What comes next goes on with no number. -/
def EndsNumber (t : List Char) : Prop := ∀ c ∈ t.head?, isNumeric c = false

section Number

variable {ds x f n : List Char}

theorem EndsNumber.not_digit (h : EndsNumber rest) : ∀ c ∈ rest.head?, c.isDigit = false := by
  intro c hc
  have hnumeric := h c hc
  simp only [isNumeric, Bool.or_eq_false_iff] at hnumeric
  exact hnumeric.1

theorem EndsNumber.ne (h : EndsNumber rest) {c : Char} (hc : isNumeric c = true) (r : List Char) :
    rest ≠ c :: r := by
  rintro rfl
  rw [h c rfl] at hc
  cases hc

theorem Digits.exists_cons (h : Digits ds) :
    ∃ d r, ds = d :: r ∧ d.isDigit = true ∧ ∀ c ∈ r, c.isDigit = true := by
  obtain ⟨d, r, rfl⟩ := List.exists_cons_of_ne_nil h.ne_nil
  exact ⟨d, r, rfl, h.digits d List.mem_cons_self,
    fun c hc => h.digits c (List.mem_cons_of_mem d hc)⟩

theorem skipExponent_of_digits (hrest : EndsNumber rest) {sign : List Char}
    (hsign : sign = [] ∨ sign = ['+'] ∨ sign = ['-']) (hds : Digits ds) :
    skipExponent (sign ++ (ds ++ rest)) = .ok rest := by
  obtain ⟨d, r, rfl, hd, hr⟩ := hds.exists_cons
  have hdrop := dropWhile_append_stop hr hrest.not_digit
  rcases hsign with rfl | rfl | rfl
  · -- A digit is no sign.
    have hplus : d ≠ '+' := by
      rintro rfl
      exact absurd hd (by decide)
    have hminus : d ≠ '-' := by
      rintro rfl
      exact absurd hd (by decide)
    simp [skipExponent, hplus, hminus, hd, hdrop]
  · simp [skipExponent, hd, hdrop]
  · simp [skipExponent, hd, hdrop]

theorem skipScale_of_exponent (hrest : EndsNumber rest) (hx : Exponent x) :
    skipScale (x ++ rest) = .ok rest := by
  cases hx with
  | none =>
    rw [List.nil_append]
    unfold skipScale
    split
    · exact absurd rfl (hrest.ne (by decide) _)
    · exact absurd rfl (hrest.ne (by decide) _)
    · rfl
  | @some e sign ds letter optional digits =>
    have hskip := skipExponent_of_digits hrest optional digits
    rw [List.cons_append, List.append_assoc]
    rcases letter with rfl | rfl
    · exact hskip
    · exact hskip

theorem head_exponent (hrest : EndsNumber rest) (hx : Exponent x) :
    ∀ c ∈ (x ++ rest).head?, c.isDigit = false ∧ c ≠ '.' := by
  cases hx with
  | none =>
    intro c hc
    refine ⟨hrest.not_digit c hc, ?_⟩
    rintro rfl
    exact absurd (hrest '.' hc) (by decide)
  | some letter _ _ =>
    rintro c ⟨⟩
    rcases letter with rfl | rfl <;> decide

theorem skipFraction_of_fraction (hrest : EndsNumber rest) (hf : Fraction f) (hx : Exponent x) :
    skipFraction (f ++ (x ++ rest)) = .ok rest := by
  have hscale := skipScale_of_exponent hrest hx
  have hhead := head_exponent hrest hx
  generalize x ++ rest = more at hscale hhead ⊢
  cases hf with
  | none =>
    rw [List.nil_append]
    unfold skipFraction
    split
    · exact absurd rfl (hhead '.' rfl).2
    · exact absurd rfl (hhead '.' rfl).2
    · exact hscale
  | some digits =>
    obtain ⟨d, r, rfl, hd, hr⟩ := digits.exists_cons
    have hdrop := dropWhile_append_stop hr fun c hc => (hhead c hc).1
    simp only [List.cons_append, skipFraction, hd, if_true, hdrop]
    exact hscale

theorem head_fraction (hrest : EndsNumber rest) (hf : Fraction f) (hx : Exponent x) :
    ∀ c ∈ (f ++ (x ++ rest)).head?, c.isDigit = false := by
  cases hf with
  | none => exact fun c hc => (head_exponent hrest hx c hc).1
  | some _ =>
    rintro c ⟨⟩
    decide

theorem skipNumber_of_unsigned (hrest : EndsNumber rest) (hn : Unsigned n) :
    skipNumber (n ++ rest) = .ok rest := by
  obtain @⟨w, f, x, hw, hf, hx⟩ := hn
  have hfraction := skipFraction_of_fraction hrest hf hx
  have hhead := head_fraction hrest hf hx
  rw [List.append_assoc, List.append_assoc]
  generalize f ++ (x ++ rest) = more at hfraction hhead ⊢
  cases hw with
  | zero =>
    cases more with
    | nil => exact hfraction
    | cons c r =>
      have hc : c.isDigit = false := hhead c rfl
      simp only [List.cons_append, List.nil_append, skipNumber, hc, Bool.false_eq_true, if_false]
      exact hfraction
  | @digits c r first nonzero hr =>
    have hdrop := dropWhile_append_stop hr hhead
    rw [List.cons_append]
    unfold skipNumber
    split
    · rename_i h
      cases h
    · rename_i h
      exact absurd (List.cons.inj h).1 nonzero
    · rename_i h
      cases h
      rw [if_pos first, hdrop]
      exact hfraction

end Number

/-! ### Strings -/

section String

variable {e : Char} {b text : List Char}

theorem skipString_quote (rest : List Char) : skipString ('"' :: rest) = .ok rest := by
  unfold skipString
  simp

theorem ne_of_isShortEscape (h : isShortEscape e = true) : e ≠ 'u' := by
  rintro rfl
  exact absurd h (by decide)

theorem skipString_of_stringBody (hb : StringBody b) (rest : List Char) :
    skipString (b ++ '"' :: rest) = .ok rest := by
  induction hb with
  | nil => exact skipString_quote rest
  | char quote escape control _ ih =>
    rw [List.cons_append]
    unfold skipString
    simp [quote, escape, control, ih]
  | short letter _ ih =>
    rw [List.cons_append, List.cons_append]
    unfold skipString
    simp [ne_of_isShortEscape letter, letter, ih]
  | code hex _ ih =>
    simp only [List.cons_append]
    unfold skipString
    simp [hex, ih]

theorem readString_of_spells (hb : Spells b text) (done rest : List Char) :
    readString done (b ++ '"' :: rest) = .ok (done.reverse ++ text, rest) := by
  induction hb generalizing done with
  | nil =>
    rw [List.nil_append]
    unfold readString
    simp
  | char quote escape control _ ih =>
    rw [List.cons_append]
    unfold readString
    simp [quote, escape, control, ih]
  | short letter _ ih =>
    rw [List.cons_append, List.cons_append]
    unfold readString
    simp [ne_of_isShortEscape letter, letter, ih]
  | code hex low high _ ih =>
    simp only [List.cons_append]
    unfold readString
    simp [hex, low, high, ih]
  | @pair x y z w x' y' z' w' r s hex hex' high low _ ih =>
    have hlow : isLowSurrogate (codeUnit x y z w) = false := by
      simp only [isHighSurrogate, isLowSurrogate, Bool.and_eq_true, decide_eq_true_eq,
        Bool.and_eq_false_iff, decide_eq_false_iff_not] at high ⊢
      omega
    simp only [List.cons_append]
    unfold readString
    simp [hex, hex', hlow, high, low, ih]

end String

/-! ### Values -/

theorem Ends.endsNumber (h : Ends rest) : EndsNumber rest := h.not_isNumeric

theorem Stops.ends {closing : Char} (h : Stops closing t)
    (hclosing : closing = ']' ∨ closing = '\x7d') : Ends t := by
  obtain ⟨c, r, rfl, rfl | rfl⟩ := h
  · exact .inr (.inl rfl)
  · exact .inr (.inr hclosing)

/-- The value is passed over wherever it stands, in as many steps as it has characters. -/
def Passed (v : List Char) : Prop :=
  ∀ {n : Nat} {s rest : List Char}, v.length ≤ n → Spaces s → Ends rest →
    skipValueWithin n (s ++ (v ++ rest)) = .ok rest

/-- How a text goes on behind one of the texts in brackets. -/
def goesOn (closing : Char) (ts : List (List Char)) (rest : List Char) : List Char :=
  ts.flatMap (',' :: ·) ++ closing :: rest

theorem goesOn_cons (closing : Char) (t : List Char) (ts : List (List Char)) (rest : List Char) :
    goesOn closing (t :: ts) rest = ',' :: (t ++ goesOn closing ts rest) := by
  simp [goesOn]

theorem stops_goesOn (closing : Char) (ts : List (List Char)) (rest : List Char) :
    Stops closing (goesOn closing ts rest) := stops_flatMap closing ts rest

theorem skipSpace_goesOn {gap : List Char} (hgap : Spaces gap) (closing : Char) (t : List Char)
    (ts : List (List Char)) (rest : List Char) :
    skipSpace (gap ++ goesOn closing (t :: ts) rest) = ',' :: (t ++ goesOn closing ts rest) := by
  rw [goesOn_cons]
  exact skipSpace_of_visible hgap (visible_cons (by decide))

theorem length_lt_goesOn (closing : Char) (ts : List (List Char)) (rest : List Char) :
    rest.length < (goesOn closing ts rest).length := by
  simp only [goesOn, List.length_append, List.length_cons]
  omega

theorem goesOn_eq_append (closing : Char) (ts : List (List Char)) (rest : List Char) :
    ts.flatMap (',' :: ·) ++ [closing] ++ rest = goesOn closing ts rest := by
  simp [goesOn]

section Within

variable {n : Nat} {i : Item} {m : Member} {items : List Item} {members : List Member}

theorem Item.Sound.ends (hi : i.Sound) (ht : Stops ']' t) : Ends (i.after ++ t) :=
  hi.spaced.after.ends (ht.ends (.inl rfl))

theorem Member.Sound.ends (hm : m.Sound) (ht : Stops '\x7d' t) : Ends (m.item.after ++ t) :=
  hm.spaced.item.after.ends (ht.ends (.inr rfl))

theorem skipValueWithin_item (hi : i.Sound) (hp : Passed i.value) (hn : i.value.length ≤ n)
    (ht : Stops ']' t) : skipValueWithin n (i.text ++ t) = .ok (i.after ++ t) := by
  rw [Item.text, List.append_assoc, List.append_assoc]
  exact hp hn hi.spaced.before (hi.ends ht)

theorem skipSpace_item (hi : i.Sound) (t : List Char) :
    skipSpace (i.text ++ t) = i.value ++ (i.after ++ t) := by
  have hvalue := skipSpace_of_visible hi.spaced.before
    ((visible_of_value hi.value).append (i.after ++ t))
  simpa [Item.text] using hvalue

theorem skipSpace_member (hm : m.Sound) (t : List Char) :
    skipSpace (m.text ++ t) = '"' :: (m.key ++ '"' ::
      (m.between ++ ':' :: (m.item.before ++ (m.value ++ (m.item.after ++ t))))) := by
  have hquote := skipSpace_of_visible (t := '"' :: (m.key ++ '"' ::
    (m.between ++ ':' :: (m.item.before ++ (m.value ++ (m.item.after ++ t))))))
    hm.spaced.before (visible_cons (by decide))
  simpa [Member.text, Item.text, Member.value] using hquote

/-- Before one of its keys an object goes on as it does behind the value of that key. -/
theorem skipMemberWithin_text (hm : m.Sound) (hp : Passed m.value) (hn : m.value.length ≤ n)
    (ht : Stops '\x7d' t) :
    skipMemberWithin (n + 1) (m.text ++ t) = skipMembersWithin n (m.item.after ++ t) := by
  rw [skipMemberWithin, skipSpace_member hm]
  simp only [skipString_of_stringBody hm.key, skipColon_append hm.spaced.between, ok_bind,
    hp hn hm.spaced.item.before (hm.ends ht)]

theorem skipItemsWithin_goesOn {gap : List Char} (hgap : Spaces gap)
    (hitems : ∀ i ∈ items, i.Sound ∧ Passed i.value)
    (hn : (gap ++ goesOn ']' (items.map Item.text) rest).length ≤ n + rest.length) :
    skipItemsWithin n (gap ++ goesOn ']' (items.map Item.text) rest) = .ok rest := by
  have hlength := length_lt_goesOn ']' (items.map Item.text) rest
  rw [List.length_append] at hn
  obtain ⟨k, rfl⟩ : ∃ k, n = k + 1 := ⟨n - 1, by omega⟩
  induction items generalizing k gap with
  | nil =>
    have hspace := skipSpace_of_visible (t := ']' :: rest) hgap (visible_cons (by decide))
    rw [List.map_nil, goesOn, List.flatMap_nil, List.nil_append, skipItemsWithin, hspace]
    rfl
  | cons i items ih =>
    obtain ⟨hi, hp⟩ := hitems i List.mem_cons_self
    have hrest := fun j hj => hitems j (List.mem_cons_of_mem i hj)
    have hlater := length_lt_goesOn ']' (items.map Item.text) rest
    have hspace := skipSpace_goesOn hgap ']' i.text (items.map Item.text) rest
    simp only [List.map_cons, goesOn_cons, List.length_append, List.length_cons, Item.text] at hn
    obtain ⟨j, rfl⟩ : ∃ j, k = j + 1 := ⟨k - 1, by omega⟩
    rw [List.map_cons, skipItemsWithin, hspace]
    change (do
      let r ← skipValueWithin (j + 1) (i.text ++ goesOn ']' (items.map Item.text) rest)
      skipItemsWithin (j + 1) r) = .ok rest
    rw [skipValueWithin_item hi hp (by omega) (stops_goesOn ..), ok_bind]
    exact ih hi.spaced.after hrest hlater j (by omega)

theorem skipMembersWithin_goesOn {gap : List Char} (hgap : Spaces gap)
    (hmembers : ∀ m ∈ members, m.Sound ∧ Passed m.value)
    (hn : (gap ++ goesOn '\x7d' (members.map Member.text) rest).length ≤ n + rest.length) :
    skipMembersWithin n (gap ++ goesOn '\x7d' (members.map Member.text) rest) = .ok rest := by
  have hlength := length_lt_goesOn '\x7d' (members.map Member.text) rest
  rw [List.length_append] at hn
  obtain ⟨k, rfl⟩ : ∃ k, n = k + 1 := ⟨n - 1, by omega⟩
  induction members generalizing k gap with
  | nil =>
    have hspace := skipSpace_of_visible (t := '\x7d' :: rest) hgap (visible_cons (by decide))
    rw [List.map_nil, goesOn, List.flatMap_nil, List.nil_append, skipMembersWithin, hspace]
    rfl
  | cons m members ih =>
    obtain ⟨hm, hp⟩ := hmembers m List.mem_cons_self
    have hrest := fun j hj => hmembers j (List.mem_cons_of_mem m hj)
    have hlater := length_lt_goesOn '\x7d' (members.map Member.text) rest
    have hspace := skipSpace_goesOn hgap '\x7d' m.text (members.map Member.text) rest
    have hvalue : m.value.length = m.item.value.length := rfl
    simp only [List.map_cons, goesOn_cons, List.length_append, List.length_cons, Member.text,
      Item.text] at hn
    -- One step takes the comma and one the key.
    obtain ⟨j, rfl⟩ : ∃ j, k = j + 2 := ⟨k - 2, by omega⟩
    rw [List.map_cons, skipMembersWithin, hspace]
    change skipMemberWithin (j + 2) (m.text ++ goesOn '\x7d' (members.map Member.text) rest) = _
    rw [skipMemberWithin_text hm hp (by omega) (stops_goesOn ..)]
    exact ih hm.spaced.item.after hrest hlater j (by omega)

end Within

theorem passed_of_skip {c : Char} {r : List Char} (hc : isSpace c = false)
    (h : ∀ {n s rest}, r.length ≤ n → Ends rest → skipSpace s = c :: (r ++ rest) →
      skipValueWithin (n + 1) s = .ok rest) : Passed (c :: r) := by
  intro n s rest hn hs hrest
  rw [List.length_cons] at hn
  obtain ⟨k, rfl⟩ : ∃ k, n = k + 1 := ⟨n - 1, by omega⟩
  exact h (by omega) hrest (skipSpace_of_visible hs (visible_cons hc))

/-- No value begins with a closing bracket. -/
theorem Value.not_closed {v : List Char} (h : Value v) {c : Char} {r : List Char}
    (hv : v = c :: r) : c ≠ ']' ∧ c ≠ '\x7d' := by
  obtain ⟨d, t, hd, hb⟩ := h.exists_begins
  obtain ⟨rfl, rfl⟩ := List.cons.inj (hd.symm.trans hv)
  constructor
  · rintro rfl
    exact absurd hb (by simp [Begins, Char.isDigit])
  · rintro rfl
    exact absurd hb (by simp [Begins, Char.isDigit])

theorem passed_of_items {items : List Item} (h : ∀ i ∈ items, i.Sound ∧ Passed i.value)
    (hv : ListText items v) : Passed v := by
  obtain ⟨inner, rfl⟩ := hv.exists_inner
  refine passed_of_skip (by decide) fun {n s rest} hn _ hspace => ?_
  rw [skipValueWithin, hspace]
  simp only [Char.reduceEq, Char.reduceIsDigit, Bool.false_eq_true, reduceIte]
  cases items with
  | nil =>
    cases hv with
    | @empty gap hgap =>
      have hend := skipSpace_of_visible (t := ']' :: rest) hgap (visible_cons (by decide))
      rw [List.append_assoc, List.singleton_append, hend]
      rfl
  | cons i items =>
    cases hv with
    | texts =>
      obtain ⟨hi, hp⟩ := h i List.mem_cons_self
      obtain ⟨c, r, hvalue, -⟩ := visible_of_value hi.value
      have hspace' := skipSpace_item hi (goesOn ']' (items.map Item.text) rest)
      have hlength := length_lt_goesOn ']' (items.map Item.text) []
      rw [List.append_assoc, goesOn_eq_append]
      simp only [List.length_append, List.length_cons, Item.text, goesOn] at hn hlength
      split
      · rename_i hnil
        rw [hspace', hvalue] at hnil
        cases hnil
      · rename_i hclosed
        rw [hspace', hvalue] at hclosed
        exact absurd (List.cons.inj hclosed).1 (hi.value.not_closed hvalue).1
      · rw [skipValueWithin_item hi hp (by omega) (stops_goesOn ..), ok_bind]
        refine skipItemsWithin_goesOn hi.spaced.after
          (fun j hj => h j (List.mem_cons_of_mem i hj)) ?_
        simp only [List.length_append, goesOn, List.length_cons, List.length_nil] at hlength hn ⊢
        omega

theorem passed_of_members {members : List Member} (h : ∀ m ∈ members, m.Sound ∧ Passed m.value)
    (hv : ObjectText members v) : Passed v := by
  obtain ⟨inner, rfl⟩ := hv.exists_inner
  refine passed_of_skip (by decide) fun {n s rest} hn _ hspace => ?_
  rw [skipValueWithin, hspace]
  simp only [Char.reduceEq, Char.reduceIsDigit, Bool.false_eq_true, reduceIte]
  cases members with
  | nil =>
    cases hv with
    | @empty gap hgap =>
      have hend := skipSpace_of_visible (t := '\x7d' :: rest) hgap (visible_cons (by decide))
      rw [List.append_assoc, List.singleton_append, hend]
      rfl
  | cons m members =>
    cases hv with
    | texts =>
      obtain ⟨hm, hp⟩ := h m List.mem_cons_self
      have hspace' := skipSpace_member hm (goesOn '\x7d' (members.map Member.text) rest)
      have hvalue : m.value.length = m.item.value.length := rfl
      rw [List.append_assoc, goesOn_eq_append, hspace']
      simp only [List.length_append, List.length_cons, Member.text, Item.text] at hn
      obtain ⟨k, rfl⟩ : ∃ k, n = k + 1 := ⟨n - 1, by omega⟩
      change skipMemberWithin (k + 1) (m.text ++ goesOn '\x7d' (members.map Member.text) rest) = _
      rw [skipMemberWithin_text hm hp (by omega) (stops_goesOn ..)]
      refine skipMembersWithin_goesOn hm.spaced.item.after
        (fun j hj => h j (List.mem_cons_of_mem m hj)) ?_
      simp only [List.length_append, goesOn, List.length_cons, List.length_nil] at hn ⊢
      omega

theorem passed_of_number {n : List Char} (h : Unsigned n) : Passed n := by
  obtain ⟨c, r, rfl, hc⟩ := h.exists_digit
  have hne : ∀ d : Char, d.isDigit = false → c ≠ d := by
    rintro d hd rfl
    rw [hc] at hd
    cases hd
  have hspace : isSpace c = false := by
    rw [Bool.eq_false_iff, ne_eq, isSpace_iff]
    rintro (rfl | rfl | rfl | rfl) <;> exact absurd hc (by decide)
  apply passed_of_skip hspace
  intro n s rest _ hrest hstart
  rw [skipValueWithin, hstart]
  dsimp only
  rw [if_neg (hne 'n' (by decide)), if_neg (hne 't' (by decide)), if_neg (hne 'f' (by decide)),
    if_neg (hne '-' (by decide)), if_pos hc]
  exact skipNumber_of_unsigned hrest.endsNumber h

theorem passed_of_value {v : List Char} (h : Value v) : Passed v := by
  induction h with
  | null | true | false =>
    refine passed_of_skip (by decide) fun _ _ hspace => ?_
    rw [skipValueWithin, hspace]
    exact skipWord_append _ _
  | number number => exact passed_of_number number
  | negative number =>
    refine passed_of_skip (by decide) fun _ hrest hspace => ?_
    rw [skipValueWithin, hspace]
    exact skipNumber_of_unsigned hrest.endsNumber number
  | string body =>
    refine passed_of_skip (by decide) fun _ _ hspace => ?_
    rw [skipValueWithin, hspace]
    simpa using skipString_of_stringBody body _
  | list spaced values written ih =>
    exact passed_of_items (fun i hi => ⟨⟨spaced i hi, values i hi⟩, ih i hi⟩) written
  | object spaced keys values written ih =>
    exact passed_of_members (fun m hm => ⟨⟨spaced m hm, keys m hm, values m hm⟩, ih m hm⟩) written

/-- The scanner takes any value, wherever it stands, and nothing behind it. -/
theorem skipValue_of_value (hs : Spaces s) (hv : Value v) (hrest : Ends rest) :
    skipValue (s ++ (v ++ rest)) = .ok rest := by
  refine passed_of_value hv ?_ hs hrest
  simp only [List.length_append]
  omega

end Rendezvous.Json
