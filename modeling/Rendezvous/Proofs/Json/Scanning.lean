import Rendezvous.Proofs.Failing
import Rendezvous.Proofs.Json.Grammar

/-! What the scanner passes over is white space and one value, up to the value's last character. -/

namespace Rendezvous.Json

variable {α : Type} {cs rest : List Char}

@[simp] theorem failAt_ne_ok (c : Cause) (cs : List Char) (a : α) : failAt c cs ≠ .ok a := by
  simp [failAt]

@[simp] theorem failIn_ne_ok (c : Cause) (cs : List Char) (a : α) : failIn c cs ≠ .ok a := by
  simp [failIn]

@[simp] theorem failHex_ne_ok (cs : List Char) (a : α) : failHex cs ≠ .ok a := by
  unfold failHex
  split <;> simp

theorem spaces_nil : Spaces [] := by simp [Spaces]

theorem exists_digits (cs : List Char) :
    ∃ ds, (∀ d ∈ ds, d.isDigit = true) ∧ ds ++ cs.dropWhile Char.isDigit = cs :=
  ⟨cs.takeWhile Char.isDigit, List.all_eq_true.mp List.all_takeWhile,
    List.takeWhile_append_dropWhile⟩

theorem exists_spaces (cs : List Char) : ∃ s, Spaces s ∧ s ++ skipSpace cs = cs :=
  ⟨cs.takeWhile isSpace, List.all_eq_true.mp List.all_takeWhile,
    List.takeWhile_append_dropWhile⟩

theorem skipWord_eq {ws : List Char} (h : skipWord ws cs = .ok rest) : cs = ws ++ rest := by
  induction ws generalizing cs with
  | nil =>
    cases h
    rfl
  | cons w ws ih =>
    cases cs with
    | nil => cases h
    | cons c cs =>
      simp only [skipWord] at h
      split at h
      · rename_i hc
        rw [hc, ih h]
        rfl
      · cases h

theorem exponent_of_digits {e : Char} {sign body : List Char} (he : e = 'e' ∨ e = 'E')
    (hsign : sign = [] ∨ sign = ['+'] ∨ sign = ['-'])
    (h : ∃ c r, body = c :: r ∧ c.isDigit = true ∧ rest = r.dropWhile Char.isDigit) :
    ∃ x, Exponent x ∧ e :: (sign ++ body) = x ++ rest := by
  obtain ⟨c, r, rfl, hc, rfl⟩ := h
  obtain ⟨ds, hds, hr⟩ := exists_digits r
  refine ⟨e :: (sign ++ c :: ds), .some he hsign ⟨by simp, ?_⟩, ?_⟩
  · intro d hd
    rcases List.mem_cons.mp hd with rfl | hd
    · exact hc
    · exact hds d hd
  · simp only [List.cons_append, List.append_assoc, hr]

theorem exponent_of_skipExponent {e : Char} (he : e = 'e' ∨ e = 'E')
    (h : skipExponent cs = .ok rest) : ∃ x, Exponent x ∧ e :: cs = x ++ rest := by
  unfold skipExponent at h
  dsimp only at h
  split at h
  · rename_i hbody
    split at h
    · rename_i hc
      cases h
      split at hbody
      · subst hbody
        exact exponent_of_digits he (.inr (.inl rfl)) ⟨_, _, rfl, hc, rfl⟩
      · subst hbody
        exact exponent_of_digits he (.inr (.inr rfl)) ⟨_, _, rfl, hc, rfl⟩
      · subst hbody
        exact exponent_of_digits he (.inl rfl) ⟨_, _, rfl, hc, rfl⟩
    · cases h
  · cases h

theorem exponent_of_skipScale (h : skipScale cs = .ok rest) :
    ∃ x, Exponent x ∧ cs = x ++ rest := by
  unfold skipScale at h
  split at h
  · exact exponent_of_skipExponent (.inl rfl) h
  · exact exponent_of_skipExponent (.inr rfl) h
  · cases h
    exact ⟨[], .none, rfl⟩

theorem fraction_of_skipFraction (h : skipFraction cs = .ok rest) :
    ∃ f x, Fraction f ∧ Exponent x ∧ cs = f ++ (x ++ rest) := by
  unfold skipFraction at h
  split at h
  · rename_i c r
    split at h
    · rename_i hc
      obtain ⟨x, hx, hrest⟩ := exponent_of_skipScale h
      obtain ⟨ds, hds, hr⟩ := exists_digits r
      refine ⟨'.' :: c :: ds, x, .some ⟨by simp, ?_⟩, hx, ?_⟩
      · intro d hd
        rcases List.mem_cons.mp hd with rfl | hd
        · exact hc
        · exact hds d hd
      · simp only [List.cons_append, ← hrest, hr]
    · cases h
  · cases h
  · obtain ⟨x, hx, hrest⟩ := exponent_of_skipScale h
    exact ⟨[], x, .none, hx, hrest⟩

theorem unsigned_of_skipNumber (h : skipNumber cs = .ok rest) :
    ∃ n, Unsigned n ∧ cs = n ++ rest := by
  obtain ⟨w, more, hw, hcs, hmore⟩ : ∃ w more, Whole w ∧ cs = w ++ more ∧
      skipFraction more = .ok rest := by
    unfold skipNumber at h
    split at h
    · cases h
    · split at h
      · cases h
      · exact ⟨['0'], _, .zero, rfl, h⟩
    · rename_i c r hzero
      split at h
      · rename_i hc
        obtain ⟨ds, hds, hr⟩ := exists_digits r
        by_cases h0 : c = '0'
        · -- Behind a zero there is nothing left to drop.
          subst h0
          cases r with
          | nil => exact ⟨['0'], [], .zero, rfl, h⟩
          | cons d r => exact absurd rfl (hzero d r rfl)
        · refine ⟨c :: ds, _, .digits hc h0 hds, ?_, h⟩
          rw [List.cons_append, hr]
      · cases h
  obtain ⟨f, x, hf, hx, hrest⟩ := fraction_of_skipFraction hmore
  exact ⟨w ++ (f ++ x), .mk hw hf hx, by rw [hcs, hrest]; simp⟩

theorem stringBody_of_skipString (h : skipString cs = .ok rest) :
    ∃ b, StringBody b ∧ cs = b ++ '"' :: rest := by
  fun_induction skipString cs with
  | case2 r =>
    cases h
    exact ⟨[], .nil, rfl⟩
  | case4 x y z w r hex _ ih =>
    obtain ⟨b, hb, rfl⟩ := ih h
    exact ⟨_, .code hex hb, rfl⟩
  | case7 e r _ hletter _ ih =>
    obtain ⟨b, hb, rfl⟩ := ih h
    exact ⟨_, .short hletter hb, rfl⟩
  | case10 c r hquote hescape hcontrol ih =>
    obtain ⟨b, hb, rfl⟩ := ih h
    exact ⟨_, .char hquote hescape (by simpa using hcontrol) hb, rfl⟩
  | _ => simp at h

theorem spells_of_readString {done s : List Char} (h : readString done cs = .ok (s, rest)) :
    ∃ b s', Spells b s' ∧ s = done.reverse ++ s' ∧ cs = b ++ '"' :: rest := by
  fun_induction readString done cs with
  | case2 done r =>
    cases h
    exact ⟨[], [], .nil, by simp, rfl⟩
  | case5 done x y z w hex high hlow hhigh x' y' z' w' r hex' low hlow' _ ih =>
    obtain ⟨b, s', hb, rfl, rfl⟩ := ih h
    exact ⟨_, _, .pair hex hex' hhigh hlow' hb, by simp [high, low], rfl⟩
  | case13 done x y z w r hex high hlow hhigh _ ih =>
    obtain ⟨b, s', hb, rfl, rfl⟩ := ih h
    exact ⟨_, _, .code hex (by simpa using hlow) (by simpa using hhigh) hb, by simp [high], rfl⟩
  | case16 done e r _ hletter _ ih =>
    obtain ⟨b, s', hb, rfl, rfl⟩ := ih h
    exact ⟨_, _, .short hletter hb, by simp, rfl⟩
  | case19 done c r hquote hescape hcontrol ih =>
    obtain ⟨b, s', hb, rfl, rfl⟩ := ih h
    exact ⟨_, _, .char hquote hescape (by simpa using hcontrol) hb, by simp, rfl⟩
  | _ => simp at h

theorem colon_of_skipColon (h : skipColon cs = .ok rest) :
    ∃ s, Spaces s ∧ cs = s ++ ':' :: rest := by
  obtain ⟨s, hs, hcs⟩ := exists_spaces cs
  unfold skipColon at h
  split at h
  · simp at h
  · rename_i r hr
    cases h
    exact ⟨s, hs, by rw [← hcs, hr]⟩
  · simp at h

/-- How a text goes on behind an opening bracket, or behind what stands in the brackets, up to
`rest` behind the closing one. -/
inductive Goes (closing : Char) (rest : List Char) : Bool → List (List Char) → List Char → Prop
  | empty {gap : List Char} (spaces : Spaces gap) :
      Goes closing rest true [] (gap ++ closing :: rest)
  | first {t : List Char} {ts : List (List Char)} :
      Goes closing rest true (t :: ts) (t ++ (ts.flatMap (',' :: ·) ++ closing :: rest))
  | later {gap : List Char} {ts : List (List Char)} (spaces : Spaces gap) :
      Goes closing rest false ts (gap ++ (ts.flatMap (',' :: ·) ++ closing :: rest))

namespace Goes

variable {closing : Char} {t : List Char} {ts : List (List Char)}

theorem bracketed (h : Goes closing rest true ts cs) (opening : Char) :
    ∃ text, Bracketed opening closing ts text ∧ opening :: cs = text ++ rest := by
  cases h with
  | empty spaces => exact ⟨_, .empty spaces, by simp⟩
  | first => exact ⟨_, .texts, by simp⟩

theorem ended {s : List Char} (hs : Spaces s) (first : Bool) :
    Goes closing rest first [] (s ++ closing :: rest) := by
  cases first with
  | true => exact .empty hs
  | false => exact .later hs

theorem after_comma {s : List Char} (hs : Spaces s) (h : Goes closing rest true (t :: ts) cs) :
    Goes closing rest false (t :: ts) (s ++ ',' :: cs) := by
  cases h
  rw [show s ++ ',' :: (t ++ (ts.flatMap (',' :: ·) ++ closing :: rest)) =
    s ++ ((t :: ts).flatMap (',' :: ·) ++ closing :: rest) by simp]
  exact .later hs

/-- The white space behind a text belongs to it. -/
theorem exists_gap (h : Goes closing rest false ts cs) :
    ∃ gap, Spaces gap ∧ ∀ t, Goes closing rest true ((t ++ gap) :: ts) (t ++ cs) := by
  cases h with
  | @later gap _ spaces =>
    refine ⟨gap, spaces, fun t => ?_⟩
    rw [← List.append_assoc]
    exact .first

theorem item {s v : List Char} (hs : Spaces s) (hv : Value v) (h : Goes ']' rest false ts cs) :
    ∃ i : Item, i.Sound ∧ i.value = v ∧ Goes ']' rest true (i.text :: ts) (s ++ (v ++ cs)) := by
  obtain ⟨gap, hgap, hall⟩ := h.exists_gap
  refine ⟨⟨s, v, gap⟩, ⟨⟨hs, hgap⟩, hv⟩, rfl, ?_⟩
  simpa [Item.text] using hall (s ++ v)

theorem member {s b s₁ s₂ v : List Char} (hs : Spaces s) (hb : StringBody b) (hs₁ : Spaces s₁)
    (hs₂ : Spaces s₂) (hv : Value v) (h : Goes '\x7d' rest false ts cs) :
    ∃ m : Member, m.Sound ∧ m.key = b ∧ m.value = v ∧
      Goes '\x7d' rest true (m.text :: ts)
        (s ++ '"' :: (b ++ '"' :: (s₁ ++ ':' :: (s₂ ++ (v ++ cs))))) := by
  obtain ⟨gap, hgap, hall⟩ := h.exists_gap
  refine ⟨⟨s, b, s₁, ⟨s₂, v, gap⟩⟩, ⟨⟨hs, hs₁, hs₂, hgap⟩, hb, hv⟩, rfl, rfl, ?_⟩
  simpa [Member.text, Item.text] using hall (s ++ '"' :: (b ++ '"' :: (s₁ ++ ':' :: (s₂ ++ v))))

end Goes

/-- What is taken from the front of a text: white space and one value. -/
def TakesValue (cs rest : List Char) : Prop :=
  ∃ s v, Spaces s ∧ Value v ∧ cs = s ++ (v ++ rest)

/-- What is taken of a list, from behind its opening bracket or from behind a value. -/
def TakesItems (first : Bool) (cs rest : List Char) : Prop :=
  ∃ items : List Item, (∀ i ∈ items, i.Sound) ∧ Goes ']' rest first (items.map Item.text) cs

/-- What is taken of an object, from behind its opening bracket or from behind a value. -/
def TakesMembers (first : Bool) (cs rest : List Char) : Prop :=
  ∃ members : List Member, (∀ m ∈ members, m.Sound) ∧
    Goes '\x7d' rest first (members.map Member.text) cs

/-- The scanner takes what it should as far as `n` steps go. -/
structure Scans (n : Nat) : Prop where
  value : ∀ {cs rest}, skipValueWithin n cs = .ok rest → TakesValue cs rest
  items : ∀ {cs rest}, skipItemsWithin n cs = .ok rest → TakesItems false cs rest
  member : ∀ {cs rest}, skipMemberWithin n cs = .ok rest →
    ∃ (m : Member) (members : List Member), m.Sound ∧ (∀ n ∈ members, n.Sound) ∧
      Goes '\x7d' rest true (m.text :: members.map Member.text) cs
  members : ∀ {cs rest}, skipMembersWithin n cs = .ok rest → TakesMembers false cs rest

namespace Scans

variable {n : Nat}

theorem list_succ (h : Scans n) {r : List Char}
    (hr : (match skipSpace r with
      | [] => failIn .eofList []
      | ']' :: r' => .ok r'
      | _ => do
        let r' ← skipValueWithin n r
        skipItemsWithin n r') = .ok rest) : TakesItems true r rest := by
  obtain ⟨gap, hgap, hspace⟩ := exists_spaces r
  split at hr
  · simp at hr
  · rename_i r' hr'
    cases hr
    rw [← hspace, hr']
    exact ⟨[], by simp, .ended hgap true⟩
  · obtain ⟨r', hvalue, hitems⟩ := bind_eq_ok_iff.mp hr
    obtain ⟨s, v, hs, hv, rfl⟩ := h.value hvalue
    obtain ⟨items, hall, hgoes⟩ := h.items hitems
    obtain ⟨i, hi, -, hfirst⟩ := hgoes.item hs hv
    exact ⟨i :: items, by simpa [hi] using hall, hfirst⟩

theorem object_succ (h : Scans n) {r : List Char}
    (hr : (match skipSpace r with
      | [] => failIn .eofObject []
      | '\x7d' :: r' => .ok r'
      | _ => skipMemberWithin n r) = .ok rest) : TakesMembers true r rest := by
  obtain ⟨gap, hgap, hspace⟩ := exists_spaces r
  split at hr
  · simp at hr
  · rename_i r' hr'
    cases hr
    rw [← hspace, hr']
    exact ⟨[], by simp, .ended hgap true⟩
  · obtain ⟨m, members, hm, hall, hfirst⟩ := h.member hr
    exact ⟨m :: members, by simpa [hm] using hall, hfirst⟩

theorem value_succ (h : Scans n) (hcs : skipValueWithin (n + 1) cs = .ok rest) :
    TakesValue cs rest := by
  obtain ⟨s, hs, hspace⟩ := exists_spaces cs
  obtain ⟨v, hv, hrest⟩ : ∃ v, Value v ∧ skipSpace cs = v ++ rest := by
    rw [skipValueWithin] at hcs
    split at hcs
    · simp at hcs
    · rename_i c r hcr
      rw [hcr]
      split at hcs
      · rename_i hc
        exact ⟨_, .null, by rw [hc, skipWord_eq hcs]; rfl⟩
      split at hcs
      · rename_i hc
        exact ⟨_, .true, by rw [hc, skipWord_eq hcs]; rfl⟩
      split at hcs
      · rename_i hc
        exact ⟨_, .false, by rw [hc, skipWord_eq hcs]; rfl⟩
      split at hcs
      · rename_i hc
        obtain ⟨n, hn, rfl⟩ := unsigned_of_skipNumber hcs
        exact ⟨_, .negative hn, by rw [hc]; rfl⟩
      split at hcs
      · obtain ⟨n, hn, hcs⟩ := unsigned_of_skipNumber hcs
        exact ⟨_, .number hn, hcs⟩
      split at hcs
      · rename_i hc
        obtain ⟨b, hb, rfl⟩ := stringBody_of_skipString hcs
        exact ⟨_, .string hb, by rw [hc]; simp⟩
      split at hcs
      · rename_i hc
        obtain ⟨items, hall, hgoes⟩ := h.list_succ hcs
        obtain ⟨text, htext, heq⟩ := hgoes.bracketed '['
        exact ⟨text, .of_items hall htext, by rw [hc, heq]⟩
      split at hcs
      · rename_i hc
        obtain ⟨members, hall, hgoes⟩ := h.object_succ hcs
        obtain ⟨text, htext, heq⟩ := hgoes.bracketed '\x7b'
        exact ⟨text, .of_members hall htext, by rw [hc, heq]⟩
      · simp at hcs
  exact ⟨s, v, hs, hv, by rw [← hrest, hspace]⟩

theorem items_succ (h : Scans n) (hcs : skipItemsWithin (n + 1) cs = .ok rest) :
    TakesItems false cs rest := by
  obtain ⟨s, hs, hspace⟩ := exists_spaces cs
  rw [skipItemsWithin] at hcs
  split at hcs
  · simp at hcs
  · rename_i r hr
    cases hcs
    rw [← hspace, hr]
    exact ⟨[], by simp, .ended hs false⟩
  · rename_i r hr
    obtain ⟨r', hvalue, hitems⟩ := bind_eq_ok_iff.mp hcs
    obtain ⟨s', v, hs', hv, rfl⟩ := h.value hvalue
    obtain ⟨items, hall, hgoes⟩ := h.items hitems
    obtain ⟨i, hi, -, hfirst⟩ := hgoes.item hs' hv
    rw [← hspace, hr]
    exact ⟨i :: items, by simpa [hi] using hall, hfirst.after_comma hs⟩
  · simp at hcs

theorem member_succ (h : Scans n) (hcs : skipMemberWithin (n + 1) cs = .ok rest) :
    ∃ (m : Member) (members : List Member), m.Sound ∧ (∀ n ∈ members, n.Sound) ∧
      Goes '\x7d' rest true (m.text :: members.map Member.text) cs := by
  obtain ⟨s, hs, hspace⟩ := exists_spaces cs
  rw [skipMemberWithin] at hcs
  split at hcs
  · simp at hcs
  · rename_i r hr
    obtain ⟨r₁, hkey, hcs⟩ := bind_eq_ok_iff.mp hcs
    obtain ⟨r₂, hcolon, hcs⟩ := bind_eq_ok_iff.mp hcs
    obtain ⟨r₃, hvalue, hmembers⟩ := bind_eq_ok_iff.mp hcs
    obtain ⟨b, hb, rfl⟩ := stringBody_of_skipString hkey
    obtain ⟨s₁, hs₁, rfl⟩ := colon_of_skipColon hcolon
    obtain ⟨s₂, v, hs₂, hv, rfl⟩ := h.value hvalue
    obtain ⟨members, hall, hgoes⟩ := h.members hmembers
    obtain ⟨m, hm, -, -, hfirst⟩ := hgoes.member hs hb hs₁ hs₂ hv
    rw [← hspace, hr]
    exact ⟨m, members, hm, hall, hfirst⟩
  · simp at hcs

theorem members_succ (h : Scans n) (hcs : skipMembersWithin (n + 1) cs = .ok rest) :
    TakesMembers false cs rest := by
  obtain ⟨s, hs, hspace⟩ := exists_spaces cs
  rw [skipMembersWithin] at hcs
  split at hcs
  · simp at hcs
  · rename_i r hr
    cases hcs
    rw [← hspace, hr]
    exact ⟨[], by simp, .ended hs false⟩
  · rename_i r hr
    obtain ⟨m, members, hm, hall, hfirst⟩ := h.member hcs
    rw [← hspace, hr]
    exact ⟨m :: members, by simpa [hm] using hall, hfirst.after_comma hs⟩
  · simp at hcs

end Scans

theorem scans (n : Nat) : Scans n := by
  induction n with
  | zero =>
    constructor <;> intro cs rest h
    · simp [skipValueWithin] at h
    · simp [skipItemsWithin] at h
    · simp [skipMemberWithin] at h
    · simp [skipMembersWithin] at h
  | succ n ih =>
    exact ⟨fun h => ih.value_succ h, fun h => ih.items_succ h, fun h => ih.member_succ h,
      fun h => ih.members_succ h⟩

theorem takesValue_of_skipValue (h : skipValue cs = .ok rest) : TakesValue cs rest :=
  (scans _).value h

end Rendezvous.Json
