import Rendezvous.Unicode.Normal

/-! Controls and spaces come through Normalization Form C: they are their own decompositions, and
nothing composes with them. -/

namespace Rendezvous.Unicode

variable {x starter : Char} {cs marks : List Char} {last : Nat}

/-! ### Tables

A line of a table is too long to be taken apart as a string. As a list of characters it can be
computed with. -/

/-- The lines of a table, by their characters. -/
inductive Spelt : List (List Char) → List String → Prop
  | nil : Spelt [] []
  | cons {cs css s lines} (line : String.ofList cs = s) (rest : Spelt css lines) :
      Spelt (cs :: css) (s :: lines)

def wordsOf (css : List (List Char)) : List (List Char) := css.flatMap (List.splitOn ' ')

theorem Spelt.words_eq {css : List (List Char)} {lines : List String} (h : Spelt css lines) :
    words lines = wordsOf css := by
  induction h with
  | nil => rfl
  | cons line rest ih =>
    rw [wordsOf, List.flatMap_cons, ← wordsOf, ← ih, ← line]
    rw [words, List.flatMap_cons, String.toList_ofList, words]

theorem exists_spelt_compositionText : ∃ css, Spelt css compositionText ∧
    ((wordsOf css).map pairOfWord).all
      (fun p => 0x20 < p.1.1.toNat && 0x20 < p.1.2.toNat) = true := by
  delta compositionText
  apply Exists.intro
  apply And.intro
  · repeat' first | apply Spelt.nil | apply Spelt.cons | apply Eq.refl
  · decide +kernel

theorem lt_of_mem_compositions {p : (Char × Char) × Char} (h : p ∈ compositions) :
    0x20 < p.1.1.toNat ∧ 0x20 < p.1.2.toNat := by
  obtain ⟨css, hcss, hall⟩ := exists_spelt_compositionText
  rw [compositions, hcss.words_eq] at h
  simpa using List.all_eq_true.mp hall p h

/-! ### Decomposition and order -/

theorem mem_flatMap_decompose (hx : x.toNat ≤ 0x20) (h : x ∈ cs) : x ∈ cs.flatMap decompose := by
  refine List.mem_flatMap.mpr ⟨x, h, ?_⟩
  rw [decompose, if_pos (by omega)]
  exact List.mem_singleton_self x

theorem perm_insertMark (c : Char) (cls : Nat) (cs : List Char) :
    (insertMark c cls cs).Perm (c :: cs) := by
  induction cs with
  | nil => exact .refl _
  | cons d rest ih =>
    rw [insertMark]
    split
    · exact (ih.cons d).trans (.swap c d rest)
    · exact .refl _

theorem perm_canonicalOrder (cs : List Char) : (canonicalOrder cs).Perm cs := by
  have hfold : ∀ cs done : List Char,
      (cs.foldl (fun done c => insertMark c (combiningClass c) done) done).Perm
        (cs.reverse ++ done) := by
    intro cs
    induction cs with
    | nil => exact fun done => .refl _
    | cons c cs ih =>
      intro done
      rw [List.foldl_cons, List.reverse_cons, List.append_assoc]
      exact (ih _).trans ((perm_insertMark c _ done).append_left cs.reverse)
  have hall := hfold cs []
  rw [List.append_nil] at hall
  exact (List.reverse_perm _).trans (hall.trans (List.reverse_perm cs))

/-! ### Composition -/

/-- A character is part of no other one. -/
def Inert (x : Char) : Prop := ∀ c, compose? x c = none ∧ compose? c x = none

theorem inert_of_le (hx : x.toNat ≤ 0x20) : Inert x := by
  intro c
  have hfirst : compositions.find? (fun p => p.1 == (x, c)) = none := by
    refine List.find?_eq_none.mpr fun p hp heq => ?_
    have hlt := (lt_of_mem_compositions hp).1
    rw [beq_iff_eq.mp heq] at hlt
    exact absurd hx (Nat.not_le.mpr hlt)
  have hsecond : compositions.find? (fun p => p.1 == (c, x)) = none := by
    refine List.find?_eq_none.mpr fun p hp heq => ?_
    have hlt := (lt_of_mem_compositions hp).2
    rw [beq_iff_eq.mp heq] at hlt
    exact absurd hx (Nat.not_le.mpr hlt)
  have hbelow : ∀ n, 0x20 < n → decide (n ≤ x.toNat) = false :=
    fun n hn => decide_eq_false (by omega)
  simp [compose?, hfirst, hsecond, hbelow]

theorem mem_composeFrom (hx : Inert x) (h : x = starter ∨ x ∈ marks ∨ x ∈ cs) :
    x ∈ composeFrom starter marks last cs := by
  induction cs generalizing starter marks last with
  | nil => simpa [composeFrom] using h
  | cons c rest ih =>
    rw [composeFrom]
    split
    · rename_i whole hwhole
      -- Neither the starter nor the mark is `x`, since the two compose.
      have hpair : compose? starter c = some whole := by
        split at hwhole
        · exact hwhole
        · cases hwhole
      refine ih ?_
      rcases h with rfl | h | h
      · rw [(hx c).1] at hpair
        cases hpair
      · exact .inr (.inl h)
      · rcases List.mem_cons.mp h with rfl | h
        · rw [(hx starter).2] at hpair
          cases hpair
        · exact .inr (.inr h)
    · split
      · have hrest : x ∈ c :: rest → x ∈ composeFrom c [] 0 rest := fun h =>
          ih ((List.mem_cons.mp h).imp_right .inr)
        simp only [List.cons_append, List.mem_cons, List.mem_append, List.mem_reverse]
        exact h.imp_right (Or.imp_right hrest)
      · refine ih ?_
        rcases h with h | h | h
        · exact .inl h
        · exact .inr (.inl (List.mem_cons_of_mem c h))
        · rcases List.mem_cons.mp h with rfl | h
          · exact .inr (.inl List.mem_cons_self)
          · exact .inr (.inr h)

theorem mem_composeAll (hx : Inert x) (h : x ∈ cs) : x ∈ composeAll cs := by
  induction cs with
  | nil => exact h
  | cons c rest ih =>
    rw [composeAll]
    split
    · exact mem_composeFrom hx ((List.mem_cons.mp h).imp_right .inr)
    · rcases List.mem_cons.mp h with rfl | h
      · exact List.mem_cons_self
      · exact List.mem_cons_of_mem c (ih h)

/-- A control or a space stays in a text that is brought into normal form. -/
theorem mem_normalize (hx : x.toNat ≤ 0x20) (h : x ∈ cs) : x ∈ normalize cs := by
  unfold normalize
  split
  · exact h
  · exact mem_composeAll (inert_of_le hx)
      ((perm_canonicalOrder _).mem_iff.mpr (mem_flatMap_decompose hx h))

end Rendezvous.Unicode
