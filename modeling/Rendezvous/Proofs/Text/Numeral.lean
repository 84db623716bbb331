import Rendezvous.Text.Numeral

/-! Which texts are read as numbers up to a bound, and what is wrong with the others. -/

namespace Rendezvous.Text

def withoutPlus (s : String) : List Char :=
  match s.toList with
  | '+' :: cs => cs
  | cs => cs

/-- A text that stands for `n`: one or more decimal digits, with at most one plus sign before
them. -/
structure IsNumeral (s : String) (n : Nat) : Prop where
  ne_nil : withoutPlus s ≠ []
  digits : ∀ c ∈ withoutPlus s, c.isDigit
  value : Nat.ofDigitChars 10 (withoutPlus s) 0 = n

/-- The digits with which a text begins lead beyond the bound. -/
def Overflows (most : Nat) (s : String) : Prop :=
  ∃ ds, ds <+: withoutPlus s ∧ (∀ c ∈ ds, c.isDigit) ∧ most < Nat.ofDigitChars 10 ds 0

/-- What is wrong with a text that is no numeral up to `most`. -/
inductive Spoils (most : Nat) (s : String) : NumeralFault → Prop
  | empty (empty : s.toList = []) : Spoils most s .empty
  | badDigit (other : ∀ n, ¬IsNumeral s n) (within : ¬Overflows most s) : Spoils most s .badDigit
  | tooLarge (beyond : Overflows most s) : Spoils most s .tooLarge

variable {most value n : Nat} {cs ds : List Char} {s : String}

theorem le_ofDigitChars (cs : List Char) (value : Nat) : value ≤ Nat.ofDigitChars 10 cs value := by
  induction cs generalizing value with
  | nil => exact Nat.le_refl _
  | cons c cs ih =>
    rw [Nat.ofDigitChars_cons]
    have := ih (10 * value + (c.toNat - '0'.toNat))
    omega

/-- More digits make no smaller number. -/
theorem ofDigitChars_mono (h : ds <+: cs) (value : Nat) :
    Nat.ofDigitChars 10 ds value ≤ Nat.ofDigitChars 10 cs value := by
  obtain ⟨rest, rfl⟩ := h
  rw [Nat.ofDigitChars_append]
  exact le_ofDigitChars rest _

/-- What comes of reading digits on top of a number within the bound. -/
inductive DigitsRead (most value : Nat) (cs : List Char) : Except NumeralFault Nat → Prop
  | ok (digits : ∀ c ∈ cs, c.isDigit) (within : Nat.ofDigitChars 10 cs value ≤ most) :
      DigitsRead most value cs (.ok (Nat.ofDigitChars 10 cs value))
  | badDigit {ds : List Char} {c : Char} {rest : List Char} (text : cs = ds ++ c :: rest)
      (within : Nat.ofDigitChars 10 ds value ≤ most) (other : ¬c.isDigit) :
      DigitsRead most value cs (.error .badDigit)
  | tooLarge {ds : List Char} (text : ds <+: cs) (digits : ∀ d ∈ ds, d.isDigit)
      (beyond : most < Nat.ofDigitChars 10 ds value) :
      DigitsRead most value cs (.error .tooLarge)

theorem digitsRead (h : value ≤ most) : DigitsRead most value cs (readDigits most value cs) := by
  induction cs generalizing value with
  | nil => exact .ok (by simp) h
  | cons c cs ih =>
    by_cases hc : c.isDigit
    · rw [readDigits, if_pos hc, Nat.mul_comm]
      dsimp only
      split
      · rename_i hnext
        have hr := ih hnext
        generalize readDigits most _ cs = r at hr ⊢
        cases hr with
        | ok digits within =>
          rw [← Nat.ofDigitChars_cons] at within ⊢
          exact .ok (List.forall_mem_cons.mpr ⟨hc, digits⟩) within
        | badDigit text within other =>
          rw [← Nat.ofDigitChars_cons] at within
          exact .badDigit (congrArg (c :: ·) text) within other
        | tooLarge text digits beyond =>
          rw [← Nat.ofDigitChars_cons] at beyond
          exact .tooLarge (List.cons_prefix_cons.mpr ⟨rfl, text⟩)
            (List.forall_mem_cons.mpr ⟨hc, digits⟩) beyond
      · rename_i hnext
        have hprefix : [c] <+: c :: cs := by simp
        refine .tooLarge hprefix (by simpa using hc) ?_
        rw [Nat.ofDigitChars_cons]
        exact Nat.lt_of_not_le hnext
    · rw [readDigits, if_neg hc]
      have htext : c :: cs = [] ++ c :: cs := rfl
      exact .badDigit htext h hc

/-- Digits at the front of a text stop before a character that is none. -/
theorem prefix_of_digits {c : Char} {rest : List Char} (h : cs <+: ds ++ c :: rest)
    (hcs : ∀ d ∈ cs, d.isDigit) (hc : ¬c.isDigit) : cs <+: ds := by
  rcases List.prefix_or_prefix_of_prefix h (List.prefix_append ds (c :: rest)) with hd | ⟨l, rfl⟩
  · exact hd
  · cases l with
    | nil => simp
    | cons d l =>
      obtain ⟨rfl, -⟩ := List.cons_prefix_cons.mp ((List.prefix_append_right_inj ds).mp h)
      exact absurd (hcs d (by simp)) hc

theorem readNumeral_eq (most : Nat) (s : String) : readNumeral most s =
    if s.toList = [] then .error .empty
    else if withoutPlus s = [] then .error .badDigit
    else readDigits most 0 (withoutPlus s) := by
  unfold readNumeral withoutPlus
  split
  · rename_i h
    rw [if_pos h]
  · rename_i h
    simp [h]
  · rename_i cs hne h
    simp only [h]
    rw [if_neg (by simp), if_neg hne]
  · rename_i hnil hplus hcons
    rw [if_neg hnil]
    split
    · rename_i h
      exact absurd h (hcons _)
    · rw [if_neg hnil]

inductive NumeralRead (most : Nat) (s : String) : Except NumeralFault Nat → Prop
  | ok {n : Nat} (stands : IsNumeral s n) (within : n ≤ most) : NumeralRead most s (.ok n)
  | error {f : NumeralFault} (spoils : Spoils most s f)
      (other : ∀ n, IsNumeral s n → most < n) : NumeralRead most s (.error f)

theorem numeralRead (most : Nat) (s : String) : NumeralRead most s (readNumeral most s) := by
  rw [readNumeral_eq]
  split
  · rename_i hempty
    refine .error (.empty hempty) fun n hn => absurd ?_ hn.ne_nil
    simp [withoutPlus, hempty]
  · split
    · rename_i hnil
      refine .error (.badDigit (fun n hn => hn.ne_nil hnil) ?_) fun n hn => absurd hnil hn.ne_nil
      rintro ⟨ds, hds, -, hbeyond⟩
      rw [hnil, List.prefix_nil] at hds
      subst hds
      simp at hbeyond
    · rename_i hne
      have hr : DigitsRead most 0 (withoutPlus s) (readDigits most 0 (withoutPlus s)) :=
        digitsRead (Nat.zero_le most)
      generalize readDigits most 0 (withoutPlus s) = r at hr ⊢
      cases hr with
      | ok digits within => exact .ok ⟨hne, digits, rfl⟩ within
      | badDigit text within other =>
        have hnone : ∀ n, ¬IsNumeral s n := by
          intro n hn
          exact other (hn.digits _ (by rw [text]; simp))
        refine .error (.badDigit hnone ?_) fun n hn => absurd hn (hnone n)
        rintro ⟨ds, hds, hdigits, hbeyond⟩
        rw [text] at hds
        have := ofDigitChars_mono (prefix_of_digits hds hdigits other) 0
        omega
      | tooLarge text digits beyond =>
        refine .error (.tooLarge ⟨_, text, digits, beyond⟩) fun n hn => ?_
        rw [← hn.value]
        exact Nat.lt_of_lt_of_le beyond (ofDigitChars_mono text 0)

end Rendezvous.Text
