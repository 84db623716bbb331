import Rendezvous.Handshake.Backoff

/-! The waits between two looks against the formula for them: the first wait times a power of the
factor, up to the cap. Only the width of the multiplier ever shows, and it makes waits too short. -/

namespace Rendezvous.Handshake.Backoff

variable {b : Backoff} {attempt : Nat}

/-- What the first wait is to be multiplied by. A factor of zero counts as one. -/
def multiplier (b : Backoff) (attempt : Nat) : Nat := (max b.factor.toNat 1).pow attempt

/-- The nanoseconds of the `attempt`th wait by the formula, in numbers without a bound. -/
def formula (b : Backoff) (attempt : Nat) : Nat :=
  min (b.initial.nanos * b.multiplier attempt) b.cap.nanos

def greatest : Nat := UInt32.size - 1

theorem nanos_delay_eq (b : Backoff) (attempt : Nat) :
    (b.delay attempt).nanos =
      min (b.initial.nanos * min (b.multiplier attempt) greatest) b.cap.nanos := by
  have hgrowth : growth b.factor attempt = min (b.multiplier attempt) greatest :=
    growth_eq b.factor attempt
  rw [nanos_delay, hgrowth]

theorem delay_le_formula (b : Backoff) (attempt : Nat) :
    (b.delay attempt).nanos ≤ b.formula attempt := by
  have hmul : b.initial.nanos * min (b.multiplier attempt) greatest ≤
      b.initial.nanos * b.multiplier attempt := Nat.mul_le_mul_left _ (Nat.min_le_left ..)
  rw [nanos_delay_eq, formula]
  omega

/-- The greatest multiplier brings the wait to the cap, or no multiplier does. -/
def Levels (b : Backoff) : Prop :=
  b.initial.nanos = 0 ∨ b.cap.nanos ≤ b.initial.nanos * greatest

theorem delay_eq_formula_iff :
    (b.delay attempt).nanos = b.formula attempt ↔ b.multiplier attempt ≤ greatest ∨ b.Levels := by
  rw [nanos_delay_eq, formula, Levels]
  by_cases hfits : b.multiplier attempt ≤ greatest
  · simp [hfits]
  · have hmin : min (b.multiplier attempt) greatest = greatest := by omega
    rw [hmin]
    by_cases hzero : b.initial.nanos = 0
    · simp [hzero]
    · have hlt : b.initial.nanos * greatest < b.initial.nanos * b.multiplier attempt :=
        Nat.mul_lt_mul_of_pos_left (by omega) (by omega)
      omega

/-- A wait that is not what the formula says is made with the greatest multiplier. -/
theorem delay_of_ne_formula (h : (b.delay attempt).nanos ≠ b.formula attempt) :
    (b.delay attempt).nanos = b.initial.nanos * greatest ∧
      (b.delay attempt).nanos < b.formula attempt := by
  have hle := b.delay_le_formula attempt
  refine ⟨?_, by omega⟩
  rw [Ne, delay_eq_formula_iff, Levels] at h
  have hmin : min (b.multiplier attempt) greatest = greatest := by omega
  rw [nanos_delay_eq, hmin]
  omega

theorem multiplier_of_factor_le_one (h : b.factor.toNat ≤ 1) (attempt : Nat) :
    b.multiplier attempt = 1 := by
  rw [multiplier, Nat.max_eq_right h, Nat.pow_eq, Nat.one_pow]

theorem greatest_lt_multiplier (h : 1 < b.factor.toNat) (hattempt : 32 ≤ attempt) :
    greatest < b.multiplier attempt :=
  calc greatest < Nat.pow 2 32 := by decide
    _ ≤ Nat.pow 2 attempt := Nat.pow_le_pow_right (by decide) hattempt
    _ ≤ b.multiplier attempt := Nat.pow_le_pow_left (by omega) _

/-- A wait is what the formula says if the multiplier fits in 32 bits or the greatest one is enough.
Else it is the first wait times the greatest multiplier, which is too short. A policy keeps to the
formula for good just if it does not multiply, or the greatest multiplier is enough. -/
theorem delay_keeps_formula_iff (b : Backoff) :
    (∀ attempt, ((b.delay attempt).nanos = b.formula attempt ↔
        b.multiplier attempt ≤ greatest ∨ b.Levels) ∧
      ((b.delay attempt).nanos ≠ b.formula attempt →
        (b.delay attempt).nanos = b.initial.nanos * greatest ∧
          (b.delay attempt).nanos < b.formula attempt)) ∧
    ((∀ attempt, (b.delay attempt).nanos = b.formula attempt) ↔
      b.factor.toNat ≤ 1 ∨ b.Levels) := by
  refine ⟨fun attempt => ⟨delay_eq_formula_iff, delay_of_ne_formula⟩, fun hall => ?_,
    fun h attempt => ?_⟩
  · by_cases hfactor : b.factor.toNat ≤ 1
    · exact .inl hfactor
    · have hlong := greatest_lt_multiplier (b := b) (by omega) (Nat.le_refl 32)
      rcases delay_eq_formula_iff.mp (hall 32) with hfits | hlevels
      · omega
      · exact .inr hlevels
  · rw [delay_eq_formula_iff]
    rcases h with hfactor | hlevels
    · rw [multiplier_of_factor_le_one hfactor]
      exact .inl (by decide)
    · exact .inr hlevels

/-- From a nanosecond on, every wait a hundred thousand times the one before, up to a minute. -/
def steepBackoff : Backoff := ⟨⟨1, by decide⟩, .ofSeconds 60, 100000, .ofSeconds 30⟩

/-- The third wait is to last ten seconds. -/
theorem steep_delay_falls_short :
    (steepBackoff.delay 2).nanos = 4294967295 ∧ steepBackoff.formula 2 = 10000000000 ∧
      (steepBackoff.delay 2).nanos ≠ steepBackoff.formula 2 := by
  decide

end Rendezvous.Handshake.Backoff
