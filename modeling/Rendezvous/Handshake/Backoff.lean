import Rendezvous.Time.Span

/-! How long to wait between two looks at the inviter's connections. -/

namespace Rendezvous.Handshake

/-- Waits that grow by a factor up to a cap, within a budget that starts at the first look. -/
structure Backoff where
  initial : Span
  cap : Span
  factor : UInt32
  budget : Span
deriving DecidableEq

namespace Backoff

def standard : Backoff := ⟨.ofMillis 250, .ofSeconds 2, 2, .ofSeconds 30⟩

def fixed (wait budget : Span) : Backoff := ⟨wait, wait, 1, budget⟩

/-- The multiplier of the `attempt`th wait, held within 32 bits. A factor of zero counts as one. -/
def growth (factor : UInt32) (attempt : Nat) : Nat :=
  if factor.toNat ≤ 1 then 1
  else if 32 ≤ attempt then UInt32.size - 1
  else min (factor.toNat.pow attempt) (UInt32.size - 1)

/-- The wait after the `attempt`th look, counted from zero, without regard to the budget. -/
def delay (b : Backoff) (attempt : Nat) : Span :=
  (b.initial.scale (growth b.factor attempt)).shorter b.cap

/-- The wait after the `attempt`th look, cut to what is left of the budget. -/
def next? (b : Backoff) (attempt : Nat) (elapsed : Span) : Option Span :=
  (b.budget.remaining? elapsed).map (b.delay attempt).shorter

theorem growth_eq (factor : UInt32) (attempt : Nat) :
    growth factor attempt = min ((max factor.toNat 1).pow attempt) (UInt32.size - 1) := by
  unfold growth
  split
  · rename_i h
    rw [Nat.max_eq_right h, Nat.pow_eq, Nat.one_pow]
    decide
  · rename_i h
    have hmax : max factor.toNat 1 = factor.toNat := by omega
    rw [hmax]
    split
    · rename_i h32
      have h2 : UInt32.size ≤ factor.toNat.pow attempt :=
        calc UInt32.size = Nat.pow 2 32 := by decide
          _ ≤ Nat.pow 2 attempt := Nat.pow_le_pow_right (by decide) h32
          _ ≤ factor.toNat.pow attempt := Nat.pow_le_pow_left (by omega) _
      omega
    · rfl

/-- The greatest span is no shorter than the cap, so a product held within it does not show. -/
theorem nanos_delay (b : Backoff) (attempt : Nat) :
    (b.delay attempt).nanos = min (b.initial.nanos * growth b.factor attempt) b.cap.nanos := by
  have hcap := b.cap.bounded
  rw [delay, Span.nanos_shorter, Span.scale, Span.nanos_saturate]
  omega

theorem next?_eq_none_iff {b : Backoff} {attempt : Nat} {elapsed : Span} :
    b.next? attempt elapsed = none ↔ b.budget.nanos ≤ elapsed.nanos := by
  simp [next?, Span.remaining?_eq_none_iff]

end Backoff

end Rendezvous.Handshake
