/-! Lengths of time, exact to the nanosecond, and their text. -/

namespace Rendezvous

/-- A length of time: fewer than `2 ^ 64` seconds, in whole nanoseconds. -/
structure Span where
  nanos : Nat
  bounded : nanos < 18446744073709551616000000000

deriving instance DecidableEq for Span

namespace Span

def longest : Span := ⟨18446744073709551615999999999, by decide⟩

/-- The span of `n` nanoseconds, or the longest one if that is too long. -/
def saturate (n : Nat) : Span :=
  if h : n < 18446744073709551616000000000 then ⟨n, h⟩ else longest

def zero : Span := ⟨0, by decide⟩

instance : Inhabited Span := ⟨zero⟩

-- In these the literal stands first: `Nat.mul` and `Nat.add` recurse on the second argument, and
-- a large literal there is unfolded one by one when an open span is evaluated.
def ofMillis (n : UInt64) : Span :=
  ⟨1000000 * n.toNat, by have := n.toNat_lt; omega⟩

def ofSeconds (n : UInt64) : Span :=
  ⟨1000000000 * n.toNat, by have := n.toNat_lt; omega⟩

def seconds (d : Span) : Nat := d.nanos / 1000000000

/-- Nanoseconds beyond the whole seconds. -/
def subsec (d : Span) : Nat := d.nanos % 1000000000

/-- `k` times the span, or the longest one if that is too long. -/
def scale (d : Span) (k : Nat) : Span := saturate (d.nanos * k)

def shorter (a b : Span) : Span := if a.nanos ≤ b.nanos then a else b

def remaining? (a b : Span) : Option Span :=
  if b.nanos < a.nanos then some ⟨a.nanos - b.nanos, by have := a.bounded; omega⟩ else none

/-- The least number of whole milliseconds that covers the span. -/
def millisUp (d : Span) : Nat := (999999 + d.nanos) / 1000000

@[simp] theorem nanos_saturate (n : Nat) :
    (saturate n).nanos = min n (18446744073709551615999999999) := by
  unfold saturate longest
  split <;> simp only <;> omega

@[simp] theorem nanos_shorter (a b : Span) : (a.shorter b).nanos = min a.nanos b.nanos := by
  unfold shorter
  split <;> omega

theorem remaining?_eq_none_iff {a b : Span} : a.remaining? b = none ↔ a.nanos ≤ b.nanos := by
  unfold remaining?
  split <;> simp <;> omega

/-- `n` in decimal, padded with zeros to `width` places. -/
def padded (width n : Nat) : List Char :=
  let digits := Nat.toDigits 10 n
  List.replicate (width - digits.length) '0' ++ digits

/-- `whole` and `part / 10 ^ width` as a decimal number without idle zeros. -/
def decimal (whole part width : Nat) : String :=
  let places := ((padded width part).reverse.dropWhile (· == '0')).reverse
  toString whole ++ if places.isEmpty then "" else "." ++ String.ofList places

/-- The text in the largest unit of which the span holds at least one, in exact decimals. -/
def text (d : Span) : String :=
  if 1000000000 ≤ d.nanos then decimal (d.nanos / 1000000000) (d.nanos % 1000000000) 9 ++ "s"
  else if 1000000 ≤ d.nanos then decimal (d.nanos / 1000000) (d.nanos % 1000000) 6 ++ "ms"
  else if 1000 ≤ d.nanos then decimal (d.nanos / 1000) (d.nanos % 1000) 3 ++ "µs"
  else toString d.nanos ++ "ns"

end Span

/-- The longest wait, in milliseconds: thirty years of 365 days. -/
def longestWait : Nat := 30 * 365 * 86400 * 1000

/-- How far ahead of the clock a span ends, in milliseconds. -/
def ticksOf (d : Span) : Nat := min d.millisUp longestWait

end Rendezvous
