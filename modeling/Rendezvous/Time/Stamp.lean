import Rendezvous.Time.Span

/-! Points of time in Universal Time and their calendar text. -/

namespace Rendezvous

/-- Nanoseconds since the start of 1970, in Universal Time. -/
structure Stamp where
  nanos : Nat
deriving DecidableEq

namespace Stamp

def addMillis (s : Stamp) (ms : Nat) : Stamp := ⟨s.nanos + 1000000 * ms⟩

/-- Year, month and day of the `n`th day since the start of 1970. Years are counted from March, so
that a leap day ends its year. -/
def date (n : Nat) : Nat × Nat × Nat :=
  let z := n + 719468
  let era := z / 146097
  let dayOfEra := z % 146097
  let yearOfEra :=
    (dayOfEra - dayOfEra / 1460 + dayOfEra / 36524 - dayOfEra / 146096) / 365
  let dayOfYear := dayOfEra - (365 * yearOfEra + yearOfEra / 4 - yearOfEra / 100)
  let month := (5 * dayOfYear + 2) / 153
  let day := dayOfYear - (153 * month + 2) / 5 + 1
  let year := yearOfEra + era * 400
  if month < 10 then (year, month + 3, day) else (year + 1, month - 9, day)

private def twoDigits (n : Nat) : String := String.ofList (Span.padded 2 n)

/-- A fraction of a second has none, three, six or nine places. -/
def fraction (nanos : Nat) : String :=
  if nanos = 0 then ""
  else if nanos % 1000000 = 0 then "." ++ String.ofList (Span.padded 3 (nanos / 1000000))
  else if nanos % 1000 = 0 then "." ++ String.ofList (Span.padded 6 (nanos / 1000))
  else "." ++ String.ofList (Span.padded 9 nanos)

/-- Date, `T`, time of day and `Z`. A year of five digits or more carries a sign. -/
def text (s : Stamp) : String :=
  let secs := s.nanos / 1000000000
  let (year, month, day) := date (secs / 86400)
  let ofDay := secs % 86400
  let sign := if year < 10000 then "" else "+"
  sign ++ String.ofList (Span.padded 4 year) ++ "-" ++ twoDigits month ++ "-" ++ twoDigits day ++
    "T" ++ twoDigits (ofDay / 3600) ++ ":" ++ twoDigits (ofDay / 60 % 60) ++ ":" ++
    twoDigits (ofDay % 60) ++ fraction (s.nanos % 1000000000) ++ "Z"

end Stamp

end Rendezvous
