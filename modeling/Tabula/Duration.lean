/-!
# Durations

A length of time in whole nanoseconds. Its text uses the largest unit it reaches, with a fraction
that has no zeros at its end.
-/

namespace Tabula

/-- A length of time. -/
structure Duration where
  /-- the nanoseconds of the duration -/
  nanos : Nat
  deriving DecidableEq, Repr

namespace Duration

/-- The duration of some milliseconds. -/
def ofMillis (n : Nat) : Duration := ⟨n * 1000000⟩

/-- The longest duration, just below `2 ^ 64` seconds. -/
def longest : Duration := ⟨Nat.pow 2 64 * 1000000000 - 1⟩

/-- The whole milliseconds of a duration, at most `2 ^ 64 - 1` of them (`duration_ms`). -/
def millis (d : Duration) : Nat := min (d.nanos / 1000000) (Nat.pow 2 64 - 1)

/-- A fraction given by `width` decimal digits, without the zeros at its end. -/
def fractionText (width n : Nat) : List Char :=
  let ds := Nat.toDigits 10 n
  let padded := List.replicate (width - ds.length) '0' ++ ds
  match (padded.reverse.dropWhile (· = '0')).reverse with
  | [] => []
  | ds => '.' :: ds

/-- A duration in a unit of `10 ^ width` nanoseconds. -/
def inUnit (d : Duration) (width : Nat) (name : String) : String :=
  String.ofList (Nat.toDigits 10 (d.nanos / Nat.pow 10 width) ++
    fractionText width (d.nanos % Nat.pow 10 width)) ++ name

/-- The text of a duration. -/
def text (d : Duration) : String :=
  if 1000000000 ≤ d.nanos then d.inUnit 9 "s"
  else if 1000000 ≤ d.nanos then d.inUnit 6 "ms"
  else if 1000 ≤ d.nanos then d.inUnit 3 "µs"
  else d.inUnit 0 "ns"

example : (Duration.mk 1500000).text = "1.5ms" := by decide
example : (Duration.mk 0).text = "0ns" := by decide
example : longest.text = "18446744073709551615.999999999s" := by decide

end Duration

end Tabula
