import Tabula.Double.Basic

/-!
# The fewest digits that read back

A positive number is the nearest one to a whole interval of reals, `Rounding`. On the grid of the
decimals with `n` significant digits only the two neighbours of the number can be the ones to
choose; `shortest` takes the first grid with a neighbour in the interval, and of two the nearer.
-/

namespace Tabula

/-- A positive decimal `digits · 10 ^ exponent`. -/
structure Decimal where
  /-- the significant digits, read as a natural -/
  digits : Nat
  /-- the weight of the last digit -/
  exponent : Int
  deriving DecidableEq, Repr

/-- Which of two equally near decimals is taken. -/
inductive Tie where
  /-- the one whose last digit is even -/
  | even
  /-- the larger one -/
  | up
  deriving DecidableEq

/-- How many decimal digits a natural has. -/
def digitCount (n : Nat) : Nat := (Nat.toDigits 10 n).length

/-- The greatest `k` with `10 ^ k ≤ num / den`, for a positive quotient. -/
def decimalExponent (num den : Nat) : Int :=
  if den ≤ num then (digitCount (num / den) : Int) - 1
  else -(digitCount ((den - 1) / num) : Int)

/-- The reals that round to a positive finite number, over a common denominator. -/
structure Rounding where
  /-- the lower end -/
  low : Nat
  /-- the number itself -/
  mid : Nat
  /-- the upper end -/
  high : Nat
  /-- the denominator of all three -/
  den : Nat
  /-- the ends belong to the interval -/
  closed : Bool

/-- The interval of a positive finite number. Below a power of two the gap is half as wide. -/
def Rounding.ofMagnitude (bits : Nat) : Rounding :=
  let f := Format.binary64
  let (m, e) := f.parts bits
  let narrow : Bool := m = f.hidden && f.leastExponent < e
  let (low, mid, high) := if narrow then (4 * m - 1, 4 * m, 4 * m + 2)
    else (4 * m - 2, 4 * m, 4 * m + 2)
  let closed : Bool := m % 2 = 0
  let (k, den) := powerQuotient 2 1 (e - 2)
  ⟨low * k, mid * k, high * k, den, closed⟩

/-- The decimal `c · 10 ^ k` lies in the interval. -/
def Rounding.holds (r : Rounding) (c : Nat) (k : Int) : Bool :=
  let (a, b) := powerQuotient 10 c k
  if r.closed then r.low * b ≤ a * r.den && a * r.den ≤ r.high * b
  else r.low * b < a * r.den && a * r.den < r.high * b

/-- The decimal of the grid of `n` digits that is chosen, if one of them lies in the interval. -/
def Rounding.onGrid? (r : Rounding) (tie : Tie) (top : Int) (n : Nat) : Option Decimal :=
  let k := top - n + 1
  let (a, b) := overPower 10 r.mid r.den k
  let c := a / b
  let below := r.holds c k
  let above := r.holds (c + 1) k
  let twice := 2 * (a % b)
  let takeAbove : Bool := match tie with
    | .even => b < twice || (twice == b && c % 2 == 1)
    | .up => b ≤ twice
  if below && above then some ⟨if takeAbove then c + 1 else c, k⟩
  else if below then some ⟨c, k⟩
  else if above then some ⟨c + 1, k⟩
  else none

/-- Moves the zeros at the end of the digits into the exponent, at most `fuel` of them. -/
def Decimal.strip : Nat → Decimal → Decimal
  | 0, d => d
  | fuel + 1, d =>
    if d.digits ≠ 0 && d.digits % 10 = 0 then strip fuel ⟨d.digits / 10, d.exponent + 1⟩ else d

/-- The shortest decimal that reads back to a positive finite number, the nearest of those. -/
def shortest (tie : Tie) (bits : Nat) : Decimal :=
  let r := Rounding.ofMagnitude bits
  let top := decimalExponent r.mid r.den
  match (List.range 17).findSome? fun n => r.onGrid? tie top (n + 1) with
  | some d => d.strip 17
  | none => ⟨0, 0⟩

end Tabula
