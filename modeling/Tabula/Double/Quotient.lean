/-!
# Quotients of naturals

Exact non-negative numbers as a numerator over a denominator, moved up and down by powers of a base.
`roundDiv` is the nearest natural to a quotient.
-/

namespace Tabula

/-- The number `m · base ^ e` as a quotient. -/
def powerQuotient (base m : Nat) (e : Int) : Nat × Nat :=
  if 0 ≤ e then (m * Nat.pow base e.toNat, 1) else (m, Nat.pow base (-e).toNat)

/-- The quotient `num / den` divided by `base ^ e`, as a quotient again. -/
def overPower (base num den : Nat) (e : Int) : Nat × Nat :=
  if 0 ≤ e then (num, den * Nat.pow base e.toNat) else (num * Nat.pow base (-e).toNat, den)

/-- The quotient to the nearest natural, a tie to the even one. -/
def roundDiv (num den : Nat) : Nat :=
  let q := num / den
  let r := 2 * (num % den)
  if r < den || (r == den && q % 2 == 0) then q else q + 1

end Tabula
