import Tabula.Double.Quotient

/-!
# Binary floating-point numbers by their bits

A `Double` is the 64 bits of an IEEE 754 binary64 number, so equality is equality of bits and every
operation below is exact arithmetic on naturals followed by one rounding, `Format.round`. The same
rounding serves binary32, which the binary wire format needs.

* `Format.round` is the nearest number of a format to a quotient, ties to the even significand.
* `Double.fraction?` is the exact value of a finite number.
* `Double.totalKey` orders all bit patterns, NaNs included.
-/

namespace Tabula

/-- A binary interchange format: the bits of the significand, the leading one included, and the
bits of the exponent field. -/
structure Format where
  /-- bits of the significand, the leading one included -/
  precision : Nat
  /-- bits of the exponent field -/
  width : Nat

namespace Format

/-- The format of 64 bits. -/
def binary64 : Format := ⟨53, 11⟩

/-- The format of 32 bits. -/
def binary32 : Format := ⟨24, 8⟩

variable (f : Format)

/-- The weight of the last bit of the smallest numbers is two to this power. -/
def leastExponent : Int := 2 - (Nat.pow 2 (f.width - 1) : Nat) - (f.precision - 1 : Nat)

/-- The significand from which on a number is normal. -/
def hidden : Nat := Nat.pow 2 (f.precision - 1)

/-- The bits of infinity, without a sign. -/
def infinity : Nat := (Nat.pow 2 f.width - 1) * f.hidden

/-- The bits of the sign. -/
def signBit : Nat := Nat.pow 2 f.width * f.hidden

/-- The bits of the number `m · 2 ^ e`, for a significand of at most `precision` bits that is
normal unless `e` is least. A significand of one bit more carries into the exponent. -/
def assemble (m : Nat) (e : Int) : Nat :=
  if m < f.hidden then m
  else (e - f.leastExponent + 1).toNat * f.hidden + (m - f.hidden)

/-- The significand and the exponent of finite bits without a sign. -/
def parts (bits : Nat) : Nat × Int :=
  if bits < f.hidden then (bits, f.leastExponent)
  else (bits % f.hidden + f.hidden, f.leastExponent + ((bits / f.hidden : Nat) - 1))

end Format

/-- The bits of the number of the format nearest to `num / den`, ties to the even significand;
what is too large is infinity. -/
def Format.round (f : Format) (num den : Nat) : Nat :=
  if num = 0 then 0
  else
    let e₀ := max f.leastExponent ((num.log2 : Int) - den.log2 - f.precision)
    let (n₀, d₀) := overPower 2 num den e₀
    let e := if n₀ / d₀ < Nat.pow 2 f.precision then e₀ else e₀ + 1
    let (n, d) := overPower 2 num den e
    min (f.assemble (roundDiv n d) e) f.infinity

/-- An IEEE 754 binary64 number, given by its bits. -/
structure Double where
  /-- the sign, the exponent field and the fraction, from the highest bit down -/
  bits : UInt64
  deriving DecidableEq, Inhabited

namespace Double

/-- The number of a sign and of bits without a sign. -/
def ofMagnitude (negative : Bool) (bits : Nat) : Double :=
  ⟨UInt64.ofNat (if negative then bits + Format.binary64.signBit else bits)⟩

/-- The sign bit is set. -/
def isNegative (x : Double) : Bool := x.bits.toNat ≥ Format.binary64.signBit

/-- The bits without the sign. -/
def magnitude (x : Double) : Nat := x.bits.toNat % Format.binary64.signBit

/-- The number is not a number. -/
def isNaN (x : Double) : Bool := x.magnitude > Format.binary64.infinity

/-- The number is one of the infinities. -/
def isInfinite (x : Double) : Bool := x.magnitude == Format.binary64.infinity

/-- The number is neither infinite nor NaN. -/
def isFinite (x : Double) : Bool := x.magnitude < Format.binary64.infinity

/-- Positive zero. -/
def zero : Double := ⟨0⟩

/-- The usual NaN, without a sign. -/
def nan : Double := ⟨0x7ff8000000000000⟩

/-- Infinity with a sign. -/
def infinity (negative : Bool) : Double := ofMagnitude negative Format.binary64.infinity

/-- The same number with the other sign. -/
def neg (x : Double) : Double := ofMagnitude (!x.isNegative) x.magnitude

/-- The nearest number to `num / den` with a sign. -/
def ofQuotient (negative : Bool) (num den : Nat) : Double :=
  ofMagnitude negative (Format.binary64.round num den)

/-- The nearest number to an integer. -/
def ofInt (i : Int) : Double := ofQuotient (i < 0) i.natAbs 1

/-- The absolute value of a finite number, as a quotient. -/
def quotient (x : Double) : Nat × Nat :=
  let (m, e) := Format.binary64.parts x.magnitude
  powerQuotient 2 m e

/-- The exact value of a finite number, as a numerator and a denominator. -/
def fraction? (x : Double) : Option (Int × Nat) :=
  if x.isFinite then
    let (n, d) := x.quotient
    some (if x.isNegative then -n else n, d)
  else none

/-- The nearest number to the product of two finite numbers. -/
def mul (x y : Double) : Double :=
  let (a, b) := x.quotient
  let (c, d) := y.quotient
  ofQuotient (x.isNegative != y.isNegative) (a * c) (b * d)

/-- The nearest number to the quotient of two finite numbers, the second not zero. -/
def div (x y : Double) : Double :=
  let (a, b) := x.quotient
  let (c, d) := y.quotient
  ofQuotient (x.isNegative != y.isNegative) (a * d) (b * c)

/-- The nearest number to the sum of two finite numbers. Zero is positive unless both are negative
zeros. -/
def add (x y : Double) : Double :=
  let (a, b) := x.quotient
  let (c, d) := y.quotient
  let signed (z : Double) (n : Nat) : Int := if z.isNegative then -(n : Int) else n
  let n := signed x (a * d) + signed y (c * b)
  let negative : Bool := n < 0 || (n = 0 && x.isNegative && y.isNegative)
  ofQuotient negative n.natAbs (b * d)

/-- A key whose order is the total order of IEEE 754: negative NaNs, numbers by value with negative
zero below positive zero, positive NaNs. -/
def totalKey (x : Double) : Int :=
  if x.isNegative then -(x.magnitude : Int) - 1 else x.magnitude

/-- The total order of IEEE 754. -/
def totalCompare (x y : Double) : Ordering := compare x.totalKey y.totalKey

/-- Equality as numbers: the zeros are equal and a NaN equals nothing. -/
def sameNumber (x y : Double) : Bool :=
  !x.isNaN && !y.isNaN && (x == y || (x.magnitude == 0 && y.magnitude == 0))

/-- How a number that is not NaN compares with an integer, by exact value. -/
def compareInt (x : Double) (i : Int) : Ordering :=
  match x.fraction? with
  | some (n, d) => compare n (i * d)
  | none => if x.isNegative then .lt else .gt

/-- How two numbers that are not NaN compare, by value. -/
def compareNumber (x y : Double) : Ordering :=
  if x.magnitude == 0 && y.magnitude == 0 then .eq else x.totalCompare y

/-- The bit of the fraction by which a NaN is quiet. -/
def quietBit (f : Format) : Nat := f.hidden / 2

/-- The bits by which a fraction of binary64 is longer than one of binary32. -/
def fractionGap : Nat := Format.binary64.hidden / Format.binary32.hidden

/-- The bits of the nearest binary32 number. A NaN keeps the upper bits of its fraction and becomes
quiet. -/
def toSingle (x : Double) : UInt32 :=
  let sign := if x.isNegative then Format.binary32.signBit else 0
  let bits :=
    if x.isNaN then
      Format.binary32.infinity +
        ((x.magnitude % Format.binary64.hidden) / fractionGap ||| quietBit .binary32)
    else if x.isInfinite then Format.binary32.infinity
    else
      let (n, d) := x.quotient
      Format.binary32.round n d
  UInt32.ofNat (sign + bits)

/-- The number of a binary32 number's bits. A NaN keeps its fraction and becomes quiet. -/
def ofSingle (bits : UInt32) : Double :=
  let negative : Bool := bits.toNat ≥ Format.binary32.signBit
  let m := bits.toNat % Format.binary32.signBit
  if m > Format.binary32.infinity then
    ofMagnitude negative
      (Format.binary64.infinity +
        ((m % Format.binary32.hidden) * fractionGap ||| quietBit .binary64))
  else if m = Format.binary32.infinity then infinity negative
  else
    let (c, e) := Format.binary32.parts m
    let (n, d) := powerQuotient 2 c e
    ofQuotient negative n d

/-- The total order is decided by the bits alone: equal keys are equal numbers. -/
theorem totalKey_injective {x y : Double} (h : x.totalKey = y.totalKey) : x = y := by
  have hx := x.bits.toNat_lt
  have hy := y.bits.toNat_lt
  have hs : Format.binary64.signBit = 9223372036854775808 := by decide
  have key : x.bits.toNat = y.bits.toNat := by
    simp only [totalKey, isNegative, magnitude, hs] at h
    split at h <;> split at h <;> simp_all <;> omega
  cases x; cases y
  simp only [mk.injEq]
  exact UInt64.toNat_inj.mp key

end Double

end Tabula
