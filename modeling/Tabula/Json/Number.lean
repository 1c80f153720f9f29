import Tabula.Double.Reading
import Tabula.Json.Basic
import Tabula.Width

/-!
# Numbers read from JSON text

A whole number that fits 64 bits is kept as it is. Any other number is the product of two factors:
its first digits as far as they fit 64 bits, and a power of ten. Both factors are rounded to
floating-point numbers and so is their product, hence the result is not always the nearest number.
A product beyond every finite number is refused.
-/

namespace Tabula

/-- Reads digits into a significand while it fits 64 bits; with the digits that did not. -/
def takeDigits (significand : Nat) : List Char → Nat × List Char
  | [] => (significand, [])
  | c :: cs =>
    let next := 10 * significand + (c.toNat - '0'.toNat)
    if fitsUnsigned 64 next then takeDigits next cs else (significand, c :: cs)

/-- The power of ten nearest to `10 ^ k`. -/
def tenTo (k : Nat) : Double := Double.ofDecimal false 1 k

/-- A number times a power of ten, in steps of at most `10 ^ 308`; `none` if it is infinite. -/
def scaleByTen : Nat → Double → Int → Option Double
  | 0, x, _ => some x
  | steps + 1, x, e =>
    if e.natAbs ≤ 308 then
      if 0 ≤ e then
        let y := x.mul (tenTo e.toNat)
        if y.isInfinite then none else some y
      else some (x.div (tenTo e.natAbs))
    else if x.magnitude = 0 then some x
    else if 0 ≤ e then none
    else scaleByTen steps (x.div (tenTo 308)) (e + 308)

/-- The parts of a number in JSON text. -/
structure JsonNumeral where
  /-- a minus sign stands first -/
  negative : Bool
  /-- the digits before the point -/
  whole : List Char
  /-- the digits after the point, if there is one -/
  fraction : Option (List Char)
  /-- the exponent, if there is one: its sign and its digits -/
  exponent : Option (Bool × List Char)

namespace JsonNumeral

/-- The floating-point number of a significand and a power of ten. -/
def real? (negative : Bool) (significand : Nat) (e : Int) : Option JsonNumber :=
  (scaleByTen 4 (Double.ofInt significand) e).bind fun x =>
    JsonNumber.ofDouble? (if negative then x.neg else x)

/-- The number that the parts stand for; `none` if it is beyond every finite number. -/
def value? (n : JsonNumeral) : Option JsonNumber :=
  let (s, unread) := takeDigits 0 n.whole
  let (s', unread') := takeDigits s (n.fraction.getD [])
  let places : Int := unread.length - ((n.fraction.getD []).length - unread'.length : Nat)
  match n.exponent with
  | some (down, ds) =>
    let e := Text.digitsValue ds
    if !fitsUnsigned 31 e then
      if s' ≠ 0 && !down then none else JsonNumber.ofDouble? (Double.ofMagnitude n.negative 0)
    else real? n.negative s' (places + (if down then -(e : Int) else e))
  | none =>
    if n.fraction.isSome || unread ≠ [] then real? n.negative s' places
    else if n.negative then
      if s = 0 || !fitsSigned 64 (-(s : Int)) then JsonNumber.ofDouble? (Double.ofInt s).neg
      else some (.whole (-s))
    else some (.whole s)

end JsonNumeral

end Tabula
