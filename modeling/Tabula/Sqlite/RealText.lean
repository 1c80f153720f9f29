import Tabula.Double.Layout
import Tabula.Double.Reading

/-!
# Floating-point numbers as texts of the database

A number is written with seventeen digits at most. They are taken from a few more digits, computed
once; where these show that the number is a short decimal, with nines or zeros up to the end, it is
written as that decimal.
-/

namespace Tabula.Sqlite

/-- The digits of a positive finite number on a grid that leaves it eighteen or nineteen of them, to
the nearest one. -/
def guardedDigits (bits : Nat) : Decimal :=
  let (m, e) := Format.binary64.parts bits
  let (below, unit) := powerQuotient 2 1 (e + m.log2)
  let k := decimalExponent below unit - 17
  let (n, d) := powerQuotient 2 m e
  let (a, b) := overPower 10 n d k
  ⟨(2 * a + b) / (2 * b), k⟩

/-- The number of digits that are enough if the number is what is left of its first fourteen digits
without some digit at their end, plus something in the last place. -/
def enough? (bits : Nat) (d : Decimal) (last : Char) (plus : Nat) : Option Nat :=
  let ds := Nat.toDigits 10 d.digits
  let kept := ((ds.take 14).reverse.dropWhile (· = last)).reverse
  let e := d.exponent + ds.length - kept.length
  let short := Double.ofDecimal false (Text.digitsValue kept + plus) e
  if short.magnitude = bits then some (kept.length + 1) else none

/-- How many digits of a number are written, given its digits. -/
def writtenDigits (bits : Nat) (d : Decimal) : Nat :=
  let ds := Nat.toDigits 10 d.digits
  let enough :=
    if (ds.drop 14).take 2 = ['9', '9'] then enough? bits d '9' 1
    else if 0 ≤ d.exponent || (ds.drop 13).take 3 = ['0', '0', '0'] then enough? bits d '0' 0
    else none
  enough.getD 17

/-- A positive finite number as it is written: the digits behind are rounded half up. -/
def writtenDecimal (bits : Nat) : Decimal :=
  let d := guardedDigits bits
  let cut := digitCount d.digits - writtenDigits bits d
  let unit := Nat.pow 10 cut
  Decimal.strip 19 ⟨(2 * d.digits + unit) / (2 * unit), d.exponent + cut⟩

/-- The exponent of a number after its letter: signed, of two digits at least. -/
def exponentText (e : Int) : List Char :=
  let ds := Nat.toDigits 10 e.natAbs
  'e' :: (if e < 0 then '-' else '+') :: List.replicate (2 - ds.length) '0' ++ ds

/-- A positive decimal, with a point in any case and an exponent for large and small ones. -/
def decimalText (d : Decimal) : List Char :=
  let ds := Nat.toDigits 10 d.digits
  let e := d.exponent + ds.length - 1
  if -4 ≤ e && e ≤ 16 then Double.wireLayout.positionalText d
  else
    let rest := if ds.length = 1 then ['0'] else ds.drop 1
    ds.take 1 ++ '.' :: rest ++ exponentText e

/-- A floating-point number as a text. Zero has no sign. -/
def realText (x : Double) : List Char :=
  if x.magnitude = 0 then "0.0".toList
  else
    let body := if x.isInfinite then "Inf".toList else decimalText (writtenDecimal x.magnitude)
    if x.isNegative then '-' :: body else body

end Tabula.Sqlite
