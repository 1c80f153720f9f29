import Tabula.Double.Shortest

/-!
# Floating-point numbers as text

Which digits a number has is one question (`shortest`), how they are laid out another. A `Layout`
records the second: where positional notation ends, whether a whole number keeps `.0`, how an
exponent is written.
-/

namespace Tabula

/-- How the digits of a number are laid out. -/
structure Layout where
  /-- the exponents of the first digit that are written positionally; all of them if not given -/
  positional : Option (Int × Int)
  /-- a number without a fraction is written with `.0` -/
  keepPoint : Bool
  /-- which of two equally near shortest decimals is taken -/
  tie : Tie
  /-- the text of NaN -/
  nan : String
  /-- the text of positive infinity -/
  infinity : String

namespace Layout

/-- The digits of a positive decimal without an exponent. -/
def positionalText (l : Layout) (d : Decimal) : List Char :=
  let ds := Nat.toDigits 10 d.digits
  let tail := if l.keepPoint then ['.', '0'] else []
  if 0 ≤ d.exponent then ds ++ List.replicate d.exponent.toNat '0' ++ tail
  else
    let places := (-d.exponent).toNat
    if places < ds.length then
      ds.take (ds.length - places) ++ '.' :: ds.drop (ds.length - places)
    else '0' :: '.' :: List.replicate (places - ds.length) '0' ++ ds

/-- The exponent after its letter: always signed, as short as it can be. -/
def exponentText (e : Int) : List Char :=
  'e' :: (if 0 ≤ e then '+' else '-') :: Nat.toDigits 10 e.natAbs

/-- The digits of a positive decimal with an exponent: a point follows the first digit unless it
is the only one. -/
def scientificText (d : Decimal) : List Char :=
  let ds := Nat.toDigits 10 d.digits
  let e := d.exponent + ds.length - 1
  match ds with
  | [c] => c :: exponentText e
  | c :: rest => c :: '.' :: rest ++ exponentText e
  | [] => []

/-- A positive decimal in the layout. -/
def decimalText (l : Layout) (d : Decimal) : List Char :=
  match l.positional with
  | none => l.positionalText d
  | some (least, greatest) =>
    let e := d.exponent + digitCount d.digits - 1
    if least ≤ e && e ≤ greatest then l.positionalText d else scientificText d

/-- A number in the layout. -/
def text (l : Layout) (x : Double) : List Char :=
  if x.isNaN then l.nan.toList
  else
    let body :=
      if x.isInfinite then l.infinity.toList
      else if x.magnitude = 0 then (if l.keepPoint then "0.0" else "0").toList
      else l.decimalText (shortest l.tie x.magnitude)
    if x.isNegative then '-' :: body else body

end Layout

namespace Double

/-- On the wire a number keeps `.0` and has an exponent from `1e16` up and below `1e-5`; of two
nearest decimals the even one is written. -/
def wireLayout : Layout := ⟨some (-5, 15), true, .even, "NaN", "inf"⟩

/-- For people a number has no exponent, and no point unless it has a fraction. -/
def plainLayout : Layout := ⟨none, false, .up, "NaN", "inf"⟩

/-- The text of a number on the wire. -/
def wireText (x : Double) : String := String.ofList (wireLayout.text x)

/-- The text of a number for people. -/
def plainText (x : Double) : String := String.ofList (plainLayout.text x)

end Double

example : (Double.mk 0x3ff0000000000000).wireText = "1.0" := by decide +kernel
example : (Double.mk 0x3ff0000000000000).plainText = "1" := by decide +kernel
example : (Double.mk 0x3eb0c6f7a0b5ed8d).wireText = "1e-6" := by decide +kernel
example : (Double.mk 0x3ee4f8b588e368f1).wireText = "0.00001" := by decide +kernel
example : (Double.mk 0x4376345785d8a000).wireText = "1e+17" := by decide +kernel
example : (Double.mk 0x8000000000000000).plainText = "-0" := by decide +kernel

end Tabula
