import Tabula.Double.Basic
import Tabula.Double.Shortest
import Tabula.Text.Numeral

/-!
# Floating-point numbers read from text

`Double.ofText?` reads the decimal notation people write: an optional sign; then digits with an
optional point and an optional exponent, at least one digit standing before or after the point; or
one of the words `inf`, `infinity` and `nan` in any case. The number is the nearest one.
-/

namespace Tabula.Double

open Text (digitsValue)

/-- The nearest number to `digits · 10 ^ exponent`. Exponents beyond every finite number, and below
every number but zero, are not computed. -/
def ofDecimal (negative : Bool) (digits : Nat) (exponent : Int) : Double :=
  if digits = 0 then ofMagnitude negative 0
  else
    let top := exponent + digitCount digits
    if 310 < top then infinity negative
    else if top < -330 then ofMagnitude negative 0
    else
      let (n, d) := powerQuotient 10 digits exponent
      ofQuotient negative n d

/-- An exponent after its letter: an optional sign and at least one digit, to the end. -/
def exponentOf? (cs : List Char) : Option Int :=
  let (negative, ds) := match cs with
    | '-' :: r => (true, r)
    | '+' :: r => (false, r)
    | r => (false, r)
  if ds ≠ [] && ds.all Char.isDigit then
    some (if negative then -(digitsValue ds : Int) else digitsValue ds)
  else none

/-- The digits and the exponent of unsigned decimal notation. -/
def decimalOf? (cs : List Char) : Option (Nat × Int) :=
  let whole := cs.takeWhile Char.isDigit
  let (fraction, rest) := match cs.dropWhile Char.isDigit with
    | '.' :: r => (r.takeWhile Char.isDigit, r.dropWhile Char.isDigit)
    | r => ([], r)
  if whole = [] && fraction = [] then none
  else
    let digits := digitsValue (whole ++ fraction)
    match rest with
    | [] => some (digits, -(fraction.length : Int))
    | c :: r =>
      if c = 'e' || c = 'E' then (exponentOf? r).map fun e => (digits, e - fraction.length)
      else none

/-- The number that an unsigned text stands for. -/
def ofUnsigned? (negative : Bool) (cs : List Char) : Option Double :=
  let word := cs.map Char.toLower
  if word = "inf".toList || word = "infinity".toList then some (infinity negative)
  else if word = "nan".toList then some (if negative then nan.neg else nan)
  else (decimalOf? cs).map fun (digits, e) => ofDecimal negative digits e

/-- The number that a text stands for. -/
def ofText? (cs : List Char) : Option Double :=
  match cs with
  | '-' :: r => ofUnsigned? true r
  | '+' :: r => ofUnsigned? false r
  | r => ofUnsigned? false r

example : ofText? "5.".toList = some (ofInt 5) := by decide +kernel
example : ofText? ".5".toList = some ⟨0x3fe0000000000000⟩ := by decide +kernel
example : ofText? ".".toList = none := by decide +kernel
example : ofText? "-Infinity".toList = some (infinity true) := by decide +kernel

end Tabula.Double
