import Tabula.Sqlite.Pattern
import Tabula.Sqlite.Syntax

/-!
# Arithmetic on cells

Operations take cells for numbers, and null makes them null. Integers stay integers as long as the
result is one of 64 bits; beyond that, and where one operand is not an integer, the result is the
nearest floating-point number. What is not a number is null, and so is a quotient by zero.
-/

namespace Tabula.Sqlite

/-- A floating-point number as a cell. -/
def realCell (x : Double) : Cell := if x.isNaN then .null else .real x

/-- A floating-point number as an integer, toward zero; beyond the ends it is the end. -/
def truncated (x : Double) : Int64 :=
  match x.fraction? with
  | some (n, d) => .ofInt (max Int64.minValue.toInt (min Int64.maxValue.toInt (n.tdiv d)))
  | none => if x.isNegative then Int64.minValue else Int64.maxValue

/-- The integer that a text begins with; beyond the ends it is the end. -/
def leadingInteger (cs : List Char) : Int64 :=
  let (negative, ds) := match cs.dropWhile Cell.isNumberGap with
    | '-' :: r => (true, r)
    | '+' :: r => (false, r)
    | r => (false, r)
  let n : Int := Text.digitsValue (ds.takeWhile Char.isDigit)
  .ofInt (max Int64.minValue.toInt (min Int64.maxValue.toInt (if negative then -n else n)))

/-- The cell taken for an integer; null is none. -/
def Cell.asInteger? : Cell → Option Int64
  | .null => none
  | .integer i => some i
  | .real x => some (truncated x)
  | .text s => some (leadingInteger s.toList)
  | .blob bytes => some (leadingInteger (charsOfBytes bytes))

/-- The cell taken for a text; null is none. -/
def Cell.asText? : Cell → Option String
  | .null => none
  | .integer i => some (toString i.toInt)
  | .real x => some (String.ofList (realText x))
  | .text s => some s
  | .blob bytes => some ((String.fromUTF8? bytes.toByteArray).getD
      (String.ofList (charsOfBytes bytes)))

/-- The number that a number taken for a cell is, if it is one. -/
def Cell.real? : Cell → Option Double
  | .integer i => some (Double.ofInt i.toInt)
  | .real x => some x
  | _ => none

/-- The sum of two numbers, if it is a number. -/
def sum? (x y : Double) : Option Double :=
  if x.isInfinite && y.isInfinite && x.isNegative != y.isNegative then none
  else if x.isInfinite then some x
  else if y.isInfinite then some y
  else some (x.add y)

/-- The product of two numbers, if it is a number. -/
def product? (x y : Double) : Option Double :=
  if x.isInfinite || y.isInfinite then
    if x.magnitude = 0 || y.magnitude = 0 then none
    else some (.infinity (x.isNegative != y.isNegative))
  else some (x.mul y)

/-- The quotient of two numbers, if it is a number. -/
def quotient? (x y : Double) : Option Double :=
  if y.magnitude = 0 || x.isInfinite && y.isInfinite then none
  else if x.isInfinite then some (.infinity (x.isNegative != y.isNegative))
  else if y.isInfinite then some (.ofMagnitude (x.isNegative != y.isNegative) 0)
  else some (x.div y)

/-- An integer of any size as a cell, if it has 64 bits. -/
def integerCell? (i : Int) : Option Cell :=
  if fitsSigned 64 i then some (.integer (.ofInt i)) else none

namespace Arithmetic

/-- The result for two integers, if it is an integer. A quotient is taken toward zero. -/
def onIntegers? (i j : Int) : Arithmetic → Option Cell
  | .add => integerCell? (i + j)
  | .sub => integerCell? (i - j)
  | .mul => integerCell? (i * j)
  | .div => if j = 0 then none else integerCell? (i.tdiv j)
  | _ => none

/-- The result for two numbers that are not both integers, if it is a number. -/
def onReals? (x y : Double) : Arithmetic → Option Double
  | .add => sum? x y
  | .sub => sum? x y.neg
  | .mul => product? x y
  | .div => quotient? x y
  | _ => none

/-- A sum, a difference, a product or a quotient. -/
def numeric (op : Arithmetic) (a b : Cell) : Cell :=
  let (a, b) := (a.asNumber, b.asNumber)
  let onReals := ((a.real?.bind fun x => b.real?.bind fun y => op.onReals? x y).map realCell).getD
    .null
  match a, b with
  | .integer i, .integer j => (op.onIntegers? i.toInt j.toInt).getD onReals
  | _, _ => onReals

/-- A remainder, which has the sign of the first operand. -/
def remainder (a b : Cell) : Cell :=
  match a.asInteger?, b.asInteger? with
  | some i, some j =>
    if j = 0 then .null
    else
      let r := i.toInt.tmod j.toInt
      match a.asNumber, b.asNumber with
      | .integer _, .integer _ => .integer (.ofInt r)
      | _, _ => .real (Double.ofInt r)
  | _, _ => .null

/-- Bits moved up, or down by a negative number. Moved down, they keep the sign. -/
def shifted (i n : Int) : Int :=
  if 0 ≤ n then (if 64 ≤ n then 0 else i * (Nat.pow 2 n.toNat : Nat))
  else i.fdiv (Nat.pow 2 (min 64 n.natAbs) : Nat)

/-- An operation on the bits of two integers. -/
def onBits (i j : Int64) : Arithmetic → Int64
  | .bitAnd => i &&& j
  | .bitOr => i ||| j
  | .shiftUp => .ofInt (shifted i.toInt j.toInt)
  | .shiftDown => .ofInt (shifted i.toInt (-j.toInt))
  | _ => 0

/-- The result of an operation on two cells. -/
def apply (op : Arithmetic) (a b : Cell) : Cell :=
  match op with
  | .concat =>
    match a.asText?, b.asText? with
    | some s, some t => .text (s ++ t)
    | _, _ => .null
  | .rem => remainder a b
  | .add | .sub | .mul | .div => op.numeric a b
  | _ =>
    match a.asInteger?, b.asInteger? with
    | some i, some j => .integer (op.onBits i j)
    | _, _ => .null

end Arithmetic

end Tabula.Sqlite
