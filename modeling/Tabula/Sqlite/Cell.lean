import Tabula.Double.Layout
import Tabula.Double.Reading
import Tabula.Value.Basic
import Tabula.Width

/-!
# Cells of the in-memory database

What a table holds and what expressions compute. Cells of all kinds are ordered: null, numbers by
value, texts by their bytes, bytes.
-/

namespace Tabula.Sqlite

/-- What a table holds. -/
inductive Cell where
  /-- no value -/
  | null
  /-- an integer of 64 bits -/
  | integer (i : Int64)
  /-- a floating-point number -/
  | real (x : Double)
  /-- a text -/
  | text (s : String)
  /-- bytes -/
  | blob (bytes : List UInt8)
  deriving DecidableEq, Inhabited

namespace Cell

/-! ## Values as cells -/

/-- The cell of a value (`row_value_to_sqlite_value`). Truth values become integers; timestamps and
JSON become texts. -/
def ofValue : Value → Cell
  | .int i => .integer i
  | .float x => .real x
  | .text s => .text s
  | .bool b => .integer (if b then 1 else 0)
  | .timestamp t => .text t.text
  | .null => .null
  | .json j => .text j.text
  | .blob bytes => .blob bytes

/-- The cell as a parameter of a statement, where no number is NaN. -/
def asParameter : Cell → Cell
  | .real x => if x.isNaN then .null else .real x
  | c => c

/-- The value of a cell. -/
def toValue : Cell → Value
  | .null => .null
  | .integer i => .int i
  | .real x => .float x
  | .text s => .text s
  | .blob bytes => .blob bytes

/-! ## Numbers and texts -/

/-- A blank around a number. -/
def isNumberGap (c : Char) : Bool := c = ' ' || ('\t' ≤ c && c ≤ '\r')

/-- The number that a text is, with blanks around it allowed. -/
def numberOf? (cs : List Char) : Option Cell :=
  let trimmed := ((cs.dropWhile isNumberGap).reverse.dropWhile isNumberGap).reverse
  let (negative, ds) := match trimmed with
    | '-' :: r => (true, r)
    | '+' :: r => (false, r)
    | r => (false, r)
  match Double.decimalOf? ds with
  | none => none
  | some (digits, e) =>
    let n : Int := if negative then -(digits : Int) else digits
    if ds.all Char.isDigit && fitsSigned 64 n then some (.integer (.ofInt n))
    else some (.real (Double.ofDecimal negative digits e))

/-- An integer is so small that a floating-point number is sure to hold it. -/
def isModest (i : Int64) : Bool := fitsSigned 52 i.toInt

/-- The number that a text is. A text ends at a null character, but one with something behind it is
not an integer unless it is a modest one. -/
def numberOfText? (s : String) : Option Cell :=
  let cs := s.toList.takeWhile (· ≠ '\u0000')
  match numberOf? cs with
  | some (.integer i) =>
    if cs.length = s.length || isModest i then some (.integer i)
    else some (.real (Double.ofInt i.toInt))
  | c => c

/-- The cell as a number, if it is the text of one. -/
def toNumeric : Cell → Cell
  | .text s => (numberOfText? s).getD (.text s)
  | c => c

/-- A floating-point number as the integer that it is; the least and the greatest do not count. -/
def wholeOf? (x : Double) : Option Int64 :=
  match x.fraction? with
  | some (n, d) =>
    let i := n / d
    if n % d = 0 && Int64.minValue.toInt < i && i < Int64.maxValue.toInt then some (.ofInt i)
    else none
  | none => none

/-- The integer that a cell stands for, as a key can hold it. -/
def toKey? (c : Cell) : Option Int64 :=
  match c.toNumeric with
  | .integer i => some i
  | .real x => wholeOf? x
  | _ => none

/-! ## Order -/

/-- The place of a kind among the kinds. -/
def rank : Cell → Nat
  | .null => 0
  | .integer _ => 1
  | .real _ => 1
  | .text _ => 2
  | .blob _ => 3

/-- The order of cells. -/
def compare (a b : Cell) : Ordering :=
  match a, b with
  | .integer i, .integer j => Ord.compare i.toInt j.toInt
  | .integer i, .real y => (y.compareInt i.toInt).swap
  | .real x, .integer j => x.compareInt j.toInt
  | .real x, .real y => x.compareNumber y
  | .text s, .text t => compareOfLessAndEq s t
  | .blob x, .blob y => compareOfLessAndEq (x.map UInt8.toNat) (y.map UInt8.toNat)
  | a, b => Ord.compare a.rank b.rank

/-! ## Truth -/

/-- A character that can stand in a number or around it. -/
def isNumberChar (c : Char) : Bool := isNumberGap c || c.isDigit || "+-.eE".contains c

/-- The longest number that a text begins with. -/
def leadingNumber (cs : List Char) : Cell :=
  let cs := cs.takeWhile isNumberChar
  ((List.range (cs.length + 1)).reverse.findSome? fun n => numberOf? (cs.take n)).getD (.integer 0)

/-- Bytes as characters of the same codes. -/
def charsOfBytes (bytes : List UInt8) : List Char := bytes.map fun b => Char.ofNat b.toNat

/-- The cell taken for a number; null is none. -/
def asNumber : Cell → Cell
  | .text s => leadingNumber s.toList
  | .blob bytes => leadingNumber (charsOfBytes bytes)
  | c => c

/-- Whether a cell counts as true; null is neither. -/
def truth? (c : Cell) : Option Bool :=
  match c.asNumber with
  | .integer i => some (i ≠ 0)
  | .real x => some (x.magnitude ≠ 0)
  | _ => none

/-- The cell of a truth value. -/
def ofTruth : Option Bool → Cell
  | some true => .integer 1
  | some false => .integer 0
  | none => .null

end Cell

end Tabula.Sqlite
