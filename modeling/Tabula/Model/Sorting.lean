import Tabula.Double.Reading
import Tabula.Results.Row
import Tabula.Text.Blank
import Tabula.Text.Case

/-!
# Sorting rows

A `SortKey` names a column, a direction and a `SortMode`, the way in which two values of the column
are compared. `compareRows` compares by the keys in turn; `sortRows` keeps rows that compare equal
in their order.
-/

namespace Tabula

/-- The direction of a sort. -/
inductive SortDirection where
  /-- smaller values first -/
  | asc
  /-- larger values first -/
  | desc
  deriving DecidableEq, Inhabited

namespace SortDirection

/-- The name on the wire. -/
def name : SortDirection → String
  | .asc => "asc"
  | .desc => "desc"

/-- All directions. -/
def all : List SortDirection := [.asc, .desc]

/-- The direction of a name. -/
def ofName? (s : String) : Option SortDirection := all.find? fun d => d.name == s

/-- Decodes a direction. -/
def decode (d : Draft) : Except Mismatch SortDirection := do
  Draft.required (ofName? (← d.toName? (all.map name)))

/-- An order in a direction. -/
def apply : SortDirection → Ordering → Ordering
  | .asc, o => o
  | .desc, o => o.swap

end SortDirection

/-- How two values of a column are compared. -/
inductive SortMode where
  /-- numbers by value, texts with the numbers in them by value -/
  | natural
  /-- everything as a number -/
  | numeric
  /-- everything as a text -/
  | string
  /-- everything as a text in lower case, and then as it is -/
  | locale
  /-- everything as a text in lower case -/
  | caseInsensitive
  deriving DecidableEq, Inhabited

namespace SortMode

/-- The name on the wire. -/
def name : SortMode → String
  | .natural => "natural"
  | .numeric => "numeric"
  | .string => "string"
  | .locale => "locale"
  | .caseInsensitive => "case_insensitive"

/-- All modes. -/
def all : List SortMode := [.natural, .numeric, .string, .locale, .caseInsensitive]

/-- The mode of a name. -/
def ofName? (s : String) : Option SortMode := all.find? fun m => m.name == s

/-- Decodes a mode. -/
def decode (d : Draft) : Except Mismatch SortMode := do
  Draft.required (ofName? (← d.toName? (all.map name)))

end SortMode

/-! ## Values -/

/-- The number that a value counts as in a numeric sort. A text counts as the number that it is, and
everything that is no number as zero. -/
def Value.numeric : Value → Double
  | .bool b => if b then Double.ofInt 1 else .zero
  | .text s => (Double.ofText? (Text.trim s.toList)).getD .zero
  | v => v.asFloat?.getD .zero

/-- The order of texts by code points. -/
def compareText (s t : String) : Ordering := compareOfLessAndEq s t

/-- The order of two runs of digits. Without the zeros at its start the longer run comes later, and
runs of one length are in the order of texts. -/
def compareDigits (left right : List Char) : Ordering :=
  let l := left.dropWhile (· == '0')
  let r := right.dropWhile (· == '0')
  (compare l.length r.length).then (compareText (String.ofList l) (String.ofList r))

/-- The natural order of texts: runs of digits are compared as such, other characters by code point,
and a text comes before what it begins (`natural_cmp`). -/
def naturalCompare : List Char → List Char → Ordering
  | [], [] => .eq
  | [], _ :: _ => .lt
  | _ :: _, [] => .gt
  | x :: xs, y :: ys =>
    if x.isDigit && y.isDigit then
      let left := x :: xs.takeWhile Char.isDigit
      let right := y :: ys.takeWhile Char.isDigit
      (compareDigits left right).then
        (naturalCompare (xs.dropWhile Char.isDigit) (ys.dropWhile Char.isDigit))
    else (compare x.toNat y.toNat).then (naturalCompare xs ys)
termination_by xs => xs.length
decreasing_by
  · have := (List.dropWhile_suffix (l := xs) Char.isDigit).length_le
    simp only [List.length_cons]
    omega
  · simp

/-- The order of two values that are not null (`compare_values`). -/
def SortMode.compareValues : SortMode → Value → Value → Ordering
  | .numeric, a, b => a.numeric.totalCompare b.numeric
  | .string, a, b => compareText a.display b.display
  | .caseInsensitive, a, b =>
    compareText (Text.lowercase a.display) (Text.lowercase b.display)
  | .locale, a, b =>
    (compareText (Text.lowercase a.display) (Text.lowercase b.display)).then
      (compareText a.display b.display)
  | .natural, .int i, .int j => compare i.toInt j.toInt
  | .natural, .int i, .float y => (Double.ofInt i.toInt).totalCompare y
  | .natural, .float x, .int j => x.totalCompare (Double.ofInt j.toInt)
  | .natural, .float x, .float y => x.totalCompare y
  | .natural, .timestamp s, .timestamp t => s.compare t
  | .natural, a, b => naturalCompare a.display.toList b.display.toList

/-- The order of two values. Null comes before everything else. -/
def SortMode.compare (m : SortMode) (a b : Value) : Ordering :=
  match a.isNull, b.isNull with
  | true, true => .eq
  | true, false => .lt
  | false, true => .gt
  | false, false => m.compareValues a b

/-! ## Rows -/

/-- A column to sort by. -/
structure SortKey where
  /-- the name of the column -/
  column : String
  /-- the direction -/
  direction : SortDirection := .asc
  /-- how values are compared -/
  mode : SortMode := .natural

namespace SortKey

/-- The order of two rows by one key. A missing value counts as null. -/
def compare (k : SortKey) (a b : Row) : Ordering :=
  k.direction.apply (k.mode.compare (a.getOrNull k.column) (b.getOrNull k.column))

/-- The JSON value of a key. -/
def toJson (k : SortKey) : Json :=
  .object [("column", .string k.column), ("direction", .string k.direction.name),
    ("mode", .string k.mode.name)]

/-- The text of a key on the wire. -/
def wireText (k : SortKey) : String := k.toJson.text

/-- What has been found of a key. -/
structure Found where
  /-- the column -/
  column : Option String := none
  /-- the direction -/
  direction : Option SortDirection := none
  /-- the mode -/
  mode : Option SortMode := none

/-- Decodes one field. -/
def decodeField (f : Found) (name : String) (d : Draft) : Except Mismatch Found :=
  match name with
  | "column" => do return { f with column := ← Draft.once f.column d.toString? }
  | "direction" => do
    return { f with direction := ← Draft.once f.direction (SortDirection.decode d) }
  | _ => do return { f with mode := ← Draft.once f.mode (SortMode.decode d) }

/-- Decodes a key. Everything but the column may be missing. -/
def decode (d : Draft) : Except Mismatch SortKey := do
  let f ← d.toRecord? ["column", "direction", "mode"] decodeField {}
  return ⟨← Draft.required f.column, f.direction.getD .asc, f.mode.getD .natural⟩

end SortKey

/-- The order of two rows: the first key by which they differ decides (`compare_rows`). -/
def compareRows : List SortKey → Row → Row → Ordering
  | [], _, _ => .eq
  | k :: ks, a, b => (k.compare a b).then (compareRows ks a b)

/-- A row put among rows in descending order, in front of the first that is not above it. -/
def insertDescending (keys : List SortKey) (r : Row) : List Row → List Row
  | [] => [r]
  | s :: rest =>
    if compareRows keys r s == .lt then s :: insertDescending keys r rest else r :: s :: rest

/-- Rows in order by some keys (`sort_by`). Rows that compare equal keep their order. -/
def sortRows (keys : List SortKey) (rows : List Row) : List Row :=
  (rows.foldl (fun sorted r => insertDescending keys r sorted) []).reverse

end Tabula
