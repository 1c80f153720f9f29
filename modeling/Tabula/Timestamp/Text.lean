import Tabula.Text.Blank
import Tabula.Text.Numeral
import Tabula.Timestamp.Basic

/-!
# Timestamps as text

A timestamp is written `year-month-day hour:minute:second`, with a fraction of three, six or nine
digits unless it is on the second (`%F %T%.f`). A year outside `0` to `9999` carries a sign.
Nanoseconds past one milliard are written as one second more, so a leap second is the second 60.
Reading (`as_timestamp`) is more generous: blanks may stand before every number, and the blank
between date and time may be missing or be many.
-/

namespace Tabula.Timestamp

open Text (digitsValue)

/-- A natural in at least `width` decimal digits. -/
def padded (width n : Nat) : List Char :=
  let ds := Nat.toDigits 10 n
  List.replicate (width - ds.length) '0' ++ ds

/-- A year: four digits, or a sign and at least four. -/
def yearText (year : Int) : List Char :=
  if 0 ≤ year && year ≤ 9999 then padded 4 year.toNat
  else (if year < 0 then '-' else '+') :: padded 4 year.natAbs

/-- A fraction of a second, in as few groups of three digits as hold it. -/
def fractionText (nano : Nat) : List Char :=
  if nano = 0 then []
  else if nano % 1000000 = 0 then '.' :: padded 3 (nano / 1000000)
  else if nano % 1000 = 0 then '.' :: padded 6 (nano / 1000)
  else '.' :: padded 9 nano

/-- The text of a timestamp. -/
def chars (t : Timestamp) : List Char :=
  let leap := if t.nano < 1000000000 then 0 else 1
  yearText t.year ++ '-' :: padded 2 t.month ++ '-' :: padded 2 t.day ++
    ' ' :: padded 2 t.hour ++ ':' :: padded 2 t.minute ++ ':' :: padded 2 (t.second + leap) ++
    fractionText (t.nano % 1000000000)

/-- The text of a timestamp. -/
def text (t : Timestamp) : String := String.ofList t.chars

/-- At most `most` digits at the start of a text, at least one; with what follows them. -/
def digits? (most : Nat) (cs : List Char) : Option (List Char × List Char) :=
  let ds := (cs.take most).takeWhile Char.isDigit
  if ds = [] then none else some (ds, cs.drop ds.length)

/-- A number of one or two digits after any blanks. -/
def field? (cs : List Char) : Option (Nat × List Char) :=
  (digits? 2 (Text.trimStart cs)).map fun (ds, rest) => (digitsValue ds, rest)

/-- A year after any blanks: at most four digits, or a sign and any number of them. -/
def year? (cs : List Char) : Option (Int × List Char) :=
  match Text.trimStart cs with
  | '-' :: r => (digits? r.length r).map fun (ds, rest) => (-(digitsValue ds : Int), rest)
  | '+' :: r => (digits? r.length r).map fun (ds, rest) => ((digitsValue ds : Int), rest)
  | r => (digits? 4 r).map fun (ds, rest) => ((digitsValue ds : Int), rest)

/-- What follows a given character. -/
def after? (c : Char) : List Char → Option (List Char)
  | d :: r => if c = d then some r else none
  | [] => none

/-- The nanoseconds of a fraction that ends the text: none, or a point and at least one digit, of
which nine count. -/
def fraction? : List Char → Option Nat
  | [] => some 0
  | '.' :: r =>
    if r ≠ [] && r.all Char.isDigit then
      let ds := r.take 9
      some (digitsValue ds * Nat.pow 10 (9 - ds.length))
    else none
  | _ => none

/-- The timestamp that a text stands for, if it is the text of one. -/
def ofChars? (cs : List Char) : Option Timestamp := do
  let (year, cs) ← year? cs
  let (month, cs) ← field? (← after? '-' cs)
  let (day, cs) ← field? (← after? '-' cs)
  let (hour, cs) ← field? (Text.trimStart cs)
  let (minute, cs) ← field? (← after? ':' cs)
  let (second, cs) ← field? (← after? ':' cs)
  let nano ← fraction? cs
  if second = 60 then ofFields? year month day hour minute 59 (nano + 1000000000)
  else ofFields? year month day hour minute second nano

/-- The timestamp that a text stands for, if it is the text of one. -/
def ofText? (s : String) : Option Timestamp := ofChars? s.toList

example : (ofText? "2024-05-01 08:30:00").map text = some "2024-05-01 08:30:00" := by
  decide +kernel
example : (ofText? " +12024-5- 1\t8:3:60.5").map text = some "+12024-05-01 08:03:60.500" := by
  decide +kernel
example : (ofText? "-44-3-15 9:0:0").map text = some "-0044-03-15 09:00:00" := by decide +kernel
example : ofText? "2023-02-29 00:00:00" = none := by decide +kernel

end Tabula.Timestamp
