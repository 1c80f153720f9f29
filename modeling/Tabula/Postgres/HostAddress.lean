import Tabula.Text.Numeral

/-!
# Addresses of hosts

An address of version 4 is four decimal numbers of one byte with points between them. An address of
version 6 is eight hexadecimal numbers of two bytes with colons between them; two colons in a row
stand, once, for one or more of them that are zero, and an address of version 4 can stand for the
last two.
-/

namespace Tabula.Postgres.HostAddress

/-- A number of one byte, without zeros in front of it. -/
def isByte (s : String) : Bool :=
  let ds := s.toList
  ds ≠ [] && ds.length ≤ 3 && ds.all Char.isDigit && (ds.length = 1 || ds.head? ≠ some '0') &&
    Text.digitsValue ds < 256

/-- An address of version 4. -/
def isVersion4 (s : String) : Bool :=
  let parts := s.splitOn "."
  parts.length = 4 && parts.all isByte

/-- A hexadecimal number of two bytes. -/
def isPair (s : String) : Bool :=
  let ds := s.toList
  ds ≠ [] && ds.length ≤ 4 && ds.all fun c => (Text.hexDigit? c).isSome

/-- How many numbers of two bytes some parts are; the last part can be an address of version 4 if
that is allowed. -/
def pairs? (mixed : Bool) : List String → Option Nat
  | [] => some 0
  | [s] => if isPair s then some 1 else if mixed && isVersion4 s then some 2 else none
  | s :: rest => if isPair s then (pairs? mixed rest).map (· + 1) else none

/-- How many numbers of two bytes there are in a run of them, which may be empty. -/
def run? (mixed : Bool) (s : String) : Option Nat :=
  if s = "" then some 0 else pairs? mixed (s.splitOn ":")

/-- An address of version 6. -/
def isVersion6 (s : String) : Bool :=
  match s.splitOn "::" with
  | [whole] => run? true whole = some 8
  | [head, tail] =>
    match run? false head, run? true tail with
    | some m, some n => m + n ≤ 7
    | _, _ => false
  | _ => false

/-- An address of either version. -/
def isAddress (s : String) : Bool := isVersion4 s || isVersion6 s

end Tabula.Postgres.HostAddress
