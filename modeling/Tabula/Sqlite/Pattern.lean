import Tabula.Sqlite.Cell
import Tabula.Sqlite.RealText

/-!
# Patterns

In a pattern `%` stands for any characters and `_` for one; large and small letters of ASCII are the
same. Texts and patterns are compared by the codes of their characters and end at a null character.
Bytes are decoded without a check, so that a byte that begins no character stands for itself.

`likeEnds` finds out of all ends of a text whether they are like a pattern, from the last part of
the pattern on, so that no end is looked at twice.
-/

namespace Tabula.Sqlite

/-! ## Codes -/

/-- What the first byte of a character of several bytes says of it. -/
def leadBits (b : Nat) : Nat :=
  if b < 0xe0 then b % 32 else if b < 0xf0 then b % 16 else if b < 0xf8 then b % 8
  else if b < 0xfc then b % 4 else if b < 0xfe then b % 2 else 0

/-- A code that needs one byte only, or half of a pair, is replaced. -/
def checkedCode (n : Nat) : Nat := if n < 0x80 || (0xd800 ≤ n && n < 0xe000) then 0xfffd else n

/-- A byte inside a character of several bytes. -/
def isInnerByte (b : UInt8) : Bool := 0x80 ≤ b && b < 0xc0

/-- The codes of any bytes. A code has 32 bits; those above are lost. -/
def codesOfBytes : List UInt8 → List Nat
  | [] => []
  | b :: rest =>
    if b < 0xc0 then b.toNat :: codesOfBytes rest
    else
      let code := (rest.takeWhile isInnerByte).foldl
        (fun n b => (64 * n + b.toNat % 64) % 0x100000000) (leadBits b.toNat)
      checkedCode code :: codesOfBytes (rest.dropWhile isInnerByte)
termination_by bytes => bytes.length
decreasing_by
  · simp
  · have := (List.dropWhile_suffix (l := rest) isInnerByte).length_le
    simp only [List.length_cons]
    omega

/-- The codes of characters. -/
def codesOf (cs : List Char) : List Nat := cs.map Char.toNat

/-- The codes of a cell as a text, up to a null character; null has none. -/
def Cell.codes? (c : Cell) : Option (List Nat) :=
  (whole? c).map fun cs => cs.takeWhile (· ≠ 0)
where
  /-- The codes of a cell as a text. -/
  whole? : Cell → Option (List Nat)
    | .null => none
    | .integer i => some (codesOf (toString i.toInt).toList)
    | .real x => some (codesOf (realText x))
    | .text s => some (codesOf s.toList)
    | .blob bytes => some (codesOfBytes bytes)

/-! ## Likeness -/

/-- The code of the small letter, if a code is that of a large one. -/
def smallCode (n : Nat) : Nat := if 0x41 ≤ n && n ≤ 0x5a then n + 0x20 else n

/-- A part of a pattern other than `%` stands for a code. -/
def standsFor (p c : Nat) : Bool := p = '_'.toNat || smallCode p = smallCode c

/-- For each place whether something holds there or at a later one. -/
def hereOrLater : List Bool → List Bool
  | [] => []
  | b :: bs =>
    let later := hereOrLater bs
    (b || later.headD false) :: later

/-- Whether the ends of a text are like a pattern: the whole text, then each time without its first
character, up to the empty end. -/
def likeEnds (cs : List Nat) : List Nat → List Bool
  | [] => List.replicate cs.length false ++ [true]
  | p :: ps =>
    let ends := likeEnds cs ps
    if p = '%'.toNat then hereOrLater ends
    else cs.zipWith (fun c b => standsFor p c && b) ends.tail ++ [false]

/-- A text is like a pattern. Up to the first `%` there is only one way to go. -/
def isLike : List Nat → List Nat → Bool
  | [], cs => cs.isEmpty
  | p :: ps, cs =>
    if p = '%'.toNat then (likeEnds cs (p :: ps)).headD false
    else
      match cs with
      | [] => false
      | c :: cs => standsFor p c && isLike ps cs

/-- The truth of a likeness. -/
def like? (a pattern : Cell) : Option Bool :=
  match a.codes?, pattern.codes? with
  | some cs, some p => some (isLike p cs)
  | _, _ => none

end Tabula.Sqlite
