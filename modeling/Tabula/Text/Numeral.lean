/-!
# Numerals

The value of a run of decimal digits, and of a hexadecimal digit. Writing a number is
`Nat.toDigits`.
-/

namespace Tabula.Text

/-- The natural that decimal digits stand for. -/
def digitsValue (ds : List Char) : Nat := ds.foldl (fun n c => 10 * n + (c.toNat - '0'.toNat)) 0

example : digitsValue (Nat.toDigits 10 9070) = 9070 := by decide

theorem digitsValue_eq_ofDigitChars (ds : List Char) :
    digitsValue ds = Nat.ofDigitChars 10 ds 0 := by
  rw [Nat.ofDigitChars_eq_foldl]
  rfl

/-- The value of a hexadecimal digit, large or small. -/
def hexDigit? (c : Char) : Option Nat :=
  if c.isDigit then some (c.toNat - '0'.toNat)
  else if 'a' ≤ c ∧ c ≤ 'f' then some (c.toNat - 'a'.toNat + 10)
  else if 'A' ≤ c ∧ c ≤ 'F' then some (c.toNat - 'A'.toNat + 10)
  else none

example : (Nat.toDigits 16 0x7e).map hexDigit? = [some 7, some 14] := by decide

end Tabula.Text
