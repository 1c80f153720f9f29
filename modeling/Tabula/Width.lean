/-!
# Integers of limited width

Which integers can be held by so many bits, without a sign or in two's complement.
-/

namespace Tabula

/-- A natural fits so many bits. -/
def fitsUnsigned (bits n : Nat) : Bool := n < Nat.pow 2 bits

/-- An integer fits so many bits in two's complement. -/
def fitsSigned (bits : Nat) (i : Int) : Bool :=
  -(Nat.pow 2 (bits - 1) : Nat) ≤ i && i < (Nat.pow 2 (bits - 1) : Nat)

example : fitsSigned 8 (-128) && fitsSigned 8 127 && !fitsSigned 8 128 := by decide

/-- The value of a word fits 64 bits. -/
theorem fitsSigned_toInt (i : Int64) : fitsSigned 64 i.toInt = true := by
  simp only [fitsSigned, Bool.and_eq_true, decide_eq_true_eq]
  exact ⟨i.le_toInt, i.toInt_lt⟩

end Tabula
