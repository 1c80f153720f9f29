import Tabula.Text.Numeral

/-!
# Bytes written with percent signs

A byte of an address can be written as a percent sign and two hexadecimal digits. A percent sign
that is not followed by two of them stands for itself.
-/

namespace Tabula.Text

/-- The byte of two hexadecimal digits. -/
def hexPair? (a b : UInt8) : Option UInt8 := do
  let high ← hexDigit? (Char.ofNat a.toNat)
  let low ← hexDigit? (Char.ofNat b.toNat)
  return UInt8.ofNat (16 * high + low)

/-- The bytes that are meant. -/
def percentDecoded : List UInt8 → List UInt8
  | [] => []
  | p :: a :: b :: rest =>
    if p = 0x25 then
      match hexPair? a b with
      | some byte => byte :: percentDecoded rest
      | none => p :: percentDecoded (a :: b :: rest)
    else p :: percentDecoded (a :: b :: rest)
  | p :: rest => p :: percentDecoded rest

/-- The bytes that some characters mean. -/
def meantBytes (cs : List Char) : List UInt8 :=
  percentDecoded (String.ofList cs).toUTF8.toList

/-- The text that some characters mean, if their bytes are one. -/
def meantText? (cs : List Char) : Option String :=
  String.fromUTF8? (meantBytes cs).toByteArray

end Tabula.Text
