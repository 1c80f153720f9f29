import Tabula.Text.PrintTable

/-!
# Texts shown between quotation marks

`quoted` writes a text so that every character of it can be seen: quotation marks and backslashes
are escaped, the common control characters have a letter each, and a character without ink of its
own is given by its code point.
-/

namespace Tabula.Text

/-- The letter that stands for a character after a backslash. -/
def escapeLetter : Char → Option Char
  | '\u0000' => some '0'
  | '\t' => some 't'
  | '\r' => some 'r'
  | '\n' => some 'n'
  | '\\' => some '\\'
  | '"' => some '"'
  | _ => none

/-- The character is shown as itself. -/
def isPlain (c : Char) : Bool :=
  if c.toNat < 0x7f then 0x20 ≤ c.toNat
  else !inRanges attachingRanges c.toNat && !inRanges inklessRanges c.toNat

/-- One character as it stands between the marks. -/
def escapeChar (c : Char) : List Char :=
  match escapeLetter c with
  | some l => ['\\', l]
  | none =>
    if isPlain c then [c]
    else '\\' :: 'u' :: '{' :: Nat.toDigits 16 c.toNat ++ ['}']

/-- The text between quotation marks. -/
def quoted (s : String) : String :=
  String.ofList ('"' :: s.toList.flatMap escapeChar ++ ['"'])

end Tabula.Text
