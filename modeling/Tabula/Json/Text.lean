import Tabula.Double.Layout
import Tabula.Json.Basic

/-!
# JSON values as text

`Json.text` is the compact text of a value: no blanks, and in strings only what must be escaped is.
`Json.shown` is the form an error message gives of a value, naming its kind.
-/

namespace Tabula

/-- The two hexadecimal digits of a byte, in small letters. -/
def hexByte (n : Nat) : List Char := [Nat.digitChar (n / 16 % 16), Nat.digitChar (n % 16)]

/-- One character inside a JSON string. -/
def jsonChar (c : Char) : List Char :=
  match c with
  | '"' => ['\\', '"']
  | '\\' => ['\\', '\\']
  | '\u0008' => ['\\', 'b']
  | '\u000c' => ['\\', 'f']
  | '\n' => ['\\', 'n']
  | '\r' => ['\\', 'r']
  | '\t' => ['\\', 't']
  | c => if c.toNat < 0x20 then '\\' :: 'u' :: '0' :: '0' :: hexByte c.toNat else [c]

/-- A string in JSON. -/
def jsonString (s : String) : List Char := '"' :: s.toList.flatMap jsonChar ++ ['"']

/-- The text of a number. -/
def JsonNumber.chars : JsonNumber → List Char
  | .whole n => (toString n).toList
  | .real x _ => Double.wireLayout.text x

/-- Texts with commas between them. -/
def commas (parts : List (List Char)) : List Char := (parts.intersperse [',']).flatten

namespace Json

mutual

/-- The compact text of a value. -/
def chars : Json → List Char
  | .null => "null".toList
  | .bool b => (if b then "true" else "false").toList
  | .number n => n.chars
  | .string s => jsonString s
  | .array items => '[' :: commas (itemChars items) ++ [']']
  | .object fields => '{' :: commas (fieldChars fields) ++ ['}']

/-- The texts of the items of an array. -/
def itemChars : List Json → List (List Char)
  | [] => []
  | j :: rest => chars j :: itemChars rest

/-- The texts of the fields of an object. -/
def fieldChars : List (String × Json) → List (List Char)
  | [] => []
  | (k, v) :: rest => (jsonString k ++ ':' :: chars v) :: fieldChars rest

end

/-- The compact text of a value. -/
def text (j : Json) : String := String.ofList j.chars

end Json

end Tabula
