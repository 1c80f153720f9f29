import Tabula.Json.Text
import Tabula.Text.Quoted

/-!
# JSON values in messages

`Json.shown` is the form a message gives of a value: every part with the name of its kind, so that
`1`, `"1"` and `[1]` cannot be taken for one another.
-/

namespace Tabula.Json

/-- Texts with a comma and a blank between them. -/
def listed (parts : List String) : String := String.intercalate ", " parts

mutual

/-- A value with the name of its kind. -/
def shown : Json → String
  | .null => "Null"
  | .bool b => "Bool(" ++ (if b then "true" else "false") ++ ")"
  | .number n => "Number(" ++ String.ofList n.chars ++ ")"
  | .string s => "String(" ++ Text.quoted s ++ ")"
  | .array items => "Array [" ++ listed (shownItems items) ++ "]"
  | .object fields => "Object \x7b" ++ listed (shownFields fields) ++ "\x7d"

/-- The items of an array, each with the name of its kind. -/
def shownItems : List Json → List String
  | [] => []
  | j :: rest => shown j :: shownItems rest

/-- The fields of an object, each value with the name of its kind. -/
def shownFields : List (String × Json) → List String
  | [] => []
  | (k, v) :: rest => (Text.quoted k ++ ": " ++ shown v) :: shownFields rest

end

end Tabula.Json
