import Tabula.Json.Decoding
import Tabula.Value.Basic

/-!
# Values on the wire

On the wire a value is plain JSON: numbers, strings, truth values and `null` are the scalar kinds,
an array or an object is carried as it is. Timestamps become strings, bytes become arrays of
numbers, and a number that is not finite becomes `null`.
-/

namespace Tabula

/-- A JSON number: an integer of 64 bits, or else a floating-point number. -/
def JsonNumber.toValue : JsonNumber → Value
  | .whole n =>
    if fitsSigned 64 n then .int (Int64.ofInt n) else .float (Double.ofInt n)
  | .real x _ => .float x

namespace Value

/-- The value of a JSON value. -/
def ofJson : Json → Value
  | .null => .null
  | .bool b => .bool b
  | .number n => n.toValue
  | .string s => .text s
  | j => .json j

/-- The JSON value of a value. -/
def toJson : Value → Json
  | .int i => .ofInt i.toInt
  | .float x => ((JsonNumber.ofDouble? x).map .number).getD .null
  | .text s => .string s
  | .bool b => .bool b
  | .timestamp t => .string t.text
  | .null => .null
  | .json j => j
  | .blob bytes => .array (bytes.map fun b => .ofInt b.toNat)

/-- Decodes a value. -/
def decode (d : Draft) : Except Mismatch Value := ofJson <$> d.toJson?

/-- The text of a value on the wire. -/
def wireText (v : Value) : String := v.toJson.text

end Value

end Tabula
