import Tabula.Dict
import Tabula.Json.Text
import Tabula.Timestamp.Text

/-!
# Values

A `Value` is a cell of a row, an operand of a condition or the binding of a placeholder. Equality
(`==`) compares floating-point numbers by their bits, JSON by `Json`'s equality and values of
different kinds never equal. `Value.hashKey` is what a hash table files a value under; a table
takes two values for one when both their keys and the values are equal.
-/

namespace Tabula

/-- A cell of a row, an operand or a binding. -/
inductive Value where
  /-- an integer of 64 bits -/
  | int (i : Int64)
  /-- a floating-point number -/
  | float (x : Double)
  /-- a text -/
  | text (s : String)
  /-- a truth value -/
  | bool (b : Bool)
  /-- a point of civil time -/
  | timestamp (t : Timestamp)
  /-- no value -/
  | null
  /-- a JSON value -/
  | json (j : Json)
  /-- bytes -/
  | blob (bytes : List UInt8)
  deriving Inhabited

/-- The bindings of named placeholders. -/
abbrev ParameterSet := Dict Value

namespace Value

/-- Equality of values (`eq`). -/
def beq : Value → Value → Bool
  | .int a, .int b => a == b
  | .float a, .float b => a == b
  | .text a, .text b => a == b
  | .bool a, .bool b => a == b
  | .timestamp a, .timestamp b => a == b
  | .null, .null => true
  | .json a, .json b => a == b
  | .blob a, .blob b => a == b
  | _, _ => false

instance : BEq Value := ⟨beq⟩

/-- What a hash table files a value under. -/
inductive HashKey where
  /-- an integer -/
  | int (i : Int64)
  /-- the bits of a floating-point number -/
  | float (bits : UInt64)
  /-- a text -/
  | text (s : String)
  /-- a truth value -/
  | bool (b : Bool)
  /-- a point of civil time -/
  | timestamp (t : Timestamp)
  /-- no value -/
  | null
  /-- the text of a JSON value -/
  | json (text : String)
  /-- bytes -/
  | blob (bytes : List UInt8)
  deriving DecidableEq

/-- The key of a value (`hash`). A JSON value is filed under its text. -/
def hashKey : Value → HashKey
  | .int i => .int i
  | .float x => .float x.bits
  | .text s => .text s
  | .bool b => .bool b
  | .timestamp t => .timestamp t
  | .null => .null
  | .json j => .json j.text
  | .blob bytes => .blob bytes

/-- There is no value (`is_null`). -/
def isNull : Value → Bool
  | .null => true
  | _ => false

/-- The integer of an integer value (`as_int`). -/
def asInt? : Value → Option Int64
  | .int i => some i
  | _ => none

/-- The text of a text value (`as_text`). -/
def asText? : Value → Option String
  | .text s => some s
  | _ => none

/-- The truth value of a value (`as_bool`); the integers one and zero count as true and false. -/
def asBool? : Value → Option Bool
  | .bool b => some b
  | .int i => if i = 1 then some true else if i = 0 then some false else none
  | _ => none

/-- The point of time of a value (`as_timestamp`); a text counts if it is the text of one. -/
def asTimestamp? : Value → Option Timestamp
  | .timestamp t => some t
  | .text s => Timestamp.ofText? s
  | _ => none

/-- The floating-point number of a value (`as_float`); an integer counts as the nearest one. -/
def asFloat? : Value → Option Double
  | .float x => some x
  | .int i => some (Double.ofInt i.toInt)
  | _ => none

/-- The bytes of a value (`as_blob`). -/
def asBlob? : Value → Option (List UInt8)
  | .blob bytes => some bytes
  | _ => none

/-- The text of a value for people (`to_string`); it is also what values are sorted by. -/
def display : Value → String
  | .int i => toString i.toInt
  | .float x => x.plainText
  | .text s => s
  | .bool b => if b then "true" else "false"
  | .timestamp t => t.text
  | .null => "NULL"
  | .json j => j.text
  | .blob bytes => "<" ++ toString bytes.length ++ " bytes>"

end Value

end Tabula
