import Tabula.Double.Basic

/-!
# JSON values

A JSON value. An object lists its fields in the order in which they are written; `Json.ofFields`,
which makes the objects that are read from text, puts them in ascending order of the keys. Numbers
keep the two spellings apart: a whole number of at most 64 bits, or a floating-point number. Two
values are equal (`==`) when they have the same shape, floating-point numbers being compared as
numbers.
-/

namespace Tabula

/-- A number of JSON. -/
inductive JsonNumber where
  /-- a whole number, from `-2 ^ 63` to `2 ^ 64 - 1` -/
  | whole (n : Int)
  /-- a finite floating-point number -/
  | real (x : Double) (finite : x.isFinite)
  deriving DecidableEq

/-- The number of a floating-point number, if that is finite. -/
def JsonNumber.ofDouble? (x : Double) : Option JsonNumber :=
  if h : x.isFinite then some (.real x h) else none

/-- Numbers of one spelling are compared by value, of two spellings they differ. -/
def JsonNumber.beq : JsonNumber → JsonNumber → Bool
  | .whole a, .whole b => a == b
  | .real a _, .real b _ => a.sameNumber b
  | _, _ => false

instance : BEq JsonNumber := ⟨JsonNumber.beq⟩

/-- A value of JSON. -/
inductive Json where
  /-- the value `null` -/
  | null
  /-- a truth value -/
  | bool (b : Bool)
  /-- a number -/
  | number (n : JsonNumber)
  /-- a string -/
  | string (s : String)
  /-- an array -/
  | array (items : List Json)
  /-- an object, its fields in the order of writing -/
  | object (fields : List (String × Json))
  deriving Inhabited

namespace Json

mutual

/-- Equality of values. -/
def beq : Json → Json → Bool
  | .null, .null => true
  | .bool a, .bool b => a == b
  | .number a, .number b => a == b
  | .string a, .string b => a == b
  | .array a, .array b => beqItems a b
  | .object a, .object b => beqFields a b
  | _, _ => false

/-- Equality of the items of two arrays. -/
def beqItems : List Json → List Json → Bool
  | [], [] => true
  | a :: as, b :: bs => beq a b && beqItems as bs
  | _, _ => false

/-- Equality of the fields of two objects. -/
def beqFields : List (String × Json) → List (String × Json) → Bool
  | [], [] => true
  | (k, a) :: as, (l, b) :: bs => k == l && beq a b && beqFields as bs
  | _, _ => false

end

instance : BEq Json := ⟨beq⟩

/-- Puts a field in its place; a field of the same key is replaced. -/
def insertField (k : String) (v : Json) : List (String × Json) → List (String × Json)
  | [] => [(k, v)]
  | (l, w) :: rest =>
    if k < l then (k, v) :: (l, w) :: rest
    else if k = l then (k, v) :: rest
    else (l, w) :: insertField k v rest

/-- The object of some fields, its keys ascending; of two fields of one key the later counts. -/
def ofFields (fields : List (String × Json)) : Json :=
  .object (fields.foldl (fun acc f => insertField f.1 f.2 acc) [])

/-- A whole number as a value. -/
def ofInt (n : Int) : Json := .number (.whole n)

end Json

end Tabula
