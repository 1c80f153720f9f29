import Tabula.Criteria.Operator
import Tabula.Json.Shown
import Tabula.Value.Wire

/-!
# Conditions

A `Condition` says what a column is compared with. Its operator is kept as it was written, so a
condition with an operator that is not supported can be held and read; `Condition.validate` is
where it is found out. On the wire a condition is an array, the operator first.
-/

namespace Tabula

/-- What a column is compared with. -/
inductive Operand where
  /-- one value -/
  | scalar (v : Value)
  /-- a list of values -/
  | list (vs : List Value)

namespace Operand

/-- The values of an operand. -/
def values : Operand → List Value
  | .scalar v => [v]
  | .list vs => vs

/-- The operand is one value. -/
def isScalar : Operand → Bool
  | .scalar _ => true
  | .list _ => false

/-- The operand of a JSON value: an array is a list (`from_json`). -/
def ofJson : Json → Operand
  | .array js => .list (js.map Value.ofJson)
  | j => .scalar (.ofJson j)

/-- The JSON value of an operand. -/
def toJson : Operand → Json
  | .scalar v => v.toJson
  | .list vs => .array (vs.map Value.toJson)

end Operand

/-- What a column is compared with, and how. -/
structure Condition where
  /-- the operator as it was written -/
  operator : String
  /-- the operands, in the order of their placeholders -/
  operands : List Operand

namespace Condition

/-- The comparison with one value. -/
def compare (operator : String) (v : Value) : Condition := ⟨operator, [.scalar v]⟩

/-- Equality with a value. -/
def eq (v : Value) : Condition := compare "=" v

/-- Likeness to a pattern. -/
def like (pattern : String) : Condition := compare "LIKE" (.text pattern)

/-- A value from a range. -/
def between (low high : Value) : Condition := ⟨"BETWEEN", [.scalar low, .scalar high]⟩

/-- One of some values (`is_in`). -/
def isIn (vs : List Value) : Condition := ⟨"IN", [.list vs]⟩

/-- None of some values (`not_in`). -/
def notIn (vs : List Value) : Condition := ⟨"NOT IN", [.list vs]⟩

/-- The values of all operands, in the order of their placeholders. -/
def values (c : Condition) : List Value := c.operands.flatMap Operand.values

/-- The operands are as many and of the kind that the operator takes. -/
def fits (op : Operator) (operands : List Operand) : Bool :=
  if op.isRange then operands.length == 2 && operands.all Operand.isScalar
  else if op.isMembership then
    match operands with
    | [.list (_ :: _)] => true
    | _ => false
  else operands.length == 1 && operands.all Operand.isScalar

/-- What is wrong with the operands of an operator, if they do not fit. -/
def misfit (op : Operator) (column : String) : Error :=
  if op.isRange then .rangeOperands column op.text
  else if op.isMembership then .membershipOperand column op.text
  else .operandCount column op.text

/-- The operator of a condition on a column, if it is supported and the operands fit it. -/
def validate (c : Condition) (column : String) : Except Error Operator := do
  let op ← Operator.parse c.operator
  if fits op c.operands then return op else throw (misfit op column)

/-- The condition of the items of an array (`try_from`). -/
def ofItems : List Json → Except Mismatch Condition
  | [] => .error (.described "condition must be [operator, operand...]")
  | .string operator :: operands => .ok ⟨operator, operands.map Operand.ofJson⟩
  | j :: _ =>
    .error (.described ("condition operator must be a string, got Some(" ++ j.shown ++ ")"))

/-- Decodes a condition. -/
def decode (d : Draft) : Except Mismatch Condition := do ofItems (← d.toList? Draft.toJson?)

/-- The JSON value of a condition. -/
def toJson (c : Condition) : Json :=
  .array (.string c.operator :: c.operands.map Operand.toJson)

end Condition

end Tabula
