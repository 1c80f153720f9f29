import Tabula.Criteria.Criterion
import Tabula.Engine
import Tabula.Text.Replace

/-!
# Templates

A `Template` is a statement with tokens in it that criteria fill: the columns, the values and the
condition. The text that fills them depends on the `Shape` of a criterion only; its values go into a
parameter set under generated names. So criteria of one shape share a statement, and
`Template.compile` makes one `Batch` for each shape, in the order in which the shapes first appear.
-/

namespace Tabula

/-- What the text of a condition depends on. -/
structure ConditionShape where
  /-- the column -/
  column : String
  /-- the operator -/
  operator : Operator
  /-- how many values there are -/
  arity : Nat
  deriving DecidableEq

/-- What the text of a criterion depends on. -/
structure Shape where
  /-- the alternatives, and in each the conditions in the order of their columns -/
  groups : List (List ConditionShape)
  /-- the columns that are written -/
  columns : List String
  deriving DecidableEq

/-- A statement with named placeholders and the sets to run it with. -/
structure Batch where
  /-- the statement -/
  sql : String
  /-- the sets, in the order in which they run -/
  sets : List ParameterSet

/-- A statement with tokens. -/
structure Template where
  /-- the text with the tokens -/
  sql : String
  /-- what the statement does -/
  queryType : QueryType

namespace Template

/-- The token for the columns that are written. -/
def columnsToken : String := "<<columns>>"

/-- The token for the values that are written. -/
def valuesToken : String := "<<values>>"

/-- The token for the condition. -/
def conditionToken : String := "<<condition>>"

/-- The text of a template holds a token. -/
def has (t : Template) (token : String) : Bool := Text.contains token.toList t.sql.toList

/-! ## Names of placeholders -/

/-- The placeholder of a written value. -/
def valueName (i : Nat) : String := "v" ++ toString i

/-- The placeholder of a condition with one value. -/
def conditionName (g c : Nat) : String := "w" ++ toString g ++ "_" ++ toString c

/-- The placeholder of one of the values of a condition. -/
def operandName (g c k : Nat) : String := conditionName g c ++ "_" ++ toString k

/-- The placeholders of a condition, given the number of its group and its own. -/
def placeholders (g c : Nat) (s : ConditionShape) : List String :=
  if s.operator.isRange || s.operator.isMembership then
    (List.range s.arity).map (operandName g c)
  else [conditionName g c]

/-! ## From a criterion to its shape and its bindings -/

/-- The shape of a condition and the bindings of its placeholders. -/
def analyzeCondition (g c : Nat) (column : String) (condition : Condition) :
    Except Error (ConditionShape × List (String × Value)) := do
  checkColumn column
  let op ← condition.validate column
  let values := condition.values
  let shape : ConditionShape := ⟨column, op, values.length⟩
  return (shape, (placeholders g c shape).zip values)

/-- The shapes of the conditions of a group from number `c` on, and their bindings. -/
def analyzeConditions (g : Nat) : Nat → List (String × Condition) →
    Except Error (List ConditionShape × List (String × Value))
  | _, [] => .ok ([], [])
  | c, (column, condition) :: rest => do
    let (s, bs) ← analyzeCondition g c column condition
    let (ss, bs') ← analyzeConditions g (c + 1) rest
    return (s :: ss, bs ++ bs')

/-- The shapes of groups from number `g` on, and their bindings. -/
def analyzeGroups : Nat → List WhereGroup →
    Except Error (List (List ConditionShape) × List (String × Value))
  | _, [] => .ok ([], [])
  | g, group :: rest => do
    if group.isEmpty then throw (.invalidInput "empty where group")
    let (s, bs) ← analyzeConditions g 0 group.entries
    let (ss, bs') ← analyzeGroups (g + 1) rest
    return (s :: ss, bs ++ bs')

/-- Fails unless a template and a shape fit. -/
def checkFit (t : Template) (s : Shape) : Except Error Unit :=
  let wantsValues := t.has valuesToken || t.has columnsToken
  if wantsValues && s.columns.isEmpty then
    .error (.templateMismatch
      "template uses <<values>> or <<columns>> but a criterion has no values")
  else if !wantsValues && !s.columns.isEmpty then
    .error (.templateMismatch
      "criterion has values but template has neither <<values>> nor <<columns>>")
  else if !s.groups.isEmpty && !t.has conditionToken then
    .error (.templateMismatch "criterion has where groups but template has no <<condition>>")
  else .ok ()

/-- The shape of a criterion and the bindings of its placeholders. -/
def analyze (t : Template) (c : Criterion) : Except Error (Shape × ParameterSet) := do
  let (groups, bindings) ← analyzeGroups 0 c.groups
  c.values.keys.forM checkColumn
  let shape : Shape := ⟨groups, c.values.keys⟩
  t.checkFit shape
  let values := c.values.values.zipIdx.map fun (v, i) => (valueName i, v)
  return (shape, .ofList (bindings ++ values))

/-! ## From a shape to the text of the statement -/

/-- Texts with a separator between them. -/
def joined (separator : String) (parts : List String) : String :=
  String.intercalate separator parts

/-- The text of a condition, given the number of its group and its own. -/
def conditionText (g c : Nat) (s : ConditionShape) : String :=
  let names := (placeholders g c s).map (":" ++ ·)
  s.column ++ " " ++ s.operator.text ++ " " ++
    (if s.operator.isRange then joined " AND " names
    else if s.operator.isMembership then "(" ++ joined ", " names ++ ")"
    else joined "" names)

/-- The text of a group, given its number. -/
def groupText (g : Nat) (conditions : List ConditionShape) : String :=
  "(" ++ joined " AND " (conditions.zipIdx.map fun (s, c) => conditionText g c s) ++ ")"

/-- The text that stands for the condition (`render_condition`). -/
def whereText (groups : List (List ConditionShape)) : String :=
  if groups.isEmpty then "1 = 1"
  else joined " OR " (groups.zipIdx.map fun (group, g) => groupText g group)

/-- The text that stands for the values. -/
def valuesText (t : QueryType) (columns : List String) : String :=
  joined ", " (columns.zipIdx.map fun (column, i) =>
    if t = .insert then ":" ++ valueName i else column ++ " = :" ++ valueName i)

/-- The text with every occurrence of a token replaced. -/
def fill (token new : String) (cs : List Char) : List Char :=
  Text.replace token.toList new.toList cs

/-- The statement for criteria of a shape. The tokens are filled one kind after the other. -/
def render (t : Template) (s : Shape) : String :=
  String.ofList
    (fill conditionToken (whereText s.groups)
      (fill valuesToken (valuesText t.queryType s.columns)
        (fill columnsToken (joined ", " s.columns) t.sql.toList)))

/-! ## Criteria by shape -/

/-- A set filed under a shape, behind the sets that are already there. -/
def fileUnder (s : Shape) (set : ParameterSet) :
    List (Shape × List ParameterSet) → List (Shape × List ParameterSet)
  | [] => [(s, [set])]
  | (s', sets) :: rest =>
    if s' = s then (s', sets ++ [set]) :: rest else (s', sets) :: fileUnder s set rest

/-- Sets by shape, the shapes in the order of their first appearance. -/
def byShape (analyzed : List (Shape × ParameterSet)) : List (Shape × List ParameterSet) :=
  analyzed.foldl (fun acc a => fileUnder a.1 a.2 acc) []

/-- The statements for some criteria, one for each shape; there must be a criterion. -/
def compile (t : Template) (criteria : List Criterion) : Except Error (List Batch) := do
  if criteria.isEmpty then throw .emptyCriteria
  let analyzed ← criteria.mapM t.analyze
  return (byShape analyzed).map fun (s, sets) => ⟨t.render s, sets⟩

end Template

end Tabula
