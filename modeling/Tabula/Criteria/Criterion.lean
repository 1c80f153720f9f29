import Tabula.Criteria.Condition

/-!
# Criteria

A `Criterion` describes one operation: which rows it concerns, as groups of conditions of which one
must hold as a whole, and which values are written. A `Diff` holds the criteria of a combined
change.
-/

namespace Tabula

/-- Conditions that hold together, by column. -/
abbrev WhereGroup := Dict Condition

/-- Which rows are concerned, and what is written. -/
structure Criterion where
  /-- the alternatives; with none every row is concerned -/
  groups : List WhereGroup := []
  /-- the values that are written, by column -/
  values : Dict Value := .empty

namespace Criterion

/-- The criterion neither restricts nor writes anything. -/
def isDefault (c : Criterion) : Bool := c.groups.isEmpty && c.values.isEmpty

/-- The criterion that also writes a value (`with_value`). -/
def withValue (c : Criterion) (column : String) (v : Value) : Criterion :=
  { c with values := c.values.insert column v }

/-- A condition put into the last group; there is one afterwards. -/
def insertLast (column : String) (condition : Condition) : List WhereGroup → List WhereGroup
  | [] => [Dict.empty.insert column condition]
  | [g] => [g.insert column condition]
  | g :: gs => g :: insertLast column condition gs

/-- The criterion with one more condition in its last alternative (`with_condition`). -/
def withCondition (c : Criterion) (column : String) (condition : Condition) : Criterion :=
  { c with groups := insertLast column condition c.groups }

/-- The criterion with one more alternative (`with_group`). -/
def withGroup (c : Criterion) (g : WhereGroup) : Criterion := { c with groups := c.groups ++ [g] }

/-- The criterion with one more alternative that holds no condition yet (`or`). -/
def orElse (c : Criterion) : Criterion := c.withGroup .empty

/-- The values of conditions that each compare one column for equality, put into a set. A column
that is already there takes the value of its condition. -/
def addEqualities (set : ParameterSet) : List (String × Condition) → Except Error ParameterSet
  | [] => .ok set
  | (column, c) :: rest => do
    let op ← c.validate column
    if op = .eq then
      addEqualities (c.values.foldl (fun s v => s.insert column v) set) rest
    else
      throw (.invalidInput ("parameter sets only take '=' conditions, got " ++ op.text ++ " on " ++
        column))

/-- The bindings a criterion gives a statement written by hand: its values, and what its only group
compares for equality (`into_parameter_set`). -/
def toParameterSet (c : Criterion) : Except Error ParameterSet :=
  match c.groups with
  | [] => .ok c.values
  | [g] => addEqualities c.values g.entries
  | _ => .error (.invalidInput "parameter sets take at most one where group")

/-- The JSON value of a criterion. -/
def toJson (c : Criterion) : Json :=
  .object [("where", .array (c.groups.map fun g =>
      .object (g.entries.map fun (column, condition) => (column, condition.toJson)))),
    ("values", .object (c.values.entries.map fun (column, v) => (column, v.toJson)))]

/-- The text of a criterion on the wire. -/
def wireText (c : Criterion) : String := c.toJson.text

/-- What has been found of a criterion. -/
structure Found where
  /-- the groups -/
  groups : Option (List WhereGroup) := none
  /-- the values -/
  values : Option (Dict Value) := none

/-- Decodes a group. -/
def decodeGroup (d : Draft) : Except Mismatch WhereGroup :=
  Dict.ofList <$> d.toFields? Condition.decode

/-- Decodes one field. -/
def decodeField (f : Found) (name : String) (d : Draft) : Except Mismatch Found :=
  if name = "where" then do
    return { f with groups := ← Draft.once f.groups (d.toList? decodeGroup) }
  else do
    return { f with values := ← Draft.once f.values (Dict.ofList <$> d.toFields? Value.decode) }

/-- Decodes a criterion. A field that is missing is empty. -/
def decode (d : Draft) : Except Mismatch Criterion := do
  let f ← d.toRecord? ["where", "values"] decodeField {}
  return ⟨f.groups.getD [], f.values.getD .empty⟩

/-- Decodes a list of criteria. -/
def decodeList (d : Draft) : Except Mismatch (List Criterion) := d.toList? decode

/-- The JSON value of a list of criteria. -/
def listToJson (cs : List Criterion) : Json := .array (cs.map toJson)

end Criterion

/-- The criteria of a combined change. -/
structure Diff where
  /-- what is read -/
  select : List Criterion := []
  /-- what is changed -/
  update : List Criterion := []
  /-- what is added -/
  insert : List Criterion := []
  /-- what is removed -/
  delete : List Criterion := []

namespace Diff

/-- There is nothing to do (`is_empty`). -/
def isEmpty (d : Diff) : Bool :=
  d.select.isEmpty && d.update.isEmpty && d.insert.isEmpty && d.delete.isEmpty

/-- The JSON value of a combined change. -/
def toJson (d : Diff) : Json :=
  .object [("select", Criterion.listToJson d.select), ("update", Criterion.listToJson d.update),
    ("insert", Criterion.listToJson d.insert), ("delete", Criterion.listToJson d.delete)]

/-- The text of a combined change on the wire. -/
def wireText (d : Diff) : String := d.toJson.text

/-- What has been found of a combined change. -/
structure Found where
  /-- what is read -/
  select : Option (List Criterion) := none
  /-- what is changed -/
  update : Option (List Criterion) := none
  /-- what is added -/
  insert : Option (List Criterion) := none
  /-- what is removed -/
  delete : Option (List Criterion) := none

/-- Decodes one field. -/
def decodeField (f : Found) (name : String) (d : Draft) : Except Mismatch Found :=
  match name with
  | "select" => do return { f with select := ← Draft.once f.select (Criterion.decodeList d) }
  | "update" => do return { f with update := ← Draft.once f.update (Criterion.decodeList d) }
  | "insert" => do return { f with insert := ← Draft.once f.insert (Criterion.decodeList d) }
  | _ => do return { f with delete := ← Draft.once f.delete (Criterion.decodeList d) }

/-- Decodes a combined change. A list that is missing is empty. -/
def decode (d : Draft) : Except Mismatch Diff := do
  let f ← d.toRecord? ["select", "update", "insert", "delete"] decodeField {}
  return ⟨f.select.getD [], f.update.getD [], f.insert.getD [], f.delete.getD []⟩

end Diff

end Tabula
