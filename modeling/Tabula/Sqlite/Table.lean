import Tabula.Sqlite.Evaluation

/-!
# Tables

A table holds rows under ascending identities. A column that is a key holds the identity itself.
What a table refuses is said by `Refusal`; a row that breaks a constraint can be left out on
request, but a key that is no integer is an error in any case.
-/

namespace Tabula.Sqlite

/-- A column of a table. -/
structure Column where
  /-- its name -/
  name : String
  /-- it holds the identity of the row -/
  isKey : Bool := false
  /-- it must not be null -/
  notNull : Bool := false
  deriving DecidableEq

/-- A row of a table. -/
structure Record where
  /-- its identity -/
  id : Int64
  /-- its cells, in the order of the columns -/
  cells : List Cell
  deriving DecidableEq

/-- A table. -/
structure Table where
  /-- its name -/
  name : String
  /-- its columns -/
  columns : List Column
  /-- its rows, their identities ascending -/
  records : List Record := []
  deriving DecidableEq

/-- Why a table does not take a row. -/
inductive Refusal where
  /-- a constraint is broken -/
  | constraint (text : String)
  /-- the key is no integer -/
  | mismatch

/-- The wording of a refusal. -/
def Refusal.message : Refusal → String
  | .constraint text => text
  | .mismatch => "datatype mismatch"

/-- Names are the same but for the case of ASCII letters. -/
def sameName (a b : String) : Bool := a.map Char.toLower == b.map Char.toLower

namespace Table

/-- The position of a column. -/
def indexOf? (t : Table) (name : String) : Option Nat :=
  t.columns.findIdx? fun c => sameName c.name name

/-- The position of the key. -/
def keyIndex? (t : Table) : Option Nat := t.columns.findIdx? Column.isKey

/-- The identity can be spoken of by these names too, unless a column has them. -/
def identityNames : List String := ["rowid", "oid", "_rowid_"]

/-- The place of a cell in a row. -/
inductive Place where
  /-- a column -/
  | column (i : Nat)
  /-- the identity -/
  | identity
  deriving DecidableEq

/-- The place that a name stands for. The key is the identity. -/
def placeOf? (t : Table) (name : String) : Option Place :=
  match t.indexOf? name with
  | some i => some (if t.keyIndex? = some i then .identity else .column i)
  | none => if identityNames.any (sameName name) then some .identity else none

/-- The places of the columns. -/
def places (t : Table) : List Place :=
  (List.range t.columns.length).map fun i =>
    if t.keyIndex? = some i then .identity else .column i

/-- The name of a place in an answer. -/
def placeName (t : Table) : Place → String
  | .column i => ((t.columns[i]?).map Column.name).getD ""
  | .identity => ((t.columns.find? Column.isKey).map Column.name).getD "rowid"

/-- What expressions over a row are computed from. -/
def scope (parameters : List Cell) (r : Record) : Scope Place where
  column
    | .column i => { cell := (r.cells[i]?).getD .null }
    | .identity => { cell := .integer r.id, isKey := true }
  parameters := parameters

/-- What expressions over no row are computed from. -/
def noScope (parameters : List Cell) : Scope Place where
  column _ := { cell := .null }
  parameters := parameters

/-- The identity of the next row that has none. -/
def nextId (t : Table) : Int64 :=
  match t.records.getLast? with
  | some r => r.id + 1
  | none => 1

/-- A row put in its place. -/
def place (r : Record) : List Record → List Record
  | [] => [r]
  | s :: rest => if r.id < s.id then r :: s :: rest else s :: place r rest

/-- The identity that a cell gives a row, if it gives one. -/
def identityOf (c : Cell) : Except Refusal (Option Int64) :=
  match c with
  | .null => .ok none
  | c =>
    match c.toKey? with
    | some i => .ok (some i)
    | none => .error .mismatch

/-- The cells with the identity in the key. -/
def withKey (t : Table) (id : Int64) (cells : List Cell) : List Cell :=
  match t.keyIndex? with
  | some i => cells.set i (.integer id)
  | none => cells

/-- A column that breaks a constraint, in the wording of the error. -/
def columnText (t : Table) (column : String) : String := t.name ++ "." ++ column

/-- Fails if a cell is null that must not be. -/
def checkNulls (t : Table) (cells : List Cell) : Except Refusal Unit :=
  match (t.columns.zip cells).find? fun (c, cell) => c.notNull && cell = .null with
  | some (c, _) => .error (.constraint ("NOT NULL constraint failed: " ++ t.columnText c.name))
  | none => .ok ()

/-- Fails if a row has the identity. -/
def checkFree (t : Table) (id : Int64) : Except Refusal Unit :=
  if t.records.any (·.id == id) then
    let key := (t.columns.find? Column.isKey).map Column.name
    .error (.constraint ("UNIQUE constraint failed: " ++ t.columnText (key.getD "rowid")))
  else .ok ()

/-- The table with one more row, whose identity is given by a cell. -/
def add (t : Table) (identity : Cell) (cells : List Cell) : Except Refusal (Record × Table) := do
  let id := (← identityOf identity).getD t.nextId
  let cells := t.withKey id cells
  t.checkNulls cells
  t.checkFree id
  return (⟨id, cells⟩, { t with records := place ⟨id, cells⟩ t.records })

/-- The table with one more row, whose key gives its identity. -/
def insert (t : Table) (cells : List Cell) : Except Refusal (Record × Table) :=
  t.add ((t.keyIndex?.bind fun i => cells[i]?).getD .null) cells

/-- The table without a row. -/
def erase (t : Table) (id : Int64) : Table :=
  { t with records := t.records.filter (·.id != id) }

/-- The table with other cells in a row, and another identity if one is given. -/
def update (t : Table) (r : Record) (identity : Option Cell) (cells : List Cell) :
    Except Refusal (Record × Table) := do
  let id ← (match identity with
    | none => pure r.id
    | some c => do
      match ← identityOf c with
      | some id => pure id
      | none => throw .mismatch)
  let cells := t.withKey id cells
  t.checkNulls cells
  if id ≠ r.id then t.checkFree id
  return (⟨id, cells⟩, { t with records := place ⟨id, cells⟩ (t.erase r.id).records })

end Table

end Tabula.Sqlite
