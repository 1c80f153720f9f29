import Tabula.Model.Reconcile
import Tabula.Model.Sorting
import Tabula.Procedure.Any

/-!
# Models

A `Model` is a snapshot of rows with the procedure that fetches them and up to three that write.
After a write the rows are fetched again and the snapshot is reconciled with them, unless that is
delayed; `synchronize` does three kinds of writes and fetches once.

The state says whether a write has gone out since the rows were fetched. Whatever fails, the
snapshot stays as it was.
-/

namespace Tabula

/-- How a snapshot stands to the database. -/
inductive ModelState where
  /-- it is what was fetched last -/
  | fresh
  /-- something was written since -/
  | dirty
  /-- writes are going out -/
  | synchronizing
  deriving DecidableEq, Inhabited

/-- The kinds of writes. -/
inductive WriteKind where
  /-- rows are changed -/
  | update
  /-- rows are added -/
  | insert
  /-- rows are removed -/
  | delete
  deriving DecidableEq

/-- The name of a kind in messages. -/
def WriteKind.name : WriteKind → String
  | .update => "Update"
  | .insert => "Insert"
  | .delete => "Delete"

/-- A snapshot of rows with its procedures. -/
structure Model where
  /-- what fetches the rows -/
  select : Procedure
  /-- what changes rows -/
  update : Option Procedure := none
  /-- what adds rows -/
  insert : Option Procedure := none
  /-- what removes rows -/
  delete : Option Procedure := none
  /-- the names of the columns -/
  columns : List String := []
  /-- the rows -/
  data : List Row := []
  /-- the column by which rows are found -/
  keyColumn : Option String := none
  /-- rows are not fetched after a write -/
  delaySelect : Bool := false
  /-- how the snapshot stands to the database -/
  state : ModelState := .dirty
  /-- what was different when the rows were fetched last -/
  lastChanges : RowChanges := {}
  /-- how often the rows have been fetched -/
  fetches : Nat := 0

namespace Model

/-- The procedure for a kind of writes (`WriteSlot`). -/
def writer? (m : Model) : WriteKind → Option Procedure
  | .update => m.update
  | .insert => m.insert
  | .delete => m.delete

/-- The model with another state of the procedure for a kind of writes. -/
def withWriter (m : Model) (p : Procedure) : WriteKind → Model
  | .update => { m with update := some p }
  | .insert => { m with insert := some p }
  | .delete => { m with delete := some p }

/-- The first row with a key in the key column (`find_by_key`). -/
def findByKey (m : Model) (key : Value) : Option Row :=
  m.keyColumn.bind fun column => m.data.find? fun r => (r.get? column).any (· == key)

/-- The snapshot put in order by some keys. All of their columns must be there. -/
def sort (m : Model) (keys : List SortKey) : Except Error Model :=
  match keys.find? fun k => !m.columns.contains k.column with
  | some k => .error (.unknownColumn k.column)
  | none => .ok { m with data := sortRows keys m.data }

/-- The snapshot as it begins on the wire (`serialize`); the time of the last fetch would follow. -/
def wireText (m : Model) : String :=
  String.ofList ("\x7b\"columns\":".toList ++ (Json.array (m.columns.map .string)).chars ++
    ",\"data\":".toList ++ (Json.array (m.data.map Row.toJson)).chars ++ [','])

/-- The snapshot replaced by fetched rows. -/
def replace (m : Model) (fetched : ResultSet) : Model × RowChanges :=
  ({ m with columns := fetched.columnNames, data := fetched.rows }, {})

/-- The snapshot reconciled with fetched rows. -/
def refresh (m : Model) (fetched : ResultSet) : Model × RowChanges :=
  let (data, changes) := reconcile m.data fetched.rows
  let columns := if fetched.columnNames.isEmpty then m.columns else fetched.columnNames
  ({ m with columns, data }, changes)

variable {β : Type} [Backend β]

/-- Fetches the rows (`select`). -/
def fetch (m : Model) (diff : Bool) : Action β (Outcome RowChanges × Model) := do
  let (r, select) ← m.select.execute
  let m := { m with select }
  match r with
  | .error h => return (.error h, m)
  | .ok fetched =>
    let (m, changes) := if diff then m.refresh fetched else m.replace fetched
    return (.ok changes,
      { m with state := .fresh, lastChanges := changes, fetches := m.fetches + 1 })

/-- The first snapshot of a model. -/
def build (m : Model) : Action β (Outcome RowChanges × Model) := m.fetch false

/-- Feeds criteria to a procedure and executes it. -/
def runWriter (p : Procedure) (rows : List Criterion) :
    Action β (Outcome ResultSet × Procedure) := do
  let p ← p.clear
  match ← p.feed rows with
  | (.error e, p) => return (failWith e, p)
  | (.ok (), p) => p.execute

/-- The model after a write: dirty unless it is synchronizing, and fetched again unless that is
delayed. -/
def afterWrite (m : Model) (r : ResultSet) : Action β (Outcome ResultSet × Model) := do
  let m := if m.state = .synchronizing then m else { m with state := .dirty }
  if m.delaySelect then return (.ok r, m)
  else
    let (changes, m) ← m.fetch true
    return (changes.map fun _ => r, m)

/-- Writes rows through the procedure for a kind of writes. Without such a procedure nothing is
written. -/
def write (m : Model) (kind : WriteKind) (rows : List Criterion) :
    Action β (Outcome ResultSet × Model) := do
  if rows.isEmpty then return (.ok {}, m)
  else
    match m.writer? kind with
    | none => m.afterWrite {}
    | some p =>
      if p.info.input = .none then
        return (failWith (.invalidInput (kind.name ++ " procedure takes no input; " ++
          toString rows.length ++ " row(s) not written")), m)
      else
        let (r, p) ← runWriter p rows
        let m := m.withWriter p kind
        match r with
        | .error h => return (.error h, m)
        | .ok r => m.afterWrite r

/-- Does some writes in order, until one fails. -/
def writeAll : List (WriteKind × List Criterion) → Model → Action β (Outcome Unit × Model)
  | [], m => return (.ok (), m)
  | (kind, rows) :: rest, m => do
    match ← m.write kind rows with
    | (.error h, m) => return (.error h, m)
    | (.ok _, m) => writeAll rest m

/-- Changes, removes and adds rows, and fetches once.

A write that never answers ends the call as `stuck`, and what is said of the model then is what
would be said of it after a failure. Nobody is answered that, so nobody sees it: a caller who drops
the call while it waits finds `delaySelect` set and the state `synchronizing`. -/
def synchronize (m : Model) (d : Diff) : Action β (Outcome RowChanges × Model) := do
  let delayed := m.delaySelect
  let m := { m with delaySelect := true, state := .synchronizing }
  match ← writeAll [(.update, d.update), (.delete, d.delete), (.insert, d.insert)] m with
  | (.error h, m) => return (.error h, { m with delaySelect := delayed, state := .dirty })
  | (.ok (), m) => ({ m with delaySelect := delayed } : Model).fetch true

end Model

end Tabula
