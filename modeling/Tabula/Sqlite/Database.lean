import Tabula.Sqlite.Driver
import Tabula.Sqlite.Plan
import Tabula.Text.Blank

/-!
# The in-memory database

A `Database` is a driver of its own for a part of SQL: a list of tables, what is put back if the
open transaction is undone, and two numbers that outlive statements, the identity of the row that
was added last, and how many rows the last change concerned. A statement that fails changes no row.
A transaction is kept or undone as a whole; the two numbers do not take part in it.

Which statements do not end is not known from their texts, so a database says it of itself.
-/

namespace Tabula.Sqlite

/-- A database. -/
structure Database where
  /-- the tables -/
  tables : List Table := []
  /-- the tables as they were when the open transaction began -/
  saved : Option (List Table) := none
  /-- the identity of the row added last -/
  lastId : Int64 := 0
  /-- how many rows the last change concerned -/
  changes : Nat := 0
  /-- texts whose statements do not end -/
  endless : List String := []

namespace Database

/-- The database with another state of a table. -/
def withTable (db : Database) (t : Table) : Database :=
  { db with tables := db.tables.map fun s => if s.name = t.name then t else s }

end Database

/-! ## Running a statement -/

/-- The rows of an answer and how many rows were concerned, if any could be. -/
structure Effect where
  /-- the rows of the answer -/
  rows : List (List Cell) := []
  /-- the database afterwards -/
  database : Database

/-- A row meets a condition; without one every row does. -/
def meets (s : Scope Table.Place) (filter : Option RowExpr) : Bool := filter.all (Expr.holds s)

/-- The rows that meet a condition, in the order in which they are found. -/
def found (parameters : List Cell) (t : Table) (filter : Option RowExpr) : List Record :=
  let rows := t.records.filter fun r => meets (Table.scope parameters r) filter
  match filter with
  | some e =>
    Visit.arrange (fun e r => e.holds (Table.scope parameters r)) e.height (Visit.conjuncts e) rows
  | none => rows

/-- The cells of an answer over a row. -/
def answerRow (columns : List (String × RowExpr)) (s : Scope Table.Place) : List Cell :=
  columns.map fun (_, e) => e.eval s

/-- The first key decides, a downward one the other way round; then the next. -/
def compareKeys : List (Cell × Bool) → List (Cell × Bool) → Ordering
  | (a, down) :: as, (b, _) :: bs =>
    let o := a.compare b
    (if down then o.swap else o).then (compareKeys as bs)
  | _, _ => .eq

/-- Rows put in order by their keys; rows with the same keys keep their order. -/
def orderBy {α : Type} (keys : α → List (Cell × Bool)) (rows : List α) : List α :=
  rows.mergeSort fun a b => compareKeys (keys a) (keys b) != .gt

/-- How adding rows went: what was added, and the error that stopped it, if one did. -/
structure Added where
  /-- the table -/
  table : Table
  /-- the rows that were added, the last one first -/
  added : List Record := []
  /-- the error that stopped it -/
  refusal : Option Refusal := none

/-- Adds one more row, unless an error has stopped it before. -/
def Added.step (orIgnore : Bool) (parameters : List Cell) (a : Added) (row : NewRow) : Added :=
  match a.refusal with
  | some _ => a
  | none =>
    let s := Table.noScope parameters
    match a.table.add (row.identity.eval s) (row.cells.map (Expr.eval s)) with
    | .ok (r, t) => { a with table := t, added := r :: a.added }
    | .error (.constraint text) =>
      if orIgnore then a else { a with refusal := some (.constraint text) }
    | .error r => { a with refusal := some r }

/-- The cells of a row with some of them computed anew. Of two changes to a cell the last counts. -/
def newCells (s : Scope Table.Place) (cells : List Cell) (changes : List (Table.Place × RowExpr)) :
    List Cell :=
  changes.foldl (fun cs (p, e) =>
    match p with
    | .column i => cs.set i (e.eval s)
    | .identity => cs) cells

/-- The cell that gives a row another identity, if one does. -/
def newIdentity (s : Scope Table.Place) (changes : List (Table.Place × RowExpr)) : Option Cell :=
  (changes.reverse.lookup .identity).map (Expr.eval s)

/-- Changes rows one after the other. -/
def updateAll (changes : List (Table.Place × RowExpr)) (parameters : List Cell) :
    Table → List Record → Except Refusal (List Record × Table)
  | t, [] => .ok ([], t)
  | t, r :: rest => do
    let s := Table.scope parameters r
    let (r', t') ← t.update r (newIdentity s changes) (newCells s r.cells changes)
    let (rs, t'') ← updateAll changes parameters t' rest
    return (r' :: rs, t'')

/-- The database after a change that failed: nothing but the numbers shows it. -/
def Database.unchanged (db : Database) (lastId : Int64) : Database :=
  { db with lastId, changes := 0 }

/-- Runs a plan. An error comes with the database that it leaves. -/
def Plan.run (db : Database) (parameters : List Cell) :
    Plan → Except (Error × Database) Effect
  | .select none columns filter _ =>
    let s := Table.noScope parameters
    .ok { rows := if meets s filter then [answerRow columns s] else [], database := db }
  | .select (some t) columns filter order =>
    let found := found parameters t filter
    let keys := fun r : Record =>
      order.map fun (e, down) => (e.eval (Table.scope parameters r), down)
    let found := if order.isEmpty then found else orderBy keys found
    .ok { rows := found.map fun r => answerRow columns (Table.scope parameters r)
          database := db }
  | .insert orIgnore t rows returning =>
    let a := rows.foldl (Added.step orIgnore parameters) { table := t }
    let lastId := (a.added.head?.map Record.id).getD db.lastId
    match a.refusal with
    | some r => .error (.sqlite r.message, db.unchanged lastId)
    | none =>
      let added := a.added.reverse
      .ok { rows := if returning.isEmpty then []
              else added.map fun r => answerRow returning (Table.scope parameters r)
            database :=
              { db.withTable a.table with lastId := lastId, changes := added.length } }
  | .update t changes filter returning =>
    let found := t.records.filter fun r => meets (Table.scope parameters r) filter
    match updateAll changes parameters t found with
    | .error r => .error (.sqlite r.message, db.unchanged db.lastId)
    | .ok (updated, t') =>
      .ok { rows := if returning.isEmpty then []
              else updated.map fun r => answerRow returning (Table.scope parameters r)
            database := { db.withTable t' with changes := found.length } }
  | .delete t filter returning =>
    let (gone, kept) := t.records.partition fun r => meets (Table.scope parameters r) filter
    .ok { rows := if returning.isEmpty then []
            else gone.map fun r => answerRow returning (Table.scope parameters r)
          database := { db.withTable { t with records := kept } with changes := gone.length } }
  | .begin =>
    match db.saved with
    | some _ => .error (.sqlite "cannot start a transaction within a transaction", db)
    | none => .ok { database := { db with saved := some db.tables } }
  | .commit =>
    match db.saved with
    | some _ => .ok { database := { db with saved := none } }
    | none => .error (.sqlite "cannot commit - no transaction is active", db)
  | .rollback =>
    match db.saved with
    | some tables => .ok { database := { db with tables := tables, saved := none } }
    | none => .error (.sqlite "cannot rollback - no transaction is active", db)

/-! ## Requests -/

namespace Database

/-- The first statement of a text, ready to be run, and the text behind it; nothing if there are
only blanks and comments. -/
def prepare (db : Database) (sql : String) : Except Error (Option (Parsed × Plan × String)) := do
  match ← parseFirst sql with
  | none => return none
  | some (p, rest) => return some (p, ← p.statement.plan sql db.tables, rest)

/-- The only statement of a text, ready to be run. All of them must be fit to run, and then there
may be no second one. -/
def only (db : Database) : Nat → String → Except Error (Option (Parsed × Plan))
  | 0, _ => .ok none
  | fuel + 1, sql => do
    match ← db.prepare sql with
    | none => return none
    | some (p, plan, rest) =>
      match ← db.only fuel rest with
      | none => return some (p, plan)
      | some _ => refuse "Multiple statements provided"

/-- Runs statements one after the other. The first error stops it; what was done before stays
done. -/
def runBatch : Nat → Database → String → Except Error Unit × Database
  | 0, db, _ => (.ok (), db)
  | fuel + 1, db, sql =>
    match db.prepare sql with
    | .error e => (.error e, db)
    | .ok none => (.ok (), db)
    | .ok (some (_, plan, rest)) =>
      match plan.run db [] with
      | .error (e, db') => (.error e, db')
      | .ok effect => runBatch fuel effect.database rest

/-- There is a parameter for each that a statement has. -/
def checkCount (given needed : Nat) : Except Error Unit :=
  if given = needed then .ok ()
  else
    refuse ("Wrong number of parameters passed to query. Got " ++
      toString (min given (needed + 1)) ++ ", needed " ++ toString needed)

end Database

/-- What a text is prepared as. -/
inductive Compiled where
  /-- a statement that does not end -/
  | endless
  /-- nothing but blanks and comments -/
  | nothing
  /-- a statement with its text, and the names of its columns -/
  | statement (sql : String) (p : Parsed) (columns : List String)

/-- The names of the columns. -/
def Compiled.columns : Compiled → List String
  | .statement _ _ columns => columns
  | _ => []

namespace Database

/-- A text without the blanks around it, which do not belong to it. -/
def trimmed (sql : String) : String := String.ofList (Text.trim sql.toList)

/-- Prepares the only statement of a text. -/
def compile (db : Database) (sql : String) : Except Error Compiled :=
  if sql ∈ db.endless then .ok .endless
  else
    match db.only ((trimmed sql).length + 1) (trimmed sql) with
    | .error e => .error e
    | .ok none => .ok .nothing
    | .ok (some (p, plan)) => .ok (.statement (trimmed sql) p (plan.columns.map Prod.fst))

/-- Runs what was prepared for a list of parameters. A statement is fitted to the tables as they are
by then, which have not changed but for their rows. -/
def run (db : Database) (parameters : List Cell) :
    Compiled → Ending (List (List Cell)) × Database
  | .endless => (.endless, db)
  | .nothing =>
    (.ofExcept do
      checkCount parameters.length 0
      refuse "bad parameter or other API misuse", db)
  | .statement sql p _ =>
    match checkCount parameters.length p.parameters with
    | .error e => (.failed e, db)
    | .ok () =>
      match p.statement.plan sql db.tables with
      | .error e => (.failed e, db)
      | .ok plan =>
        match plan.run db (parameters.map Cell.asParameter) with
        | .error (e, db') => (.failed e, db')
        | .ok effect => (.done effect.rows, effect.database)

instance : Driver Database where
  Statement := Compiled
  prepare := compile
  columns := Compiled.columns
  run st db parameters := db.run parameters st
  batch db sql :=
    if sql ∈ db.endless then (.endless, db)
    else
      let (r, db') := runBatch (sql.length + 1) db sql
      (.ofExcept r, db')
  changes := changes
  lastId := lastId

end Database

/-- A database behind a lock. -/
abbrev Memory := Handle Database

end Tabula.Sqlite
