import Tabula.Backend
import Tabula.Sqlite.Cell

/-!
# Running statements over a driver

The statements of a database in a file or in memory are run by a library. `Driver` is what is asked
of it, and nothing else of it is known here: it prepares a text, names the columns of what it has
prepared, runs that for one list of parameters, and keeps two numbers of the last change.
`Driver.executeSets` is made of these: a statement is prepared once, and runs for one list of values
after the other.

A `Handle` is a driver behind a lock. Requests run one after the other. What comes while something
runs that does not end waits behind it, whether or not somebody still wants the answer, and runs
once that is stopped. -/

namespace Tabula.Sqlite

/-- How something ends that a driver is asked to do. -/
inductive Ending (α : Type) where
  /-- it is done -/
  | done (a : α)
  /-- it fails -/
  | failed (e : Error)
  /-- it does not end unless it is stopped -/
  | endless

namespace Ending

/-- What is done or fails. -/
def ofExcept {α : Type} : Except Error α → Ending α
  | .ok a => .done a
  | .error e => .failed e

/-- The reply of statements that have no answer. -/
def reply : Ending Unit → Reply
  | .done _ => .done []
  | .failed e => .failed e
  | .endless => .never

end Ending

/-- What is asked of the library that runs statements, given the state that it is in. -/
class Driver (δ : Type) where
  /-- statements that are prepared -/
  Statement : Type
  /-- prepares the statement of a text, or takes the one that is kept (`prepare_cached`) -/
  prepare : δ → String → Except Error Statement
  /-- the names of the columns of its answer (`column_names`) -/
  columns : Statement → List String
  /-- runs it for a list of parameters (`execute`, `query`): the cells of each row, and the state
  afterwards, which is that behind a stop if it does not end -/
  run : Statement → δ → List Cell → Ending (List (List Cell)) × δ
  /-- runs statements without parameters (`execute_batch`) -/
  batch : δ → String → Ending Unit × δ
  /-- how many rows the last change concerned -/
  changes : δ → Nat
  /-- the identity of the row that was added last (`last_insert_rowid`) -/
  lastId : δ → Int64

namespace Driver

variable {δ : Type} [Driver δ]

/-- The values of a row, one for each column (`sqlite_extract_value_sync`). A column that the row
has not is an error. -/
def rowOf (width : Nat) (cells : List Cell) : Except Error (List Value) :=
  if cells.length < width then
    .error (.sqlite ("Invalid column index: " ++ toString cells.length))
  else .ok ((cells.take width).map Cell.toValue)

/-- The result set of a run, by the columns of the statement and the state behind it. A statement
without columns answers how many rows it concerned, and an insertion the identity of its last row;
any other one answers its rows (`build_result_set`), and an insertion their first cells as keys. -/
def resultOf (columns : List String) (type : QueryType) (rows : List (List Cell)) (d : δ) :
    Except Error ResultSet :=
  if columns.isEmpty then
    .ok { affected := changes d
          keys := if type = .insert && changes d ≠ 0 then [.int (lastId d)] else [] }
  else do
    let rows ← rows.mapM (rowOf columns.length)
    let set := rows.foldl ResultSet.addValues (ResultSet.withColumns {} (.ofNames columns))
    return if type = .insert then { set with keys := set.rows.filterMap (·.getAt? 0) } else set

/-- Runs a prepared statement for one list of parameters after the other, until one fails. -/
def runSets (st : Statement δ) (type : QueryType) : δ → List (List Cell) → Reply × δ
  | d, [] => (.done [], d)
  | d, parameters :: rest =>
    match run st d parameters with
    | (.endless, d') => (.never, d')
    | (.failed e, d') => (.failed e, d')
    | (.done rows, d') =>
      match resultOf (columns st) type rows d' with
      | .error e => (.failed e, d')
      | .ok set =>
        let (reply, d'') := runSets st type d' rest
        (reply.behind set, d'')

/-- Runs the statement of a text once for each list of values (`execute_sets`). It is prepared once
for all of them. -/
def executeSets (d : δ) (sql : String) (sets : List (List Value)) (type : QueryType) : Reply × δ :=
  match prepare d sql with
  | .error e => (.failed e, d)
  | .ok st => runSets st type d (sets.map fun vs => vs.map Cell.ofValue)

/-- What a driver replies to a request. -/
def serve (d : δ) : Request → Reply × δ
  | .batch sql => ((batch d sql).1.reply, (batch d sql).2)
  | .sets sql sets type => executeSets d sql sets type

end Driver

/-- A driver that is shared behind a lock (`SqliteConnection`). -/
structure Handle (δ : Type) where
  /-- the driver -/
  driver : δ
  /-- the requests behind something that does not end, if something like that is running -/
  waiting : Option (List Request) := none

namespace Handle

variable {δ : Type}

/-- What a driver replied as an answer. Requests wait from then on if there is no reply. -/
def answered (x : Reply × δ) : Answer (Handle δ) :=
  { reply := x.1
    backend := { driver := x.2, waiting := if x.1.isNever then some [] else none } }

variable [Driver δ]

/-- How a request is answered (`run_blocking`). -/
def answer (h : Handle δ) (r : Request) : Answer (Handle δ) :=
  match h.waiting with
  | none => answered (Driver.serve h.driver r)
  | some rs => { reply := .never, backend := { h with waiting := some (rs ++ [r]) } }

/-- The handle after what is running was stopped: what waited behind it runs, in order. -/
def interrupt (h : Handle δ) : Handle δ :=
  match h.waiting with
  | none => h
  | some rs => rs.foldl (fun h r => (h.answer r).backend) { h with waiting := none }

instance : Backend (Handle δ) where
  engine _ := .sqlite
  answer := answer
  interrupt := interrupt
  engine_answer _ _ := rfl
  engine_interrupt _ := rfl

end Handle

end Tabula.Sqlite
