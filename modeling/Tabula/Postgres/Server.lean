import Tabula.Backend
import Tabula.Postgres.Decoding

/-!
# A server that follows a script

A `Server` knows no SQL. What it answers is laid down beforehand: the statements it prepares, for
each of them the answers of its runs, and how batches end. What is decided on this side of the wire
is the same as with any server: parameters are counted and encoded before a run, and the cells of
the answer are decoded by the types of the columns.
-/

namespace Tabula.Postgres

/-- The answer of one run. -/
structure Run where
  /-- rows of cells -/
  rows : List (List (Option (List UInt8))) := []
  /-- what the server says at the end that it did; it refuses if it says nothing -/
  tag : Option String := some "SELECT 0"

instance : Inhabited Run := ⟨{}⟩

/-- A statement that the server has prepared. -/
structure Prepared where
  /-- the types of the parameters -/
  parameters : List ColumnType := []
  /-- the names and types of the columns -/
  columns : List (String × ColumnType) := []
  /-- the answers of the runs -/
  runs : List Run := []
  deriving Inhabited

/-- A server with its script. -/
structure Server where
  /-- the statements that are prepared next, a missing one being refused -/
  statements : List (Option Prepared) := []
  /-- whether the next batches succeed -/
  batches : List Bool := []

/-- The error for whatever the server refuses. -/
def refused : Error := .postgres "db error"

/-- The error for a text that cannot be sent. -/
def unsendable : Error := .postgres "error encoding message to server"

/-- The error for an answer that cannot be understood. -/
def unparsable : Error := .postgres "error parsing response from server"

/-- A text ends at a null character on the wire, so it must not hold one. -/
def isSendable (sql : String) : Bool := !sql.toList.contains '\u0000'

/-- The number at the end of what the server says it did. -/
def affectedOf (tag : String) : Nat :=
  let word := (tag.toList.reverse.takeWhile (· ≠ ' ')).reverse
  let ds := match word with
    | '+' :: ds => ds
    | ds => ds
  let n := Text.digitsValue ds
  if ds ≠ [] && ds.all Char.isDigit && fitsUnsigned 64 n then n else 0

namespace Prepared

/-- The parameters as bytes, from number `i` on. -/
def encodeFrom : Nat → List ColumnType → List Value → Except Error (List (Option (List UInt8)))
  | i, t :: ts, v :: vs =>
    match encodeChecked v t with
    | .ok cell => do return cell :: (← encodeFrom (i + 1) ts vs)
    | .error _ => .error (.postgres ("error serializing parameter " ++ toString i))
  | _, _, _ => .ok []

/-- The parameters of a run as bytes. -/
def bind (p : Prepared) (values : List Value) : Except Error (List (Option (List UInt8))) :=
  if p.parameters.length = values.length then encodeFrom 0 p.parameters values
  else .error (.postgres ("expected " ++ toString p.parameters.length ++ " parameters but got " ++
    toString values.length))

/-- The values of the cells of a row, from column `i` on. -/
def decodeFrom : Nat → List ColumnType → List (Option (List UInt8)) → Except Error (List Value)
  | i, t :: ts, cell :: cells =>
    match decodeCell t cell with
    | some v => do return v :: (← decodeFrom (i + 1) ts cells)
    | none => .error (.postgres ("error deserializing column " ++ toString i))
  | _, _, _ => .ok []

/-- The result set of some rows (`build_result_set_from_statement`). -/
def resultOf (p : Prepared) (rows : List (List (Option (List UInt8)))) (type : QueryType) :
    Except Error ResultSet := do
  let columns := Columns.ofNames (p.columns.map Prod.fst)
  let rows ← rows.mapM (decodeFrom 0 (p.columns.map Prod.snd))
  let set := rows.foldl ResultSet.addValues (ResultSet.withColumns {} columns)
  return if type = .insert then { set with keys := set.rows.filterMap (·.getAt? 0) } else set

/-- All rows have a cell for each column; a statement without columns does not look at them. -/
def fits (p : Prepared) (rows : List (List (Option (List UInt8)))) : Bool :=
  p.columns.isEmpty || rows.all fun r => r.length == p.columns.length

/-- What a run answers. A statement without columns answers how many rows it concerned. Rows come
before the end, so one that does not fit is noticed even if the server refuses in the end. -/
def result (p : Prepared) (type : QueryType) (r : Run) : Except Error ResultSet :=
  if !p.fits r.rows then .error unparsable
  else
    match r.tag with
    | none => .error refused
    | some tag =>
      if p.columns.isEmpty then .ok { affected := affectedOf tag } else p.resultOf r.rows type

/-- Runs a prepared statement for one list of values after the other, until one fails
(`execute_sets`); with what was sent. -/
def runAll (p : Prepared) (type : QueryType) :
    List Run → List (List Value) → Except Error (List ResultSet) × List Notice
  | _, [] => (.ok [], [])
  | runs, values :: rest =>
    match p.bind values with
    | .error e => (.error e, [])
    | .ok cells =>
      match p.result type (runs.headD default) with
      | .error e => (.error e, [.bound cells])
      | .ok set =>
        let (sets, notices) := p.runAll type runs.tail rest
        ((set :: ·) <$> sets, .bound cells :: notices)

end Prepared

namespace Server

/-- The reply of something that ends in an error or in result sets. -/
def replyOf : Except Error (List ResultSet) → Reply
  | .ok sets => .done sets
  | .error e => .failed e

/-- How the server answers. -/
def answer (s : Server) : Request → Answer Server
  | .batch sql =>
    if !isSendable sql then { reply := .failed unsendable, backend := s }
    else
      { reply := if s.batches.headD true then .done [] else .failed refused
        backend := { s with batches := s.batches.tail }
        notices := [.batch sql] }
  | .sets sql sets type =>
    if !isSendable sql then { reply := .failed unsendable, backend := s }
    else
      let s' := { s with statements := s.statements.tail }
      match s.statements.headD (some {}) with
      | none => { reply := .failed refused, backend := s', notices := [.prepared sql] }
      | some p =>
        let (results, notices) := p.runAll type p.runs sets
        { reply := replyOf results, backend := s', notices := .prepared sql :: notices }

instance : Backend Server where
  engine _ := .postgres
  answer := answer
  interrupt s := s
  engine_answer _ _ := rfl
  engine_interrupt _ := rfl

end Server

end Tabula.Postgres
