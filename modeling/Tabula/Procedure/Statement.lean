import Tabula.Session.Connection
import Tabula.Template

/-!
# Statements that run on a connection

Three ways to run a statement: as it is (`Query`), once for each of the sets that were added
(`PreparedStatement`), or as a template that criteria fill (`StatementSet`). Each remembers the
result of its last run that succeeded.
-/

namespace Tabula

/-- The error for a procedure that has no connection (`require_connection`). -/
def unbound : Error := .configuration "procedure has no connection"

/-- One result set of the sets of a run. -/
def settle (sets : Outcome (List ResultSet)) (c : Combination) : Outcome ResultSet :=
  sets.bind fun sets => outcomeOf (collapse sets c)

/-! ## Queries -/

/-- A statement without parameters. -/
structure Query where
  /-- the number of the connection -/
  connection : Option Nat := none
  /-- the statement -/
  sql : String
  /-- what it does -/
  type : QueryType := .select
  /-- how result sets are brought down to one -/
  combination : Combination := .unionAll
  /-- the result of the last run -/
  results : Option ResultSet := none

namespace Query

variable {β : Type} [Backend β]

/-- Runs the statement. -/
def execute (q : Query) : Action β (Outcome ResultSet × Query) := do
  match q.connection with
  | none => return (failWith unbound, q)
  | some c =>
    match settle (← Session.execute c q.sql [] q.type) q.combination with
    | .ok r => return (.ok r, { q with results := some r })
    | .error h => return (.error h, q)

end Query

/-! ## Prepared statements -/

/-- A statement that is run once for each of its sets. -/
structure PreparedStatement where
  /-- the number of the connection -/
  connection : Option Nat := none
  /-- the statement -/
  sql : String
  /-- what it does -/
  type : QueryType := .select
  /-- how result sets are brought down to one -/
  combination : Combination := .unionAll
  /-- the sets, in the order in which they run -/
  sets : List ParameterSet := []
  /-- the result of the last run -/
  results : Option ResultSet := none
  /-- the result sets of the last run, one for each set -/
  resultArray : Option (List ResultSet) := none

namespace PreparedStatement

variable {β : Type} [Backend β]

/-- Runs the statement for every set, changing nothing here. -/
def run (p : PreparedStatement) : Action β (Outcome (List ResultSet)) :=
  match p.connection with
  | none => return failWith unbound
  | some c => Session.execute c p.sql p.sets p.type

/-- Runs the statement for every set and keeps the result sets apart (`execute_array`). -/
def executeArray (p : PreparedStatement) :
    Action β (Outcome (List ResultSet) × PreparedStatement) := do
  match ← p.run with
  | .ok sets => return (.ok sets, { p with resultArray := some sets })
  | .error h => return (.error h, p)

/-- Runs the statement for every set. -/
def execute (p : PreparedStatement) : Action β (Outcome ResultSet × PreparedStatement) := do
  match ← p.executeArray with
  | (.error h, p) => return (.error h, p)
  | (.ok sets, p) =>
    match settle (.ok sets) p.combination with
    | .ok r => return (.ok r, { p with results := some r })
    | .error h => return (.error h, p)

/-- Binds every set without sending anything. Without a connection there is nothing to bind for. -/
def prepare (p : PreparedStatement) : Action β (Except Error Unit) := do
  match p.connection.bind (← get).engine? with
  | none => return .ok ()
  | some engine =>
    return ((NamedStatement.compile p.sql engine.placeholderStyle).bindAll p.sets).map fun _ => ()

/-- The statement without its sets and results. -/
def clear (p : PreparedStatement) : PreparedStatement :=
  { p with sets := [], results := none, resultArray := none }

/-- The statement with one more set (`add_parameters`). -/
def addParameters (p : PreparedStatement) (set : ParameterSet) : PreparedStatement :=
  { p with sets := p.sets ++ [set] }

/-- The statement with a value for a name in every set (`bind_all`); without a set it gets one. -/
def bindAll (p : PreparedStatement) (name : String) (v : Value) : PreparedStatement :=
  let sets := if p.sets.isEmpty then [.empty] else p.sets
  { p with sets := sets.map (·.insert name v) }

end PreparedStatement

/-! ## Templates with criteria -/

/-- A template with the criteria that fill it. -/
structure StatementSet where
  /-- the number of the connection -/
  connection : Option Nat := none
  /-- the template -/
  template : Template
  /-- how result sets are brought down to one -/
  combination : Combination := .unionAll
  /-- the criteria, in the order in which they were added -/
  criteria : List Criterion := []
  /-- the result of the last run -/
  results : Option ResultSet := none

namespace StatementSet

variable {β : Type} [Backend β]

/-- The statements for the criteria, one for each shape. -/
def compile (s : StatementSet) : Except Error (List Batch) := s.template.compile s.criteria

/-- Runs compiled statements one after the other, until one fails. -/
def runBatches (connection : Option Nat) (type : QueryType) :
    List Batch → Action β (Outcome (List ResultSet))
  | [] => return .ok []
  | b :: rest => do
    match connection with
    | none => return failWith unbound
    | some c =>
      match ← Session.execute c b.sql b.sets type with
      | .error h => return .error h
      | .ok sets => return (← runBatches connection type rest).map (sets ++ ·)

/-- Compiles and runs all statements. -/
def execute (s : StatementSet) : Action β (Outcome ResultSet × StatementSet) := do
  match s.compile with
  | .error e => return (failWith e, s)
  | .ok batches =>
    match settle (← runBatches s.connection s.template.queryType batches) s.combination with
    | .ok r => return (.ok r, { s with results := some r })
    | .error h => return (.error h, s)

/-- Compiles without sending anything. -/
def prepare (s : StatementSet) : Except Error Unit := s.compile.map fun _ => ()

/-- The template without its criteria and results. -/
def clear (s : StatementSet) : StatementSet := { s with criteria := [], results := none }

/-- The template with one more criterion (`add_criterion`). -/
def addCriterion (s : StatementSet) (c : Criterion) : StatementSet :=
  { s with criteria := s.criteria ++ [c] }

/-- The template with a value for a column in every criterion (`bind_all`); without a criterion it
gets one. -/
def bindAll (s : StatementSet) (name : String) (v : Value) : StatementSet :=
  let criteria := if s.criteria.isEmpty then [({} : Criterion)] else s.criteria
  { s with criteria := criteria.map (·.withValue name v) }

end StatementSet

end Tabula
