import Tabula.Procedure.Statement
import Tabula.Procedure.Stub

/-!
# Procedures that run on one connection

A `Routine` is a query, a prepared statement, a template with criteria, or a stub. Whatever it is,
it can be executed, cleared, prepared, given input of the kind it takes (`Routine.inputKind`), and
bound to a connection.
-/

namespace Tabula

/-- A procedure that runs on one connection. -/
inductive Routine where
  /-- a statement without parameters -/
  | query (q : Query)
  /-- a statement that is run once for each set -/
  | prepared (p : PreparedStatement)
  /-- a template with criteria -/
  | set (s : StatementSet)
  /-- a stub -/
  | stub (s : Stub)

/-- The error for sets of parameters that are not taken. -/
def noParameters (k : InputKind) : Error :=
  .invalidInput (k.name ++ " procedure does not take parameter sets")

/-- The error for criteria that are not taken. -/
def noCriteria (k : InputKind) : Error :=
  .invalidInput (k.name ++ " procedure does not take criteria")

/-- The error for a name that cannot be bound. -/
def noBinding (name : String) : Error :=
  .invalidInput ("cannot bind " ++ name ++ ": procedure takes no input")

/-- The error for rows that cannot be fed. -/
def noInput : Error := .invalidInput "procedure takes no input"

namespace Routine

variable {β : Type} [Backend β]

/-- The input that it takes (`input_kind`). -/
def inputKind : Routine → InputKind
  | .query _ => .none
  | .prepared _ => .parameterSets
  | .set _ => .criteria
  | .stub s => s.input

/-- What it does (`query_type`). -/
def queryType : Routine → QueryType
  | .query q => q.type
  | .prepared p => p.type
  | .set s => s.template.queryType
  | .stub s => s.type

/-- The number of its connection. -/
def connection : Routine → Option Nat
  | .query q => q.connection
  | .prepared p => p.connection
  | .set s => s.connection
  | .stub s => s.connection

/-- The same on a connection (`set_connection`). -/
def onConnection (c : Nat) : Routine → Routine
  | .query q => .query { q with connection := some c }
  | .prepared p => .prepared { p with connection := some c }
  | .set s => .set { s with connection := some c }
  | .stub s => .stub { s with connection := some c }

/-- What is known of it from outside. -/
def info (r : Routine) : ProcedureInfo := ⟨r.inputKind, r.queryType, r.connection⟩

/-- The result of the last run that succeeded. -/
def results : Routine → Option ResultSet
  | .query q => q.results
  | .prepared p => p.results
  | .set s => s.results
  | .stub s => s.results

/-- Executes it. -/
def execute : Routine → Action β (Outcome ResultSet × Routine)
  | .query q => do return (← q.execute).map id .query
  | .prepared p => do return (← p.execute).map id .prepared
  | .set s => do return (← s.execute).map id .set
  | .stub s => do return (← s.execute).map id .stub

/-- Forgets its input and its result. -/
def clear : Routine → Action β Routine
  | .query q => return .query { q with results := none }
  | .prepared p => return .prepared p.clear
  | .set s => return .set s.clear
  | .stub s => do return .stub (← s.clear)

/-- Looks for faults of its input without sending anything. -/
def prepare : Routine → Action β (Except Error Unit)
  | .query _ => return .ok ()
  | .prepared p => p.prepare
  | .set s => return s.prepare
  | .stub s => s.prepare

/-- Adds a set of parameters, if it takes such (`add_parameters`). -/
def addParameters (set : ParameterSet) : Routine → Action β (Except Error Unit × Routine)
  | .prepared p => return (.ok (), .prepared (p.addParameters set))
  | .stub s => do
    if s.input = .parameterSets then
      s.note (.addParameters set)
      return (.ok (), .stub s)
    else return (.error (noParameters s.input), .stub s)
  | r => return (.error (noParameters r.inputKind), r)

/-- Adds a criterion, if it takes such (`add_criterion`). -/
def addCriterion (c : Criterion) : Routine → Action β (Except Error Unit × Routine)
  | .set s => return (.ok (), .set (s.addCriterion c))
  | .stub s => do
    if s.input = .criteria then
      s.note (.addCriterion c)
      return (.ok (), .stub s)
    else return (.error (noCriteria s.input), .stub s)
  | r => return (.error (noCriteria r.inputKind), r)

/-- Binds a name in all of its input, if it takes any (`bind_all`). -/
def bindAll (name : String) (v : Value) : Routine → Action β (Except Error Unit × Routine)
  | .prepared p => return (.ok (), .prepared (p.bindAll name v))
  | .set s => return (.ok (), .set (s.bindAll name v))
  | .stub s => do
    if s.input = .none then return (.error (noBinding name), .stub s)
    else
      s.note (.bindAll name v)
      return (.ok (), .stub s)
  | .query q => return (.error (noBinding name), .query q)

/-- Adds one criterion as the kind of input that it takes. -/
def feedOne (c : Criterion) (r : Routine) : Action β (Except Error Unit × Routine) :=
  match r.inputKind with
  | .criteria => r.addCriterion c
  | .parameterSets =>
    match c.toParameterSet with
    | .ok parameters => r.addParameters parameters
    | .error e => return (.error e, r)
  | .none => return (.error noInput, r)

/-- Adds one criterion after the other, until one is refused. -/
def feedAll : List Criterion → Routine → Action β (Except Error Unit × Routine)
  | [], r => return (.ok (), r)
  | c :: rest, r => do
    match ← r.feedOne c with
    | (.ok (), r) => feedAll rest r
    | (.error e, r) => return (.error e, r)

/-- Adds criteria as the kind of input that it takes; it must take some. -/
def feed (cs : List Criterion) (r : Routine) : Action β (Except Error Unit × Routine) :=
  if r.inputKind = .none then return (.error noInput, r) else r.feedAll cs

end Routine

end Tabula
