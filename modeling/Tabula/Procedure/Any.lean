import Tabula.Transaction.Basic

/-!
# Procedures

A `Procedure` is a routine on one connection or a whole transaction. A transaction takes no input
and has no connection of its own.
-/

namespace Tabula

/-- A routine or a transaction. -/
inductive Procedure where
  /-- something that runs on one connection -/
  | routine (r : Routine)
  /-- steps that run all or nothing -/
  | transaction (t : Transaction)

namespace Procedure

variable {β : Type} [Backend β]

/-- What is known of it from outside. -/
def info : Procedure → ProcedureInfo
  | .routine r => r.info
  | .transaction t => t.info

/-- The result of the last run that succeeded. -/
def results? : Procedure → Option ResultSet
  | .routine r => r.results
  | .transaction t => t.outcome

/-- The result of the last run that succeeded; there must be one. -/
def results (p : Procedure) : Except Error ResultSet :=
  match p.results? with
  | some r => .ok r
  | none => .error .resultsNotAvailable

/-- The same on a connection (`set_connection`). -/
def onConnection (c : Nat) : Procedure → Procedure
  | .routine r => .routine (r.onConnection c)
  | .transaction t => .transaction t

/-- Executes it. -/
def execute : Procedure → Action β (Outcome ResultSet × Procedure)
  | .routine r => do return (← r.execute).map id .routine
  | .transaction t => do return (← t.execute).map id .transaction

/-- Forgets its input and its result. -/
def clear : Procedure → Action β Procedure
  | .routine r => do return .routine (← r.clear)
  | .transaction t => return .transaction t.clear

/-- Looks for faults of its input without sending anything. -/
def prepare : Procedure → Action β (Except Error Unit)
  | .routine r => r.prepare
  | .transaction _ => return .ok ()

/-- Adds a set of parameters, if it takes such (`add_parameters`). -/
def addParameters (set : ParameterSet) : Procedure → Action β (Except Error Unit × Procedure)
  | .routine r => do return (← r.addParameters set).map id .routine
  | .transaction t => return (.error (noParameters .none), .transaction t)

/-- Adds a criterion, if it takes such (`add_criterion`). -/
def addCriterion (c : Criterion) : Procedure → Action β (Except Error Unit × Procedure)
  | .routine r => do return (← r.addCriterion c).map id .routine
  | .transaction t => return (.error (noCriteria .none), .transaction t)

/-- Binds a name in all of its input, if it takes any (`bind_all`). -/
def bindAll (name : String) (v : Value) : Procedure → Action β (Except Error Unit × Procedure)
  | .routine r => do return (← r.bindAll name v).map id .routine
  | .transaction t => return (.error (noBinding name), .transaction t)

/-- Adds criteria as the kind of input that it takes; it must take some. -/
def feed (cs : List Criterion) : Procedure → Action β (Except Error Unit × Procedure)
  | .routine r => do return (← r.feed cs).map id .routine
  | .transaction t => return (.error noInput, .transaction t)

end Procedure

end Tabula
