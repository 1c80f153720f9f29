import Tabula.Duration
import Tabula.Json.Text
import Tabula.Text.Quoted

/-!
# Errors

An `Error` is a cause. Its wording is `Error.message`, its number `Error.code`; callers branch on
the number and never on the wording. The thousands of the number are the `Category`, and a `Report`
is what is shown of an error at the boundary of a program.
-/

namespace Tabula

/-- Why something could not be done (`VeloxError`). -/
inductive Error where
  /-- an in-memory database refused, in its own words -/
  | sqlite (text : String)
  /-- a database server or its client refused, in its own words -/
  | postgres (text : String)
  /-- the configuration contradicts itself or lacks something -/
  | configuration (text : String)
  /-- the engine is not part of this build -/
  | engineUnavailable (name : String)
  /-- there is no criterion to compile -/
  | emptyCriteria
  /-- the operator, as it was written, is none of the supported ones -/
  | unsupportedOperator (raw : String)
  /-- a range needs two operands -/
  | rangeOperands (column operator : String)
  /-- a membership needs a list that is not empty -/
  | membershipOperand (column operator : String)
  /-- a comparison needs one scalar -/
  | operandCount (column operator : String)
  /-- the column is not a plain or qualified identifier -/
  | invalidColumn (name : String)
  /-- a placeholder has no value -/
  | missingParameter (name : String)
  /-- a template and a criterion do not fit -/
  | templateMismatch (text : String)
  /-- a procedure cannot take what it was given -/
  | invalidInput (text : String)
  /-- a statement could not be carried out -/
  | execution (text : String)
  /-- the operation was cancelled -/
  | cancelled
  /-- the operation took longer than it may -/
  | timedOut (limit : Duration)
  /-- a step of a transaction failed, and with it the whole -/
  | aborted (step : Nat) (source : Error) (rollbackFailures : List Error)
  /-- some connections could not be committed -/
  | commitFailed (failures : List Error)
  /-- there are several result sets where one was wanted -/
  | multipleResultSets
  /-- the procedure has not been executed -/
  | resultsNotAvailable
  /-- no column has this name -/
  | unknownColumn (name : String)
  deriving Inhabited

/-- The broad classes of errors (`ErrorCategory`). -/
inductive Category where
  /-- something is set up wrongly -/
  | configuration
  /-- a statement could not be put together -/
  | compilation
  /-- a statement could not be carried out -/
  | execution
  /-- a transaction failed -/
  | transaction
  /-- results are not what was asked for -/
  | consistency
  deriving DecidableEq

namespace Category

/-- The name of a category. -/
def name : Category → String
  | .configuration => "configuration"
  | .compilation => "compilation"
  | .execution => "execution"
  | .transaction => "transaction"
  | .consistency => "consistency"

end Category

namespace Error

/-- The number of an error. -/
def code : Error → Nat
  | .configuration _ => 1001
  | .engineUnavailable _ => 1002
  | .emptyCriteria => 2001
  | .unsupportedOperator _ => 2002
  | .rangeOperands _ _ => 2003
  | .membershipOperand _ _ => 2004
  | .operandCount _ _ => 2005
  | .invalidColumn _ => 2006
  | .missingParameter _ => 2007
  | .templateMismatch _ => 2008
  | .invalidInput _ => 2009
  | .sqlite _ => 3001
  | .postgres _ => 3002
  | .execution _ => 3003
  | .cancelled => 3004
  | .timedOut _ => 3005
  | .aborted _ _ _ => 4001
  | .commitFailed _ => 4002
  | .multipleResultSets => 5001
  | .resultsNotAvailable => 5002
  | .unknownColumn _ => 5003

/-- The category of an error, by the thousands of its number. -/
def category (e : Error) : Category :=
  match e.code / 1000 with
  | 1 => .configuration
  | 2 => .compilation
  | 3 => .execution
  | 4 => .transaction
  | _ => .consistency

/-- The wording of an error (`to_string`). -/
def message : Error → String
  | .sqlite text => text
  | .postgres text => text
  | .configuration text => "Configuration error: " ++ text
  | .engineUnavailable name => "Engine not enabled in this build: " ++ name
  | .emptyCriteria => "criteria must not be empty"
  | .unsupportedOperator raw => "unsupported operator: " ++ raw
  | .rangeOperands column operator =>
    operator ++ " on column " ++ column ++ " requires exactly two operands"
  | .membershipOperand column operator =>
    operator ++ " on column " ++ column ++ " requires a non-empty array operand"
  | .operandCount column operator =>
    operator ++ " on column " ++ column ++ " requires exactly one scalar operand"
  | .invalidColumn name => "invalid column name: " ++ Text.quoted name
  | .missingParameter name => "no value bound for placeholder :" ++ name
  | .templateMismatch text => "template mismatch: " ++ text
  | .invalidInput text => "invalid procedure input: " ++ text
  | .execution text => "SQL execution error: " ++ text
  | .cancelled => "operation cancelled"
  | .timedOut limit => "operation timed out after " ++ limit.text
  | .aborted step source failures =>
    "transaction aborted at step " ++ toString step ++ " (" ++ toString failures.length ++
      " rollback failure(s)): " ++ source.message
  | .commitFailed failures =>
    "commit failed on " ++ toString failures.length ++ " connection(s)"
  | .multipleResultSets => "multiple result sets returned, check resultSetOption"
  | .resultsNotAvailable => "results not yet available, execute the procedure first"
  | .unknownColumn name => "unknown column: " ++ name

/-- The error that began the abort of a transaction (`root_cause`); any other error is its own
cause. -/
def rootCause : Error → Error
  | .aborted _ source _ => source.rootCause
  | e => e

end Error

/-- How much of an error is shown at the boundary of a program (`ErrorReporting`). -/
inductive Reporting where
  /-- the whole wording -/
  | verbose
  /-- the number and the category only -/
  | codeOnly
  deriving DecidableEq, Inhabited

/-- What is shown of an error at the boundary of a program (`ErrorReport`). -/
structure Report where
  /-- the number of the error -/
  code : Nat
  /-- the category of the error -/
  category : Category
  /-- what is said of it -/
  message : String

/-- The report of an error. -/
def Error.report (e : Error) (r : Reporting) : Report :=
  { code := e.code
    category := e.category
    message := match r with
      | .verbose => e.message
      | .codeOnly => e.category.name ++ " error" }

/-- The JSON value of a report. -/
def Report.toJson (r : Report) : Json :=
  .object [("code", .ofInt r.code), ("category", .string r.category.name),
    ("message", .string r.message)]

/-- The text of a report on the wire. -/
def Report.wireText (r : Report) : String := r.toJson.text

end Tabula
