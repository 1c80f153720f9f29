import Tabula.Procedure.Basic

/-!
# Transactions

A `Transaction` runs steps over any number of connections, all or nothing. It begins a transaction
on a connection when a step uses it for the first time. If a step fails, everything that was touched
is rolled back, the last one first, and the transaction is over. After the last step everything that
was touched is committed, and every connection is tried.

A step is a procedure or a function that stands between two procedures: it sees the result of the
step before it and what the step behind it is, and what it does then is a list of directives.
-/

namespace Tabula

/-- One thing that a function does, mostly to the procedure behind it. -/
inductive Directive where
  /-- it fails -/
  | fail (e : Error)
  /-- it fires a token -/
  | cancel (t : Token)
  /-- it binds a name to a value -/
  | bind (name : String) (v : Value)
  /-- it binds a name to the first key of the result before -/
  | bindKey (name : String)
  /-- it binds a name to a cell of the first row of the result before -/
  | bindCell (name column : String)
  /-- it adds a set of parameters -/
  | addParameters (set : ParameterSet)
  /-- it adds a criterion -/
  | addCriterion (c : Criterion)
  /-- it clears the procedure -/
  | clear
  /-- it puts the procedure on a connection -/
  | setConnection (c : Nat)

/-- A step of a transaction. -/
inductive Step where
  /-- a procedure -/
  | routine (r : Routine)
  /-- a transaction as a procedure, which has no connection and so cannot run as a step -/
  | nested (type : QueryType)
  /-- a function, by what it does in view of the result before it and of the procedure behind it -/
  | function (directives : Option ResultSet → Option ProcedureInfo → List Directive)

namespace Step

/-- What is known from outside of the procedure that a step is. -/
def info? : Step → Option ProcedureInfo
  | .routine r => some r.info
  | .nested type => some ⟨.none, type, none⟩
  | .function _ => none

/-- The same on a connection. -/
def onConnection (c : Nat) : Step → Step
  | .routine r => .routine (r.onConnection c)
  | s => s

end Step

/-- How far a transaction is. -/
inductive Phase where
  /-- it is running -/
  | running
  /-- it was committed -/
  | committed
  /-- it was rolled back -/
  | rolledBack
  deriving DecidableEq

/-- Steps that run all or nothing. -/
structure Transaction where
  /-- the steps -/
  steps : List Step := []
  /-- the result of each step, once it has run -/
  results : List (Option ResultSet) := []
  /-- the number of the step that runs next -/
  next : Nat := 0
  /-- the connections that were touched, in order -/
  touched : List Nat := []
  /-- the token that ends it -/
  token : Option Token := none
  /-- how far it is -/
  phase : Phase := .running
  /-- the result of the last run that succeeded -/
  outcome : Option ResultSet := none

namespace Transaction

/-- The transaction with one more step (`add_boxed`). -/
def add (t : Transaction) (s : Step) : Transaction :=
  { t with steps := t.steps ++ [s], results := t.results ++ [none] }

/-- The transaction is over (`is_finished`). -/
def isFinished (t : Transaction) : Bool := t.phase ≠ .running

/-- The result of a step (`results`). -/
def resultOf? (t : Transaction) (step : Nat) : Option ResultSet := (t.results[step]?).join

/-- The result of the last step that has one (`last_results`). -/
def lastResult? (t : Transaction) : Option ResultSet :=
  (t.results.take t.next).reverse.findSome? id

/-- What the last procedure among the steps does (`query_type`). -/
def queryType (t : Transaction) : QueryType :=
  (t.steps.reverse.findSome? fun s => s.info?.map ProcedureInfo.type).getD .proc

/-- What is known of it from outside. -/
def info (t : Transaction) : ProcedureInfo := ⟨.none, t.queryType, none⟩

/-- The transaction before its first step. What was touched stays touched. -/
def clear (t : Transaction) : Transaction :=
  { t with
    results := t.results.map fun _ => none
    next := 0
    phase := .running
    outcome := none }

/-- The transaction with another state of a step. -/
def withStep (t : Transaction) (i : Nat) (s : Step) : Transaction :=
  { t with steps := t.steps.set i s }

/-- The error for a transaction that is over (`ensure_open`). -/
def finished : Error := .invalidInput "transaction already finished"

variable {β : Type} [Backend β]

/-! ## Functions -/

/-- What to bind a value to. -/
def bindNext (name : String) (v : Value) : Step → Action β (Except Error Unit × Step)
  | .routine r => do return (← r.bindAll name v).map id .routine
  | s => return (.error (noBinding name), s)

/-- Carries out one directive on the step behind. -/
def obey (previous : Option ResultSet) (d : Directive) (next : Option Step) :
    Action β (Except Error Unit × Option Step) := do
  match d, next with
  | .fail e, next => return (.error e, next)
  | .cancel t, next =>
    modify (·.fire t)
    return (.ok (), next)
  | _, none => return (.error (.invalidInput "no next step"), none)
  | .bind name v, some s => return (← bindNext name v s).map id some
  | .bindKey name, some s =>
    let key := (previous.bind fun r => r.keys.head?).getD .null
    return (← bindNext name key s).map id some
  | .bindCell name column, some s =>
    let cell := (previous.bind fun r => (r.get? 0).bind (·.get? column)).getD .null
    return (← bindNext name cell s).map id some
  | .addParameters set, some s =>
    match s with
    | .routine r => return (← r.addParameters set).map id (some ∘ .routine)
    | s => return (.error (noParameters .none), some s)
  | .addCriterion c, some s =>
    match s with
    | .routine r => return (← r.addCriterion c).map id (some ∘ .routine)
    | s => return (.error (noCriteria .none), some s)
  | .clear, some s =>
    match s with
    | .routine r => return (.ok (), some (.routine (← r.clear)))
    | s => return (.ok (), some s)
  | .setConnection c, some s => return (.ok (), some (s.onConnection c))

/-- Carries out directives in order, until one fails. -/
def obeyAll (previous : Option ResultSet) :
    List Directive → Option Step → Action β (Except Error Unit × Option Step)
  | [], next => return (.ok (), next)
  | d :: rest, next => do
    match ← obey previous d next with
    | (.ok (), next) => obeyAll previous rest next
    | (.error e, next) => return (.error e, next)

/-! ## Steps -/

/-- Begins a transaction on a connection unless it has been touched. -/
def touch (t : Transaction) (c : Nat) : Action β (Outcome Unit × Transaction) := do
  if t.touched.contains c then return (.ok (), t)
  else
    match ← Session.begin c with
    | .ok () => return (.ok (), { t with touched := t.touched ++ [c] })
    | .error h => return (.error h, t)

/-- Runs something that is dropped as soon as it waits and a token has fired. If the token has fired
before, it is not begun, and what it would have changed stays as it is. -/
def watched {α σ : Type} (token : Option Token) (before : σ) (run : Action β (Outcome α × σ)) :
    Action β (Outcome α × σ) := do
  if (← get).hasFired token then return (failWith .cancelled, before)
  else
    modify ({ · with watcher := token })
    let (r, after) ← run
    modify ({ · with watcher := none })
    match r with
    | .error .stuck =>
      if (← get).hasFired token then return (failWith .cancelled, after)
      else return (.error .stuck, after)
    | r => return (r, after)

/-- Executes a procedure as the step of a number on a connection. -/
def executeAs (i c : Nat) (r : Routine) : Action β (Outcome ResultSet × Routine) := do
  modify fun s => s.mark (.executed i c (s.depth c))
  r.execute

/-- The result is that something was cancelled. -/
def isCancelled {α : Type} : Outcome α → Bool
  | .error (.failed .cancelled) => true
  | _ => false

/-- The transaction after the procedure of a step was executed. -/
def record (t : Transaction) (i : Nat) (r : Routine) :
    Outcome ResultSet → Outcome Unit × Transaction
  | .ok rs => (.ok (), { t.withStep i (.routine r) with results := t.results.set i (some rs) })
  | .error h => (.error h, t.withStep i (.routine r))

/-- Runs a procedure as the step of a number (`Step::Query`). -/
def runRoutine (t : Transaction) (i : Nat) (r : Routine) :
    Action β (Outcome Unit × Transaction) := do
  match r.connection with
  | none => return (failWith unbound, t)
  | some c =>
    modify (·.mark (.prepared i))
    match ← r.prepare with
    | .error e => return (failWith e, t)
    | .ok () =>
      match ← t.touch c with
      | (.error h, t) => return (.error h, t)
      | (.ok (), t) =>
        let (result, r) ← watched t.token r (executeAs i c r)
        modify fun s => if isCancelled result then s.interrupt c else s
        return t.record i r result

/-- The step behind, if it is a procedure. -/
def procedureAt? (t : Transaction) (i : Nat) : Option Step :=
  (t.steps[i]?).bind fun s => if s.info?.isSome then some s else none

/-- Runs a function as the step of a number (`Step::Function`). -/
def runFunction (t : Transaction) (i : Nat)
    (directives : Option ResultSet → Option ProcedureInfo → List Directive) :
    Action β (Outcome Unit × Transaction) := do
  let previous := if i = 0 then none else t.resultOf? (i - 1)
  let next := t.procedureAt? (i + 1)
  let info := next.bind Step.info?
  modify (·.mark (.called i))
  modify (·.see (.function previous info))
  let (result, next) ← obeyAll previous (directives previous info) next
  return (outcomeOf result, next.elim t (t.withStep (i + 1)))

/-- Runs the step of a number (`run_step`). -/
def runStep (t : Transaction) (i : Nat) : Action β (Outcome Unit × Transaction) := do
  if (← get).hasFired t.token then return (failWith .cancelled, t)
  else
    match t.steps[i]? with
    | none => return (.ok (), t)
    | some (.routine r) => t.runRoutine i r
    | some (.nested _) => return (failWith unbound, t)
    | some (.function directives) => t.runFunction i directives

/-! ## Ends -/

/-- The errors of something that was tried. -/
def errorsOf : Outcome Unit → List Error
  | .error (.failed e) => [e]
  | _ => []

/-- Rolls back connections in order; with the errors of those that could not be. -/
def rollbackAll : List Nat → Action β (Outcome (List Error))
  | [] => return .ok []
  | c :: rest => do
    match ← Session.rollback c with
    | .error .stuck => return .error .stuck
    | r => return (← rollbackAll rest).map (errorsOf r ++ ·)

/-- Rolls back everything that was touched, the last one first (`rollback_touched`). -/
def rollbackTouched (t : Transaction) : Action β (Outcome (List Error) × Transaction) := do
  return (← rollbackAll t.touched.reverse, { t with touched := [] })

/-- Commits a connection, or else rolls it back; with the error of the commit. -/
def commitOne (c : Nat) : Action β (Outcome (List Error)) := do
  match ← Session.commit c with
  | .ok () => return .ok []
  | .error .stuck => return .error .stuck
  | .error (.failed e) =>
    match ← Session.rollback c with
    | .error .stuck => return .error .stuck
    | _ => return .ok [e]

/-- Commits connections in order; with the errors of those that could not be. -/
def commitAll : List Nat → Action β (Outcome (List Error))
  | [] => return .ok []
  | c :: rest => do
    match ← commitOne c with
    | .error h => return .error h
    | .ok es => return (← commitAll rest).map (es ++ ·)

/-- Gives up at a step for a reason. -/
def abort (t : Transaction) (step : Nat) (source : Error) :
    Action β (Outcome (Option Nat) × Transaction) := do
  let (r, t) ← t.rollbackTouched
  let t := { t with phase := .rolledBack }
  match r with
  | .ok failures => return (failWith (.aborted step source failures), t)
  | .error h => return (.error h, t)

/-- Runs the next step and answers its number, or nothing if there is no more step
(`execute_next`). -/
def executeNext (t : Transaction) : Action β (Outcome (Option Nat) × Transaction) := do
  if t.isFinished then return (failWith finished, t)
  else if t.steps.length ≤ t.next then return (.ok none, t)
  else
    match ← t.runStep t.next with
    | (.ok (), t) => return (.ok (some t.next), { t with next := t.next + 1 })
    | (.error (.failed e), t) => t.abort t.next e
    | (.error .stuck, t) => return (.error .stuck, t)

/-- Commits everything that was touched. All steps must have run. -/
def commit (t : Transaction) : Action β (Outcome Unit × Transaction) := do
  if t.isFinished then return (failWith finished, t)
  else if t.next < t.steps.length then
    return (failWith (.invalidInput ("cannot commit with " ++ toString (t.steps.length - t.next) ++
      " step(s) not yet executed")), t)
  else
    let r ← commitAll t.touched
    let t := { t with touched := [] }
    match r with
    | .error h => return (.error h, t)
    | .ok [] => return (.ok (), { t with phase := .committed })
    | .ok failures => return (failWith (.commitFailed failures), { t with phase := .committed })

/-- Rolls back everything that was touched, and is over. -/
def rollback (t : Transaction) : Action β (Outcome Unit × Transaction) := do
  if t.isFinished then return (failWith finished, t)
  else
    let (r, t) ← t.rollbackTouched
    match r with
    | .error h => return (.error h, t)
    | .ok [] => return (.ok (), { t with phase := .rolledBack })
    | .ok failures =>
      return (failWith (.execution ("rollback failed: " ++
        String.intercalate "; " (failures.map Error.message))), { t with phase := .rolledBack })

/-- Runs so many steps, as long as there are some. -/
def runSteps : Nat → Transaction → Action β (Outcome Unit × Transaction)
  | 0, t => return (.ok (), t)
  | fuel + 1, t => do
    match ← t.executeNext with
    | (.error h, t) => return (.error h, t)
    | (.ok none, t) => return (.ok (), t)
    | (.ok (some _), t) => runSteps fuel t

/-- Runs all steps that are left and commits. -/
def execute (t : Transaction) : Action β (Outcome ResultSet × Transaction) := do
  match ← runSteps (t.steps.length - t.next + 1) t with
  | (.error h, t) => return (.error h, t)
  | (.ok (), t) =>
    match ← t.commit with
    | (.error h, t) => return (.error h, t)
    | (.ok (), t) =>
      let r := t.lastResult?.getD {}
      return (.ok r, { t with outcome := some r })

/-- What happens when a transaction is given up unfinished: everything that was touched is rolled
back (`drop`). Errors are not reported to anybody. -/
def discard (t : Transaction) : Action β Unit := do
  let _ ← rollbackAll (β := β) t.touched.reverse

end Transaction

end Tabula
