import Tabula.Backend
import Tabula.Criteria.Criterion

/-!
# Sessions

A `Session` is everything that changes while procedures run: the connections with the backends
behind them, the cancellation tokens that have fired, a journal of what could be seen from outside,
and a trace of what was asked of backends and of how far the steps of transactions came. An `Action`
runs in a session.

Time passes only while something waits. What waits is ended by the first of three: a time limit, a
token it listens to, or the token of the transaction step that it is a part of, the `watcher`. In
the last case the step is dropped where it stands, and nothing of it is carried on (`Halt.stuck`).
-/

namespace Tabula

/-- A connection to a backend. -/
structure Connection (β : Type) where
  /-- what stands behind it -/
  backend : β
  /-- how many transactions are open, one inside the other -/
  depth : Nat := 0
  /-- how long a round trip may take -/
  timeout : Option Duration := none
  /-- the token that ends its round trips -/
  token : Option Token := none
  /-- how much of an error is shown -/
  reporting : Reporting := .verbose

/-- What someone does with a connection, by its number. -/
inductive ConnectionCall where
  /-- to begin a transaction -/
  | begin (c : Nat)
  /-- to leave a transaction and keep it -/
  | commit (c : Nat)
  /-- to leave all transactions and undo them -/
  | rollback (c : Nat)
  /-- to run statements without parameters -/
  | batch (c : Nat) (sql : String)
  /-- to run a statement once for each set -/
  | execute (c : Nat) (sql : String) (sets : List ParameterSet) (type : QueryType)
  /-- to ask what state it is in -/
  | info (c : Nat)
  /-- to ask how it shows errors -/
  | report (c : Nat)

/-- What comes back. -/
inductive ConnectionAnswer where
  /-- it was done; with the depth afterwards -/
  | done (depth : Nat)
  /-- it failed; with the depth afterwards -/
  | refused (e : Error) (depth : Nat)
  /-- the result sets -/
  | sets (sets : List ResultSet)
  /-- there are no result sets -/
  | failed (e : Error)
  /-- the state -/
  | info (engine : Engine) (depth : Nat)
  /-- how errors are shown, and what the connection is -/
  | report (reporting : Reporting) (engine : Engine) (depth : Nat) (timeout : Option Duration)

/-- The kinds of input that a procedure takes. -/
inductive InputKind where
  /-- sets of parameters -/
  | parameterSets
  /-- criteria -/
  | criteria
  /-- none -/
  | none
  deriving DecidableEq, Inhabited

/-- The name of a kind in messages. -/
def InputKind.name : InputKind → String
  | .parameterSets => "ParameterSets"
  | .criteria => "Criteria"
  | .none => "None"

/-- What is known of a procedure from outside. -/
structure ProcedureInfo where
  /-- the input it takes -/
  input : InputKind
  /-- what it does -/
  type : QueryType
  /-- its connection -/
  connection : Option Nat

/-- What is done to a stub. -/
inductive StubCall where
  /-- it was executed -/
  | execute
  /-- it was cleared -/
  | clear
  /-- it was prepared -/
  | prepare
  /-- it was given a set -/
  | addParameters (set : ParameterSet)
  /-- it was given a criterion -/
  | addCriterion (c : Criterion)
  /-- a name was bound -/
  | bindAll (name : String) (v : Value)

/-- What can be seen from outside. -/
inductive Event where
  /-- a server was sent something -/
  | server (c : Nat) (notice : Notice)
  /-- something was done to a stub -/
  | stub (name : String) (call : StubCall)
  /-- a stub did something with a connection -/
  | connection (answer : ConnectionAnswer)
  /-- a function of a transaction ran, between a result and a procedure -/
  | function (previous : Option ResultSet) (next : Option ProcedureInfo)

/-- Why something ended without a result. -/
inductive Halt where
  /-- it failed -/
  | failed (e : Error)
  /-- it waits for something that does not happen, or was dropped where it stood -/
  | stuck

/-- What ends with a result or without one. -/
abbrev Outcome (α : Type) := Except Halt α

/-- A request that was sent over a connection, and how the waiting for its reply ended. -/
structure Exchange where
  /-- the number of the connection -/
  connection : Nat
  /-- what the backend was asked -/
  request : Request
  /-- how the waiting ended -/
  ending : Outcome (List ResultSet)

/-- What a trace records. -/
inductive Mark where
  /-- a backend was asked something -/
  | asked (e : Exchange)
  /-- a backend was told to stop what it was doing -/
  | interrupted (c : Nat)
  /-- a transaction prepared the procedure of a step -/
  | prepared (step : Nat)
  /-- it began to execute that procedure on a connection, whose depth was this -/
  | executed (step c depth : Nat)
  /-- it called the function of a step -/
  | called (step : Nat)

/-- A token that fires after some time of waiting. -/
structure Alarm where
  /-- the token -/
  token : Token
  /-- the time -/
  after : Duration

/-- Everything that changes while procedures run. -/
structure Session (β : Type) where
  /-- the connections -/
  connections : List (Connection β) := []
  /-- the tokens that have fired -/
  fired : List Token := []
  /-- a token that is going to fire -/
  alarm : Option Alarm := none
  /-- the token of the step that is running -/
  watcher : Option Token := none
  /-- what was seen, in order -/
  journal : List Event := []
  /-- what was asked and how far steps came, in order -/
  trace : List Mark := []

/-- What runs in a session. -/
abbrev Action (β : Type) (α : Type) := StateM (Session β) α

/-- An error as an outcome. -/
def failWith {α : Type} (e : Error) : Outcome α := .error (.failed e)

/-- Something that can only fail as an outcome. -/
def outcomeOf {α : Type} : Except Error α → Outcome α
  | .ok a => .ok a
  | .error e => failWith e

namespace Session

variable {β : Type}

/-- A token has fired. -/
def hasFired (s : Session β) (t : Option Token) : Bool := t.any fun t => s.fired.contains t

/-- The session with a token fired. -/
def fire (s : Session β) (t : Token) : Session β := { s with fired := t :: s.fired }

/-- The session after an event. -/
def see (s : Session β) (e : Event) : Session β := { s with journal := s.journal ++ [e] }

/-- The session with one more mark in its trace. -/
def mark (s : Session β) (m : Mark) : Session β := { s with trace := s.trace ++ [m] }

/-- The session with another state of a connection. -/
def withConnection (s : Session β) (c : Nat) (conn : Connection β) : Session β :=
  { s with connections := s.connections.set c conn }

/-- The session after the backend of a connection was told to stop what it is at. -/
def interrupt [Backend β] (s : Session β) (c : Nat) : Session β :=
  (match s.connections[c]? with
    | none => s
    | some conn =>
      s.withConnection c { conn with backend := Backend.interrupt conn.backend }).mark
    (.interrupted c)

/-- How waiting without an answer ends, with a time limit and a token to listen to. -/
def wait (limit : Option Duration) (token : Option Token) : Action β Halt := do
  let s ← get
  let late (a : Alarm) : Bool := limit.all fun d => a.after.nanos < d.nanos
  match s.alarm, limit with
  | some a, _ =>
    if late a then
      set { s.fire a.token with alarm := none }
      if s.watcher = some a.token then return .stuck
      else if token = some a.token then return .failed .cancelled
      else return limit.elim .stuck fun d => .failed (.timedOut d)
    else
      let rest := a.after.nanos - (limit.elim 0 Duration.nanos)
      set { s with alarm := some { a with after := ⟨rest⟩ } }
      return limit.elim .stuck fun d => .failed (.timedOut d)
  | none, some d => return .failed (.timedOut d)
  | none, none => return .stuck

/-- The error for a connection that is not there. -/
def noConnection : Error := .configuration "no such connection"

/-- The session after a backend has answered: the backend is another one, what it was sent has been
seen, and some tokens have fired. -/
def afterAnswer (s : Session β) (c : Nat) (conn : Connection β) (a : Answer β) : Session β :=
  let s := s.withConnection c { conn with backend := a.backend }
  let s := a.notices.foldl (fun s n => s.see (.server c n)) s
  { s with fired := a.fired ++ s.fired }

/-- How waiting for a reply ends. A step whose token has fired is dropped as soon as it waits, and a
token that is listened to counts for more than a reply. -/
def await (reply : Reply) (limit : Option Duration) (token : Option Token) :
    Action β (Outcome (List ResultSet)) := do
  let s ← get
  if s.hasFired s.watcher then return .error .stuck
  else if s.hasFired token then return failWith .cancelled
  else
    match reply with
    | .done sets => return .ok sets
    | .failed e => return failWith e
    | .never => return .error (← wait limit token)

/-- Sends a request and waits for the reply. -/
def send [Backend β] (c : Nat) (r : Request) (limit : Option Duration) (token : Option Token) :
    Action β (Outcome (List ResultSet)) := do
  let s ← get
  match s.connections[c]? with
  | none => return failWith noConnection
  | some conn =>
    let a := Backend.answer conn.backend r
    set (s.afterAnswer c conn a)
    let ending ← await a.reply limit token
    modify (·.mark (.asked ⟨c, r, ending⟩))
    return ending

/-- A round trip that nothing but the backend can end. -/
def sendUnguarded [Backend β] (c : Nat) (r : Request) : Action β (Outcome (List ResultSet)) :=
  send c r none none

/-- Waiting was given up while the backend may still have been at work. -/
def isCutShort {α : Type} : Outcome α → Bool
  | .error (.failed .cancelled) => true
  | .error (.failed (.timedOut _)) => true
  | _ => false

/-- A round trip that the token of a connection and its time limit can end. Once the token has fired
nothing is sent. -/
def sendUnlessFired [Backend β] (c : Nat) (r : Request) (conn : Connection β) :
    Action β (Outcome (List ResultSet)) := do
  if (← get).hasFired conn.token then return failWith .cancelled
  else send c r conn.timeout conn.token

/-- The same, and where waiting was given up the backend is told to stop (`guarded`). -/
def sendGuarded [Backend β] (c : Nat) (r : Request) : Action β (Outcome (List ResultSet)) := do
  match (← get).connections[c]? with
  | none => return failWith noConnection
  | some conn =>
    let ending ← sendUnlessFired c r conn
    modify fun s => if isCutShort ending then s.interrupt c else s
    return ending

/-- The depth of a connection (`transaction_depth`). -/
def depth (s : Session β) (c : Nat) : Nat := (s.connections[c]?).elim 0 Connection.depth

/-- The session with another depth of a connection. -/
def withDepth (s : Session β) (c n : Nat) : Session β :=
  match s.connections[c]? with
  | some conn => s.withConnection c { conn with depth := n }
  | none => s

/-- The engine of a connection. -/
def engine? [Backend β] (s : Session β) (c : Nat) : Option Engine :=
  (s.connections[c]?).map fun conn => Backend.engine conn.backend

end Session

end Tabula
