import Tabula.Session.Basic
import Tabula.Sql.Named

/-!
# Connections

What can be done with a connection of a session. Parameters are bound before anything is sent.
Transactions nest by counting: only the outermost `begin` and `commit` reach the backend, and
`rollback` leaves them all at once. Neither `commit` nor `rollback` can be cancelled.
-/

namespace Tabula

/-- The values of each set in the order of the placeholders. No set counts as one without values. -/
def NamedStatement.bindAll (n : NamedStatement) :
    List ParameterSet → Except Error (List (List Value))
  | [] => do return [← n.bind .empty]
  | sets => sets.mapM n.bind

namespace Session

variable {β : Type} [Backend β]

/-- Runs a statement once for each set. -/
def execute (c : Nat) (sql : String) (sets : List ParameterSet) (type : QueryType) :
    Action β (Outcome (List ResultSet)) := do
  match (← get).engine? c with
  | none => return failWith noConnection
  | some engine =>
    let named := NamedStatement.compile sql engine.placeholderStyle
    match named.bindAll sets with
    | .error e => return failWith e
    | .ok bound => sendGuarded c (.sets named.sql bound type)

/-- Runs statements without parameters (`execute_batch`). -/
def batch (c : Nat) (sql : String) : Action β (Outcome Unit) := do
  return (← sendGuarded c (.batch sql)).map fun _ => ()

/-- Enters a transaction (`begin_transaction`). -/
def begin (c : Nat) : Action β (Outcome Unit) := do
  if (← get).depth c = 0 then
    match ← sendGuarded c Control.begin.request with
    | .error h => return .error h
    | .ok _ =>
      modify (·.withDepth c 1)
      return .ok ()
  else
    modify fun s => s.withDepth c (s.depth c + 1)
    return .ok ()

/-- Leaves a transaction and keeps what was done in it. If that fails the depth stays. -/
def commit (c : Nat) : Action β (Outcome Unit) := do
  match (← get).depth c with
  | 0 => return failWith (.execution "commit without an open transaction")
  | 1 =>
    match ← sendUnguarded c Control.commit.request with
    | .error h => return .error h
    | .ok _ =>
      modify (·.withDepth c 0)
      return .ok ()
  | n + 1 =>
    modify (·.withDepth c n)
    return .ok ()

/-- Leaves all transactions and undoes what was done in them. The depth is zero afterwards in any
case. -/
def rollback (c : Nat) : Action β (Outcome Unit) := do
  if (← get).depth c = 0 then return .ok ()
  else
    modify (·.withDepth c 0)
    return (← sendUnguarded c Control.rollback.request).map fun _ => ()

/-- What comes back of something without a result. -/
def answerOf (c : Nat) (r : Outcome Unit) : Action β (Outcome ConnectionAnswer) := do
  let depth := (← get).depth c
  match r with
  | .ok () => return .ok (.done depth)
  | .error (.failed e) => return .ok (.refused e depth)
  | .error .stuck => return .error .stuck

/-- Does something with a connection. -/
def call : ConnectionCall → Action β (Outcome ConnectionAnswer)
  | .begin c => do answerOf c (← begin c)
  | .commit c => do answerOf c (← commit c)
  | .rollback c => do answerOf c (← rollback c)
  | .batch c sql => do answerOf c (← batch c sql)
  | .execute c sql sets type => do
    match ← execute c sql sets type with
    | .ok sets => return .ok (.sets sets)
    | .error (.failed e) => return .ok (.failed e)
    | .error .stuck => return .error .stuck
  | .info c => do
    let s ← get
    match s.engine? c with
    | some engine => return .ok (.info engine (s.depth c))
    | none => return failWith noConnection
  | .report c => do
    match (← get).connections[c]? with
    | some conn =>
      return .ok (.report conn.reporting (Backend.engine conn.backend) conn.depth conn.timeout)
    | none => return failWith noConnection

end Session

end Tabula
