import Tabula.Session.Connection

/-!
# Stubs

A `Stub` stands in for a procedure. It says in the journal what is done to it, and what it does is
laid down beforehand, run by run.
-/

namespace Tabula

/-- What a stub does before a run ends. -/
inductive StubDeed where
  /-- it fires a token -/
  | cancel (t : Token)
  /-- it does something with a connection -/
  | call (c : ConnectionCall)

/-- How a run of a stub ends. -/
inductive StubEnding where
  /-- never -/
  | hang
  /-- with an error -/
  | fail (e : Error)
  /-- with a result -/
  | answer (r : ResultSet)

/-- A run of a stub. -/
structure StubRun where
  /-- what it does first -/
  deeds : List StubDeed := []
  /-- how it ends -/
  ending : StubEnding := .answer {}

/-- A procedure whose runs are laid down beforehand. -/
structure Stub where
  /-- its name in the journal -/
  name : String
  /-- the number of the connection -/
  connection : Option Nat := none
  /-- what it says it does -/
  type : QueryType := .select
  /-- the input it takes -/
  input : InputKind := .none
  /-- what preparing it fails with -/
  prepareError : Option Error := none
  /-- the runs to come -/
  runs : List StubRun := []
  /-- the result of the last run -/
  results : Option ResultSet := none

namespace Stub

variable {β : Type} [Backend β]

/-- Says in the journal what is done to the stub. -/
def note (s : Stub) (call : StubCall) : Action β Unit := modify (·.see (.stub s.name call))

/-- Does one thing after the other. What a connection refuses is said in the journal and stops
nothing. -/
def perform : List StubDeed → Action β (Outcome Unit)
  | [] => return .ok ()
  | .cancel t :: rest => do
    modify (·.fire t)
    perform rest
  | .call c :: rest => do
    match ← Session.call c with
    | .error h => return .error h
    | .ok answer =>
      modify (·.see (.connection answer))
      perform rest

/-- Runs the next run. After the last one every run answers the empty set. -/
def execute (s : Stub) : Action β (Outcome ResultSet × Stub) := do
  s.note .execute
  let run := s.runs.headD {}
  let s := { s with runs := s.runs.tail }
  match ← perform run.deeds with
  | .error h => return (.error h, s)
  | .ok () =>
    match run.ending with
    | .hang => return (.error (← Session.wait none none), s)
    | .fail e => return (failWith e, s)
    | .answer r => return (.ok r, { s with results := some r })

/-- Prepares the stub. -/
def prepare (s : Stub) : Action β (Except Error Unit) := do
  s.note .prepare
  match s.prepareError with
  | some e => return .error e
  | none => return .ok ()

/-- Clears the stub: its result is forgotten. -/
def clear (s : Stub) : Action β Stub := do
  s.note .clear
  return { s with results := none }

end Stub

end Tabula
