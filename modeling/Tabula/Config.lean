import Tabula.Engine
import Tabula.Error
import Tabula.Text.Blank

/-!
# Configuration

How a connection is opened (`ConnectionConfig`) and how it is used (`EngineOptions`).
`ConnectionConfig.validate` finds what is missing or contradictory before anything is opened.
-/

namespace Tabula

/-- How a connection is opened. -/
structure ConnectionConfig where
  /-- the engine -/
  engine : Engine
  /-- where the database of the in-memory engine is kept -/
  path : Option String := none
  /-- how the server is reached -/
  url : Option String := none
  /-- how long to wait for a database that is in use, in milliseconds -/
  busyTimeoutMs : Option Nat := none
  /-- how long a round trip may take, in milliseconds -/
  statementTimeoutMs : Option Nat := none

namespace ConnectionConfig

/-- The configuration of a database at a path. -/
def sqlite (path : String) : ConnectionConfig := { engine := .sqlite, path := some path }

/-- The configuration of a server. -/
def postgres (url : String) : ConnectionConfig := { engine := .postgres, url := some url }

/-- The configuration with another time to wait for a database in use (`with_busy_timeout`). -/
def withBusyTimeout (c : ConnectionConfig) (d : Duration) : ConnectionConfig :=
  { c with busyTimeoutMs := some d.millis }

/-- The configuration with another time limit for round trips (`with_statement_timeout`). -/
def withStatementTimeout (c : ConnectionConfig) (d : Duration) : ConnectionConfig :=
  { c with statementTimeoutMs := some d.millis }

/-- How long to wait for a database that is in use (`busy_timeout`). -/
def busyTimeout (c : ConnectionConfig) : Option Duration := c.busyTimeoutMs.map .ofMillis

/-- How long a round trip may take (`statement_timeout`). -/
def statementTimeout (c : ConnectionConfig) : Option Duration := c.statementTimeoutMs.map .ofMillis

/-- A text is missing or holds nothing but blanks. -/
def isBlank (s : Option String) : Bool := s.all fun s => s.toList.all Text.isBlank

/-- The first thing that is wrong with a configuration. -/
def fault? (c : ConnectionConfig) : Option String :=
  match c.engine with
  | .sqlite =>
    if isBlank c.path then some "sqlite requires path"
    else if c.url.isSome then some "sqlite takes path, not url"
    else general
  | .postgres =>
    if isBlank c.url then some "postgres requires url"
    else if c.path.isSome then some "postgres takes url, not path"
    else if c.busyTimeoutMs.isSome then some "busy_timeout_ms only applies to sqlite"
    else general
where
  /-- What can be wrong whatever the engine. -/
  general : Option String :=
    if c.statementTimeoutMs = some 0 then some "statement_timeout_ms must be positive" else none

/-- Fails if something is wrong with a configuration. -/
def validate (c : ConnectionConfig) : Except Error Unit :=
  if !c.engine.isAvailable then .error (.engineUnavailable c.engine.name)
  else match c.fault? with
    | some text => .error (.configuration text)
    | none => .ok ()

/-- Something that may be missing, as JSON. -/
def optional {α : Type} (toJson : α → Json) (a : Option α) : Json := (a.map toJson).getD .null

/-- The JSON value of a configuration. -/
def toJson (c : ConnectionConfig) : Json :=
  .object [("engine", .string c.engine.name), ("path", optional .string c.path),
    ("url", optional .string c.url),
    ("busy_timeout_ms", optional (fun n : Nat => .ofInt n) c.busyTimeoutMs),
    ("statement_timeout_ms", optional (fun n : Nat => .ofInt n) c.statementTimeoutMs)]

/-- The text of a configuration on the wire. -/
def wireText (c : ConnectionConfig) : String := c.toJson.text

/-- What has been found of a configuration. -/
structure Found where
  /-- the engine -/
  engine : Option Engine := none
  /-- the path -/
  path : Option (Option String) := none
  /-- the address of the server -/
  url : Option (Option String) := none
  /-- the time to wait for a database in use -/
  busyTimeoutMs : Option (Option Nat) := none
  /-- the time limit -/
  statementTimeoutMs : Option (Option Nat) := none

/-- Decodes one field. -/
def decodeField (f : Found) (name : String) (d : Draft) : Except Mismatch Found :=
  match name with
  | "engine" => do return { f with engine := ← Draft.once f.engine (Engine.decode d) }
  | "path" => do return { f with path := ← Draft.once f.path (text d) }
  | "url" => do return { f with url := ← Draft.once f.url (text d) }
  | "busy_timeout_ms" => do
    return { f with busyTimeoutMs := ← Draft.once f.busyTimeoutMs (natural d) }
  | _ => do return { f with statementTimeoutMs := ← Draft.once f.statementTimeoutMs (natural d) }
where
  /-- A text that may be missing. -/
  text (d : Draft) : Except Mismatch (Option String) := d.toOption? Draft.toString?
  /-- A natural that may be missing. -/
  natural (d : Draft) : Except Mismatch (Option Nat) := d.toOption? Draft.toNatural?

/-- Decodes a configuration. Everything but the engine may be missing. -/
def decode (d : Draft) : Except Mismatch ConnectionConfig := do
  let f ← d.toRecord? ["engine", "path", "url", "busy_timeout_ms", "statement_timeout_ms"]
    decodeField {}
  return {
    engine := ← Draft.required f.engine
    path := f.path.getD none
    url := f.url.getD none
    busyTimeoutMs := f.busyTimeoutMs.getD none
    statementTimeoutMs := f.statementTimeoutMs.getD none }

end ConnectionConfig

/-- How a connection is used. -/
structure EngineOptions where
  /-- how much of an error is shown -/
  reporting : Reporting := .verbose
  /-- how long a round trip may take, whatever the configuration says -/
  statementTimeout : Option Duration := none
  /-- the number of the token that ends its round trips -/
  token : Option Nat := none

end Tabula
