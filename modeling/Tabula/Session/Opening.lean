import Tabula.Config
import Tabula.Postgres.ConnectionString
import Tabula.Postgres.Server
import Tabula.Session.Basic
import Tabula.Sqlite.Database
import Tabula.Sqlite.Location

/-!
# Opening connections

A `Store` is what a connection of either engine has behind it. What is opened here is a database in
memory; databases in files and servers are out of reach, and opening them says so. What a store does
is no matter of the driver that runs the statements of an embedded database.
-/

namespace Tabula

/-- What stands behind a connection of either engine. -/
inductive Store (δ : Type) where
  /-- an embedded database -/
  | embedded (h : Sqlite.Handle δ)
  /-- a server -/
  | server (s : Postgres.Server)

namespace Store

/-- The same answer with the backend in another form. -/
def lift {β γ : Type} (f : β → γ) (a : Answer β) : Answer γ :=
  { reply := a.reply, backend := f a.backend, notices := a.notices, fired := a.fired }

instance {δ : Type} [Sqlite.Driver δ] : Backend (Store δ) where
  engine
    | .embedded _ => .sqlite
    | .server _ => .postgres
  answer
    | .embedded h, r => lift .embedded (Backend.answer h r)
    | .server s, r => lift .server (Backend.answer s r)
  interrupt
    | .embedded h => .embedded (Backend.interrupt h)
    | .server s => .server (Backend.interrupt s)
  engine_answer
    | .embedded _, _ => rfl
    | .server _, _ => rfl
  engine_interrupt
    | .embedded _ => rfl
    | .server _ => rfl

end Store

/-- A connection with what stands behind it, set up as a configuration and options say. -/
def Connection.configured {β : Type} (backend : β) (c : ConnectionConfig) (o : EngineOptions) :
    Connection β :=
  { backend
    timeout := o.statementTimeout <|> c.statementTimeout
    token := o.token
    reporting := o.reporting }

/-- The database that a path leads to (`SqliteConnection::open`). A null character cannot be part of
a path. -/
def Store.ofPath (path : String) : Except Error (Store Sqlite.Database) :=
  let before := path.toList.takeWhile (· ≠ '\u0000')
  if before.length < path.length then
    .error (.sqlite ("nul byte found in provided data at position: " ++
      toString (String.ofList before).utf8ByteSize))
  else
    match Sqlite.Location.ofPath path with
    | .error text => .error (.sqlite text)
    | .ok .temporary => .ok (.embedded { driver := {} })
    | .ok .file => .error (.sqlite ("unable to open database file: " ++ path))

/-- The server that a connection string leads to (`PostgresConnection::connect`). -/
def Store.ofConnectionString {δ : Type} (s : String) : Except Error (Store δ) :=
  .error (.postgres (match Postgres.Target.ofText? s with
    | none => "invalid connection string"
    | some t => if t.isUsable then "error connecting to server" else "invalid configuration"))

/-- What a configuration leads to, once it is valid. -/
def Store.ofConfig (c : ConnectionConfig) : Except Error (Store Sqlite.Database) :=
  match c.engine with
  | .sqlite => Store.ofPath (c.path.getD "")
  | .postgres => Store.ofConnectionString (c.url.getD "")

/-- Opens a connection (`open_with`). -/
def Connection.open (c : ConnectionConfig) (o : EngineOptions) :
    Except Error (Connection (Store Sqlite.Database)) := do
  c.validate
  return .configured (← Store.ofConfig c) c o

end Tabula
