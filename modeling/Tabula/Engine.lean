import Tabula.Json.Decoding

/-!
# Engines and kinds of statement

The two database engines, with the mark each puts before a numbered placeholder, and the kinds of
statement a procedure can hold.
-/

namespace Tabula

/-- How numbered placeholders are marked. -/
inductive PlaceholderStyle where
  /-- `?1` -/
  | question
  /-- `$1` -/
  | dollar
  deriving DecidableEq

/-- The mark before the number (`marker`). -/
def PlaceholderStyle.mark : PlaceholderStyle → Char
  | .question => '?'
  | .dollar => '$'

/-- A database engine. -/
inductive Engine where
  /-- the in-memory engine -/
  | sqlite
  /-- the server -/
  | postgres
  deriving DecidableEq, Inhabited

namespace Engine

/-- The name of an engine. -/
def name : Engine → String
  | .sqlite => "sqlite"
  | .postgres => "postgres"

/-- The engine of a name. -/
def ofName? : String → Option Engine
  | "sqlite" => some .sqlite
  | "postgres" => some .postgres
  | _ => none

/-- The engine of a name typed by a person, who may be free to use any case. -/
def ofArgument? (text : String) (ignoreCase : Bool) : Option Engine :=
  ofName? (if ignoreCase then text.map Char.toLower else text)

/-- The engine is part of this build (`is_available`); both are. -/
def isAvailable (_ : Engine) : Bool := true

/-- How an engine marks numbered placeholders (`placeholder_style`). -/
def placeholderStyle : Engine → PlaceholderStyle
  | .sqlite => .question
  | .postgres => .dollar

/-- Decodes an engine. -/
def decode (d : Draft) : Except Mismatch Engine := do
  Draft.required (ofName? (← d.toName? ["sqlite", "postgres"]))

end Engine

/-- What a statement does. -/
inductive QueryType where
  /-- it reads -/
  | select
  /-- it changes rows -/
  | update
  /-- it adds rows -/
  | insert
  /-- it removes rows -/
  | delete
  /-- it does something else -/
  | proc
  deriving DecidableEq, Inhabited

namespace QueryType

/-- The statement changes the database (`is_write`). -/
def isWrite : QueryType → Bool
  | .update | .insert | .delete => true
  | .select | .proc => false

/-- The name on the wire. -/
def name : QueryType → String
  | .select => "select"
  | .update => "update"
  | .insert => "insert"
  | .delete => "delete"
  | .proc => "proc"

/-- The kind of a name. -/
def ofName? : String → Option QueryType
  | "select" => some .select
  | "update" => some .update
  | "insert" => some .insert
  | "delete" => some .delete
  | "proc" => some .proc
  | _ => none

/-- Decodes a kind of statement. -/
def decode (d : Draft) : Except Mismatch QueryType := do
  Draft.required (ofName? (← d.toName? ["select", "update", "insert", "delete", "proc"]))

end QueryType

end Tabula
