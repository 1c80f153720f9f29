import Tabula.Engine
import Tabula.Results.ResultSet

/-!
# Backends

A backend is what stands behind a connection. It is asked one `Request` at a time and changes as it
answers. A backend need not answer: the `Reply` can be `never`, and then whoever asked has to give
up some time. An answer takes time, so cancellation tokens can fire before it is there. Giving up
does not end what the backend is at; for that it is told to stop. -/

namespace Tabula

/-- The number of a cancellation token. -/
abbrev Token := Nat

/-- What a backend is asked. -/
inductive Request where
  /-- to run statements without parameters -/
  | batch (sql : String)
  /-- to run a statement once for each list of values -/
  | sets (sql : String) (sets : List (List Value)) (type : QueryType)

/-- The statements by which transactions are begun and ended. -/
inductive Control where
  /-- a transaction begins -/
  | begin
  /-- it ends, and what was done in it is kept -/
  | commit
  /-- it ends, and what was done in it is undone -/
  | rollback
  deriving DecidableEq

/-- The text of a control statement. -/
def Control.sql : Control → String
  | .begin => "BEGIN"
  | .commit => "COMMIT"
  | .rollback => "ROLLBACK"

/-- The request to run a control statement. -/
def Control.request (c : Control) : Request := .batch c.sql

/-- What a backend replies. -/
inductive Reply where
  /-- the statements were run; with one result set for each list of values -/
  | done (results : List ResultSet)
  /-- a statement could not be run -/
  | failed (e : Error)
  /-- there is no reply -/
  | never

namespace Reply

/-- There is none. -/
def isNever : Reply → Bool
  | .never => true
  | _ => false

/-- The reply with one more result set in front, if there are any. -/
def behind (r : ResultSet) : Reply → Reply
  | .done rs => .done (r :: rs)
  | reply => reply

end Reply

/-- What a server was seen to be sent. -/
inductive Notice where
  /-- a statement to prepare -/
  | prepared (sql : String)
  /-- the parameters of a run, as bytes -/
  | bound (cells : List (Option (List UInt8)))
  /-- statements without parameters -/
  | batch (sql : String)

/-- A reply, the backend after it, and what happened on the way. -/
structure Answer (β : Type) where
  /-- the reply -/
  reply : Reply
  /-- the backend as it is now -/
  backend : β
  /-- what was sent -/
  notices : List Notice := []
  /-- the tokens that fire, at somebody else's hands, before the reply is there -/
  fired : List Token := []

/-- Something that can stand behind a connection. -/
class Backend (β : Type) where
  /-- its engine -/
  engine : β → Engine
  /-- how it answers -/
  answer : β → Request → Answer β
  /-- what it is after it was told to stop what it is at -/
  interrupt : β → β
  /-- an answer does not change the engine -/
  engine_answer : ∀ b r, engine (answer b r).backend = engine b
  /-- neither does stopping -/
  engine_interrupt : ∀ b, engine (interrupt b) = engine b

end Tabula
