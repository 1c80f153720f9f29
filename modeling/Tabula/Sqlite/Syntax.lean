import Tabula.Sqlite.Cell

/-!
# Statements of the in-memory database

The syntax that the database understands: conditions and expressions, reading and writing rows of
one table, and the statements that begin and end transactions.
-/

namespace Tabula.Sqlite

/-- A comparison of two cells. -/
inductive Comparison where
  /-- equal -/
  | eq
  /-- not equal -/
  | ne
  /-- less -/
  | lt
  /-- less or equal -/
  | le
  /-- greater -/
  | gt
  /-- greater or equal -/
  | ge
  /-- equal, null being equal to null -/
  | same
  deriving DecidableEq

/-- An operation on two cells. -/
inductive Arithmetic where
  /-- sum -/
  | add
  /-- difference -/
  | sub
  /-- product -/
  | mul
  /-- quotient -/
  | div
  /-- remainder -/
  | rem
  /-- the bits that both have -/
  | bitAnd
  /-- the bits that one has -/
  | bitOr
  /-- the bits moved up -/
  | shiftUp
  /-- the bits moved down -/
  | shiftDown
  /-- one text behind the other -/
  | concat
  deriving DecidableEq

/-- How a name is written. -/
inductive NameStyle where
  /-- as a word -/
  | bare
  /-- between quotation marks, as a text may be -/
  | quoted
  /-- between other marks -/
  | marked
  deriving DecidableEq

/-- A name in an expression. -/
structure ColumnRef where
  /-- the database in front of it -/
  database : Option String := none
  /-- the table in front of it -/
  table : Option String := none
  /-- its name -/
  name : String
  /-- how it is written -/
  style : NameStyle := .marked
  /-- how many bytes of the statement there are from here on -/
  remaining : Nat
  deriving DecidableEq

/-- The column as it is written, for messages. -/
def ColumnRef.text (c : ColumnRef) : String :=
  ".".intercalate ((c.database.toList ++ c.table.toList) ++ [c.name])

/-- What is computed from other cells. -/
inductive Operation where
  /-- the same cell, but not as the column that it may be -/
  | plain
  /-- the negative of a number -/
  | neg
  /-- the bits that a number does not have -/
  | bitNot
  /-- an operation on two cells -/
  | arithmetic (op : Arithmetic)
  /-- a comparison of two cells -/
  | compare (op : Comparison)
  /-- the second cell is the first one; behind a word for a truth value it is as true -/
  | is
  /-- being null -/
  | isNull
  /-- not being null -/
  | notNull
  /-- likeness of the second cell to a pattern, which is the first -/
  | like
  /-- the first cell lies between two others -/
  | between
  /-- the first cell is one of the others -/
  | isIn
  /-- negation -/
  | not
  /-- conjunction -/
  | and
  /-- disjunction -/
  | or
  /-- a function; there are none -/
  | call (f : ColumnRef)
  deriving DecidableEq

/-- An expression over columns, which are given in some way. -/
inductive Expr (ν : Type) where
  /-- a literal -/
  | cell (c : Cell)
  /-- an integer literal without a sign -/
  | whole (n : Nat)
  /-- a word for a truth value -/
  | truth (b : Bool)
  /-- a parameter, counted from one -/
  | parameter (n : Nat)
  /-- a column -/
  | column (c : ν)
  /-- an operation on other expressions -/
  | apply (op : Operation) (es : List (Expr ν))

/-- An expression as it is written. -/
abbrev WrittenExpr := Expr ColumnRef

namespace Expr

variable {ν μ : Type}

instance : Inhabited (Expr ν) := ⟨.cell .null⟩

/-- The expression is false as it is written, whatever the rows. -/
def isFalse : Expr ν → Bool
  | .whole n => n = 0
  | .truth b => !b
  | _ => false

/-- The conjunction of two expressions. If one is false as it is written, so is the conjunction, and
nothing is asked of the other. -/
def both (a b : Expr ν) : Expr ν :=
  if a.isFalse || b.isFalse then .whole 0 else .apply .and [a, b]

/-- The negation of an expression, if it is negative. -/
def negated (negative : Bool) (e : Expr ν) : Expr ν := if negative then .apply .not [e] else e

/-- Membership in a list, or its negation. Nothing is one of no expressions, whatever it is. -/
def member (negative : Bool) (a : Expr ν) (es : List (Expr ν)) : Expr ν :=
  if es.isEmpty then .truth negative else .negated negative (.apply .isIn (a :: es))

/-- The integer that an expression is as it is written. -/
def integer? : Expr ν → Option Int
  | .whole n => if fitsSigned 32 n then some n else none
  | .apply .plain [e] => integer? e
  | .apply .neg [e] => (integer? e).map (- ·)
  | _ => none

mutual

/-- How many expressions are inside each other. -/
def height : Expr ν → Nat
  | .apply _ es => heightOf es + 1
  | _ => 1

/-- How many expressions of some are inside each other. -/
def heightOf : List (Expr ν) → Nat
  | [] => 0
  | e :: es => max (height e) (heightOf es)

end

mutual

/-- The expression with another one in the place of each column. -/
def bind (f : ν → Expr μ) : Expr ν → Expr μ
  | .cell c => .cell c
  | .whole n => .whole n
  | .truth b => .truth b
  | .parameter n => .parameter n
  | .column c => f c
  | .apply op es => .apply op (bindList f es)

/-- The expressions with another one in the place of each column. -/
def bindList (f : ν → Expr μ) : List (Expr ν) → List (Expr μ)
  | [] => []
  | e :: es => bind f e :: bindList f es

end

end Expr

/-- What a statement answers of each row. -/
inductive ResultColumn where
  /-- all columns of the table -/
  | all
  /-- all columns of a table that is named -/
  | allOf (table : String)
  /-- an expression, with the name it is given, and else with its own text -/
  | expr (e : WrittenExpr) (name : Option String) (source : String)

/-- A table as it is written. -/
structure TableRef where
  /-- the database in front of it -/
  database : Option String
  /-- its name -/
  name : String
  /-- the name it is given in the statement -/
  label : Option String := none
  deriving DecidableEq

/-- The table as it is written, for messages. -/
def TableRef.text (t : TableRef) : String :=
  match t.database with
  | some d => d ++ "." ++ t.name
  | none => t.name

/-- What rows are ordered by. -/
structure OrderTerm where
  /-- the expression -/
  expr : WrittenExpr
  /-- the order is downward -/
  down : Bool
  /-- how many bytes of the statement there are from its first literal or name on -/
  remaining : Nat

/-- A statement. -/
inductive Statement where
  /-- rows of a table, or one row of expressions -/
  | select (columns : List ResultColumn) (table : Option TableRef) (filter : Option WrittenExpr)
      (order : List OrderTerm)
  /-- new rows; those that break a constraint are left out if so told -/
  | insert (orIgnore : Bool) (table : TableRef) (columns : Option (List String))
      (rows : List (List WrittenExpr)) (returning : List ResultColumn)
  /-- new cells in rows -/
  | update (table : TableRef) (cells : List (String × WrittenExpr)) (filter : Option WrittenExpr)
      (returning : List ResultColumn)
  /-- rows to remove -/
  | delete (table : TableRef) (filter : Option WrittenExpr) (returning : List ResultColumn)
  /-- a transaction begins -/
  | begin
  /-- a transaction is kept -/
  | commit
  /-- a transaction is undone -/
  | rollback

namespace Statement

/-- The expressions of the columns of an answer. -/
def resultExprs (columns : List ResultColumn) : List WrittenExpr :=
  columns.filterMap fun
    | .expr e _ _ => some e
    | _ => none

/-- The expressions of a statement. -/
def exprs : Statement → List WrittenExpr
  | .select columns _ filter order =>
    resultExprs columns ++ filter.toList ++ order.map OrderTerm.expr
  | .insert _ _ _ rows returning => rows.flatten ++ resultExprs returning
  | .update _ cells filter returning =>
    cells.map Prod.snd ++ filter.toList ++ resultExprs returning
  | .delete _ filter returning => filter.toList ++ resultExprs returning
  | _ => []

end Statement

end Tabula.Sqlite
