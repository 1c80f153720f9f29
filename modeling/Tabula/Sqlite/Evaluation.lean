import Tabula.Sqlite.Arithmetic

/-!
# Expressions over a row

`Expr.eval` computes an expression from the cells of a row and the parameters of a statement.
Conditions have three truth values: true, false, and neither, which is what null leads to. A column
that is a key has integers in it, and what is compared with it is taken for a number if it is the
text of one.
-/

namespace Tabula.Sqlite

/-! ## Truth -/

/-- The truth of a negation. -/
def not3 : Option Bool → Option Bool
  | some b => some (!b)
  | none => none

/-- The truth of a conjunction. -/
def and3 : Option Bool → Option Bool → Option Bool
  | some false, _ => some false
  | _, some false => some false
  | some true, some true => some true
  | _, _ => none

/-- The truth of a disjunction. -/
def or3 : Option Bool → Option Bool → Option Bool
  | some true, _ => some true
  | _, some true => some true
  | some false, some false => some false
  | _, _ => none

/-- What an order must be for a comparison to hold. -/
def Comparison.holds : Comparison → Ordering → Bool
  | .eq, o => o == .eq
  | .same, o => o == .eq
  | .ne, o => o != .eq
  | .lt, o => o == .lt
  | .le, o => o != .gt
  | .gt, o => o == .gt
  | .ge, o => o != .lt

/-- The truth of a comparison of two cells. -/
def Comparison.truth? (op : Comparison) (a b : Cell) : Option Bool :=
  if op ≠ .same && (a = .null || b = .null) then none else some (op.holds (a.compare b))

/-- The truth of being one of some cells. -/
def isIn? (a : Cell) (cs : List Cell) : Option Bool :=
  cs.foldr (fun c t => or3 (Comparison.eq.truth? a c) t) (some false)

/-! ## Operations -/

/-- What an operation is applied to. -/
structure Operand where
  /-- the cell -/
  cell : Cell
  /-- it is a column that is a key -/
  isKey : Bool := false
  /-- it is a word for a truth value -/
  isWord : Bool := false

namespace Operand

/-- The cells of two sides of a comparison, where a side compared with a key is taken for a
number. -/
def sides (a b : Operand) : Cell × Cell :=
  if a.isKey && !b.isKey then (a.cell, b.cell.toNumeric)
  else if b.isKey && !a.isKey then (a.cell.toNumeric, b.cell)
  else (a.cell, b.cell)

/-- The truth of a comparison. -/
def compare (op : Comparison) (a b : Operand) : Option Bool :=
  let (c, d) := sides a b
  op.truth? c d

/-- The truth of being the same. Something is the same as a word for a truth value if it is as
true. -/
def same (a b : Operand) : Option Bool :=
  if b.isWord then some (a.cell.truth? = b.cell.truth?) else a.compare .same b

/-- The truth of being one of some others. -/
def isIn (a : Operand) (es : List Operand) : Option Bool :=
  isIn? a.cell (if a.isKey then es.map (·.cell.toNumeric) else es.map (·.cell))

end Operand

/-- The cell of an operation. -/
def Operation.value : Operation → List Operand → Cell
  | .plain, [a] => a.cell
  | .neg, [a] => Arithmetic.sub.apply (.integer 0) a.cell
  | .bitNot, [a] => (a.cell.asInteger?.map fun i => Cell.integer (~~~i)).getD .null
  | .arithmetic op, [a, b] => op.apply a.cell b.cell
  | .compare op, [a, b] => .ofTruth (a.compare op b)
  | .is, [b, a] => .ofTruth (a.same b)
  | .isNull, [a] => .ofTruth (some (a.cell = .null))
  | .notNull, [a] => .ofTruth (some (a.cell ≠ .null))
  | .like, [p, a] => .ofTruth (like? a.cell p.cell)
  | .between, [a, low, high] => .ofTruth (and3 (a.compare .ge low) (a.compare .le high))
  | .isIn, a :: es => .ofTruth (a.isIn es)
  | .not, [a] => .ofTruth (not3 a.cell.truth?)
  | .and, [a, b] => .ofTruth (and3 a.cell.truth? b.cell.truth?)
  | .or, [a, b] => .ofTruth (or3 a.cell.truth? b.cell.truth?)
  | _, _ => .null

/-! ## Expressions -/

/-- What an expression is computed from. -/
structure Scope (ν : Type) where
  /-- the cell of a column, and whether it is a key -/
  column : ν → Operand
  /-- the parameters -/
  parameters : List Cell

/-- An integer literal with a sign. -/
def wholeCell (i : Int) : Cell := (integerCell? i).getD (.real (Double.ofInt i))

/-- The cell of a literal behind a minus sign. -/
def negativeLiteral? {ν : Type} : List (Expr ν) → Option Cell
  | [.whole n] => some (wholeCell (-n))
  | [.cell (.real x)] => some (.real x.neg)
  | _ => none

namespace Expr

variable {ν : Type}

mutual

/-- What an expression is over a row. -/
def operand (s : Scope ν) : Expr ν → Operand
  | .cell c => { cell := c }
  | .whole n => { cell := wholeCell n }
  | .truth b => { cell := .ofTruth (some b), isWord := true }
  | .parameter n => { cell := if n = 0 then .null else (s.parameters[n - 1]?).getD .null }
  | .column c => s.column c
  | .apply op es =>
    let value := op.value (operands s es)
    { cell := if op = .neg then (negativeLiteral? es).getD value else value }

/-- What some expressions are over a row. -/
def operands (s : Scope ν) : List (Expr ν) → List Operand
  | [] => []
  | e :: es => operand s e :: operands s es

end

/-- The cell of an expression. -/
def eval (s : Scope ν) (e : Expr ν) : Cell := (e.operand s).cell

/-- A condition is true. -/
def holds (s : Scope ν) (e : Expr ν) : Bool := (e.eval s).truth? = some true

end Expr

end Tabula.Sqlite
