import Tabula.Error
import Tabula.Sql.Piece
import Tabula.Text.Blank

/-!
# Operators and columns

The twelve operators a condition can use, and the grammar of the columns it can name. Both end up in
statements as text, so only what is listed here gets there.
-/

namespace Tabula

/-- An operator of a condition. -/
inductive Operator where
  /-- equal -/
  | eq
  /-- greater -/
  | gt
  /-- less -/
  | lt
  /-- greater or equal -/
  | ge
  /-- less or equal -/
  | le
  /-- not equal -/
  | ne
  /-- within a range, its ends included -/
  | between
  /-- outside a range -/
  | notBetween
  /-- one of a list -/
  | isIn
  /-- none of a list -/
  | notIn
  /-- like a pattern -/
  | like
  /-- not like a pattern -/
  | notLike
  deriving DecidableEq

namespace Operator

/-- The spelling of an operator in a statement (`as_sql`). -/
def text : Operator → String
  | .eq => "="
  | .gt => ">"
  | .lt => "<"
  | .ge => ">="
  | .le => "<="
  | .ne => "<>"
  | .between => "BETWEEN"
  | .notBetween => "NOT BETWEEN"
  | .isIn => "IN"
  | .notIn => "NOT IN"
  | .like => "LIKE"
  | .notLike => "NOT LIKE"

/-- All operators. -/
def all : List Operator :=
  [.eq, .gt, .lt, .ge, .le, .ne, .between, .notBetween, .isIn, .notIn, .like, .notLike]

/-- The words of a text in capitals, one blank between them. -/
def normalize (raw : String) : String :=
  String.ofList (((Text.words raw.toList).intersperse [' ']).flatten.map Char.toUpper)

/-- The operator of a spelling, in which neither case nor the width of blanks counts. -/
def ofText? (raw : String) : Option Operator := all.find? fun op => op.text == normalize raw

/-- The operator of a spelling; any other spelling is an error. -/
def parse (raw : String) : Except Error Operator :=
  match ofText? raw with
  | some op => .ok op
  | none => .error (.unsupportedOperator raw)

/-- The operator takes the two ends of a range (`is_range`). -/
def isRange : Operator → Bool
  | .between | .notBetween => true
  | _ => false

/-- The operator takes a list (`is_membership`). -/
def isMembership : Operator → Bool
  | .isIn | .notIn => true
  | _ => false

/-- An operator is the one of its own spelling. -/
theorem ofText?_text (op : Operator) : ofText? op.text = some op := by
  cases op <;> decide +kernel

end Operator

/-- A text is an identifier: a letter or `_`, then letters, digits and `_`, all of them ASCII. -/
def isIdentifier : List Char → Bool
  | [] => false
  | c :: cs => Sql.isNameStart c && cs.all Sql.isNameChar

/-- A text names a column: an identifier, or two with a point between them. -/
def isColumnName (name : String) : Bool :=
  let cs := name.toList
  match cs.dropWhile (· ≠ '.') with
  | [] => isIdentifier cs
  | _ :: column => isIdentifier (cs.takeWhile (· ≠ '.')) && isIdentifier column

/-- Fails unless a text names a column (`validate_column`). -/
def checkColumn (name : String) : Except Error Unit :=
  if isColumnName name then .ok () else .error (.invalidColumn name)

end Tabula
