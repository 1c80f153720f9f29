import Tabula.Error
import Tabula.Sqlite.Parser.Expression

/-!
# From the text of a statement to the statement

`parseFirst` reads the first statement of a text and says where the next one begins. A text ends at
a null character, but errors show what stands behind it, and so does the text of the next statement.
-/

namespace Tabula.Sqlite

namespace Parser

/-- A condition on rows, if there is one. -/
def filter? (fuel : Nat) : Parser (Option WrittenExpr) := do
  if ← keyword? "WHERE" then return some (← exprAt fuel 1) else return none

/-- What is answered of the rows that are written. -/
def returning? (fuel : Nat) : Parser (List ResultColumn) := do
  if ← keyword? "RETURNING" then resultColumns fuel else return []

/-- The name that a table to be written is given. -/
def written? : Parser (Option String) := do
  if ← keyword? "AS" then return some (← name) else return none

/-- A row of new cells. -/
def newRow (fuel : Nat) : Parser (List WrittenExpr) := do
  symbol "("
  let es ← exprList fuel
  symbol ")"
  return es

/-- What follows `INSERT`. -/
def insert (fuel : Nat) : Parser Statement := do
  let orIgnore ← keyword? "OR"
  if orIgnore then keyword "IGNORE"
  keyword "INTO"
  let table ← tableRef written?
  let columns ← (do
    if ← symbol? "(" then
      let names ← listOf name fuel
      symbol ")"
      return some names
    else return none)
  if ← keyword? "DEFAULT" then
    keyword "VALUES"
    return .insert orIgnore table (some []) [[]] (← returning? fuel)
  else
    keyword "VALUES"
    let rows ← listOf (newRow fuel) fuel
    return .insert orIgnore table columns rows (← returning? fuel)

/-- A column and its new cell. -/
def assignment (fuel : Nat) : Parser (String × WrittenExpr) := do
  let column ← name
  symbol "="
  return (column, ← exprAt fuel 1)

/-- What follows `UPDATE`. -/
def update (fuel : Nat) : Parser Statement := do
  let table ← tableRef written?
  keyword "SET"
  let cells ← listOf (assignment fuel) fuel
  let filter ← filter? fuel
  return .update table cells filter (← returning? fuel)

/-- What follows `DELETE`. -/
def delete (fuel : Nat) : Parser Statement := do
  keyword "FROM"
  let table ← tableRef written?
  let filter ← filter? fuel
  return .delete table filter (← returning? fuel)

/-- What a transaction is called, if it is called something; it means nothing. -/
def transactionName : Parser Unit := do
  if ← keyword? "TRANSACTION" then
    if ((← peek).bind nameOf?).isSome then skip

/-- What follows `BEGIN`. -/
def begin : Parser Statement := do
  let _ ← oneOf? ["DEFERRED", "IMMEDIATE", "EXCLUSIVE"]
  transactionName
  return .begin

/-- A statement. -/
def statement (fuel : Nat) : Parser Statement := do
  if ← keyword? "SELECT" then selectBody fuel
  else if ← keyword? "INSERT" then insert fuel
  else if ← keyword? "UPDATE" then update fuel
  else if ← keyword? "DELETE" then delete fuel
  else if ← keyword? "BEGIN" then begin
  else if ← oneOf? ["COMMIT", "END"] then
    transactionName
    return .commit
  else if ← keyword? "ROLLBACK" then
    transactionName
    return .rollback
  else fail

/-- How deep the recursion can be for so many tokens. -/
def depthFor (ts : List Token) : Nat := 8 * (ts.length + 2)

end Parser

/-! ## Parameters -/

/-- The highest number that a parameter can have. -/
def highestParameter : Nat := 32766

/-- The numbers of parameters: the highest so far, and those of the names so far. -/
structure Numbering where
  /-- the highest number so far -/
  highest : Nat := 0
  /-- the numbers of names -/
  names : List (String × Nat) := []

/-- The number of a parameter. One without a number has the next one after the highest so far, and
so has a new name. -/
def Numbering.numberOf (n : Numbering) : ParameterMark → Nat
  | .next => n.highest + 1
  | .number k => k
  | .named s => (n.names.lookup s).getD (n.highest + 1)
  | .foreign _ => 0

/-- The numbering after a parameter. -/
def Numbering.after (n : Numbering) (p : ParameterMark) : Numbering where
  highest := max n.highest (n.numberOf p)
  names :=
    match p with
    | .named s => (s, n.numberOf p) :: n.names
    | _ => n.names

/-- What is wrong with the number of a parameter, if something is. -/
def Numbering.fault? (n : Numbering) (p : ParameterMark) : Option String :=
  if 1 ≤ n.numberOf p && n.numberOf p ≤ highestParameter then none
  else
    match p with
    | .foreign s => some ("near \"" ++ s ++ "\": syntax error")
    | .number _ => some s!"variable number must be between ?1 and ?{highestParameter}"
    | _ => some "too many SQL variables"

/-- The tokens with numbers in all parameters, and the numbering after them. -/
def Numbering.apply (n : Numbering) : List Token → List Token × Numbering
  | [] => ([], n)
  | t :: ts =>
    match t.lexeme with
    | .parameter p =>
      let (rest, last) := (n.after p).apply ts
      ({ t with lexeme := .parameter (.number (n.numberOf p)) } :: rest, last)
    | _ =>
      let (rest, last) := n.apply ts
      (t :: rest, last)

/-- The first parameter whose number is wrong, with what is wrong. -/
def Numbering.firstFault? (n : Numbering) : List Token → Option (Token × String)
  | [] => none
  | t :: ts =>
    match t.lexeme with
    | .parameter p =>
      match n.fault? p with
      | some text => some (t, text)
      | none => (n.after p).firstFault? ts
    | _ => n.firstFault? ts

/-! ## The text of an error -/

/-- The text up to a null character. -/
def visible (sql : String) : List Char := sql.toList.takeWhile (· ≠ '\u0000')

/-- An error at a place in the text of a statement, given how many bytes there are from there on. -/
def located (sql text : String) (remaining : Nat) : String :=
  text ++ " in " ++ sql ++ " at offset " ++
    toString (Parser.byteCount (visible sql) - remaining)

/-- What is wrong with a statement that cannot be read, given the tokens from the one at fault. -/
def faultText (sql : String) : List Token → String
  | [] => "incomplete input"
  | t :: _ =>
    let source := String.ofList t.source
    let what := match t.lexeme with
      | .illegal => "unrecognized token: \"" ++ source ++ "\""
      | _ => "near \"" ++ source ++ "\": syntax error"
    located sql what (Parser.byteCount t.here)

/-! ## Statements of a text -/

/-- A statement of a text. -/
structure Parsed where
  /-- the statement -/
  statement : Statement
  /-- the highest number of a parameter -/
  parameters : Nat

/-- The greatest height of an expression. -/
def greatestHeight : Nat := 1000

/-- What is wrong with a statement that can be read, if something is. -/
def Statement.fault? (s : Statement) : Option String :=
  if s.exprs.any (·.height > greatestHeight) then
    some s!"Expression tree is too large (maximum depth {greatestHeight})"
  else none

/-- The statement that some tokens are, with a semicolon behind them or not, or else the tokens from
the one at fault on. -/
def parseAll (own semicolon : List Token) : Except (List Token) Statement :=
  match Parser.statement (Parser.depthFor own) (own ++ semicolon) with
  | .ok (s, rest) => if rest.length = semicolon.length then .ok s else .error rest
  | .error rest => .error rest

/-- The statement that some tokens are, with its parameters counted. A parameter is looked at when
the next token has been taken, so that one in front of the token at fault does not count. -/
def parseTokens (sql : String) (own semicolon : List Token) : Except String Parsed :=
  let (numbered, numbering) := Numbering.apply {} own
  let result := parseAll numbered semicolon
  let taken := match result with
    | .ok _ => own
    | .error rest => own.take (own.length + semicolon.length - rest.length - 1)
  match Numbering.firstFault? {} taken, result with
  | some (t, text), _ => .error (located sql text (Parser.byteCount t.here))
  | none, .error rest => .error (faultText sql rest)
  | none, .ok s =>
    match s.fault? with
    | some text => .error text
    | none => .ok ⟨s, numbering.highest⟩

/-- The first statement of a text and the text behind its semicolon; nothing if there are only
blanks and comments. -/
def parseFirst (sql : String) : Except Error (Option (Parsed × String)) :=
  match Token.scan (visible sql) with
  | [] => .ok none
  | ts =>
    let (own, semicolon) := ts.span fun t => t.lexeme ≠ Token.ending
    match parseTokens sql own semicolon with
    | .ok p =>
      let behind := semicolon.flatMap Token.after ++ sql.toList.drop (visible sql).length
      .ok (some (p, String.ofList behind))
    | .error text => .error (.sqlite text)

end Tabula.Sqlite
