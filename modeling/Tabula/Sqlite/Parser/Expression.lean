import Tabula.Sqlite.Parser
import Tabula.Sqlite.Syntax

/-!
# From tokens to expressions

An operator has a rank, and one of a higher rank binds more. `exprAt` reads an expression whose
operators outside of parentheses have a given rank at least; of operators of the same rank the first
one binds most. The ranks are, from one on: `OR`; `AND`; `NOT`; equality together with `IS`, `IN`,
`LIKE` and `BETWEEN`; comparisons of size; operations on bits; sums; products; concatenation.

Expressions that begin with `CASE`, `CAST`, `EXISTS` or `RAISE`, and queries inside of expressions,
are not understood; they are read up to the place where they differ from what is written wrong.
-/

namespace Tabula.Sqlite.Parser

/-- The rank of predicates, among them equality. -/
def predicateRank : Nat := 4

/-- The rank of the operands of predicates. -/
def operandRank : Nat := 5

/-- The operator of two operands that a symbol stands for, with its rank. -/
def symbolOperation? : String → Option (Nat × Operation)
  | "=" => some (4, .compare .eq)
  | "==" => some (4, .compare .eq)
  | "<>" => some (4, .compare .ne)
  | "!=" => some (4, .compare .ne)
  | "<" => some (5, .compare .lt)
  | "<=" => some (5, .compare .le)
  | ">" => some (5, .compare .gt)
  | ">=" => some (5, .compare .ge)
  | "&" => some (7, .arithmetic .bitAnd)
  | "|" => some (7, .arithmetic .bitOr)
  | "<<" => some (7, .arithmetic .shiftUp)
  | ">>" => some (7, .arithmetic .shiftDown)
  | "+" => some (8, .arithmetic .add)
  | "-" => some (8, .arithmetic .sub)
  | "*" => some (9, .arithmetic .mul)
  | "/" => some (9, .arithmetic .div)
  | "%" => some (9, .arithmetic .rem)
  | "||" => some (10, .arithmetic .concat)
  | _ => none

/-- The operator of two operands that a token stands for, with its rank. -/
def operator? : Option Token → Option (Nat × (WrittenExpr → WrittenExpr → WrittenExpr))
  | some ⟨.symbol s, _, _⟩ =>
    (symbolOperation? s).map fun (r, op) => (r, fun a b => .apply op [a, b])
  | some ⟨.word s, _, _⟩ =>
    match capitals s with
    | "OR" => some (1, fun a b => .apply .or [a, b])
    | "AND" => some (2, .both)
    | _ => none
  | _ => none

/-- Two expressions are the same, or are not; null is the same as null. On the second place a word
is looked up first. -/
def sameAs (negative : Bool) (a b : WrittenExpr) : WrittenExpr :=
  match b with
  | .cell .null => .apply (if negative then .notNull else .isNull) [a]
  | .column { table := none, .. } => .negated negative (.apply .is [b, a])
  | .truth _ => .negated negative (.apply .is [b, a])
  | _ => .negated negative (.apply (.compare .same) [a, b])

/-- Operators that are functions with a name of their own. -/
def functionOperators : List String := ["GLOB", "REGEXP", "MATCH"]

/-- Words that stand for the time. -/
def clockWords : List String := ["CURRENT_DATE", "CURRENT_TIME", "CURRENT_TIMESTAMP"]

/-- Words that begin an expression of their own, so that no name in an expression begins with
them. -/
def openingWords : List String := ["CASE", "CAST", "EXISTS", "RAISE"] ++ clockWords

/-- The table that is named before a point and a star. -/
def starOf? : List Token → Option String
  | t :: ⟨.symbol ".", _, _⟩ :: ⟨.symbol "*", _, _⟩ :: _ =>
    if openingWords.any (isKeyword · (some t)) then none else nameOf? t
  | _ => none

/-- The text between two places, without the blanks at its end. -/
def spanText (start stop : List Char) : String :=
  String.ofList
    ((start.take (start.length - stop.length)).reverse.dropWhile Token.isInnerGap).reverse

/-- A name with what stands in front of it. -/
def qualified (left : Nat) (s : String) : Parser ColumnRef := do
  let t ← name
  if ← symbol? "." then
    return { database := s, table := t, name := ← name, remaining := left }
  else return { table := s, name := t, remaining := left }

/-- A table with the name it is given, which stands behind `AS` if so asked. -/
def tableRef (named : Parser (Option String)) : Parser TableRef := do
  let s ← name
  if ← symbol? "." then
    let t ← name
    return ⟨some s, t, ← named⟩
  else return ⟨none, s, ← named⟩

mutual

/-- An expression whose operators have some rank at least. -/
def exprAt : Nat → Nat → Parser WrittenExpr
  | 0, _ => fail
  | fuel + 1, rank => do tailAt fuel rank (← operand fuel)

/-- What follows an operand. -/
def tailAt : Nat → Nat → WrittenExpr → Parser WrittenExpr
  | 0, _, _ => fail
  | fuel + 1, rank, a => do
    let next ← peek
    match operator? next with
    | some (r, make) =>
      if r < rank then return a
      else
        skip
        tailAt fuel rank (make a (← exprAt fuel (r + 1)))
    | none =>
      if predicateRank < rank then return a
      else
        match ← predicate? fuel a with
        | some e => tailAt fuel rank e
        | none => return a

/-- What is said of an operand, if something is. -/
def predicate? : Nat → WrittenExpr → Parser (Option WrittenExpr)
  | 0, _ => fail
  | fuel + 1, a => do
    if ← keyword? "ISNULL" then return some (.apply .isNull [a])
    else if ← keyword? "NOTNULL" then return some (.apply .notNull [a])
    else if ← keyword? "IS" then
      let negative ← keyword? "NOT"
      let distinct ← keyword? "DISTINCT"
      if distinct then keyword "FROM"
      return some (sameAs (negative != distinct) a (← exprAt fuel operandRank))
    else
      let negative ← keyword? "NOT"
      let next ← peek
      if negative && isKeyword "NULL" next then
        skip
        return some (.apply .notNull [a])
      else if ← keyword? "BETWEEN" then
        let low ← alternatives fuel (← exprAt fuel 3)
        keyword "AND"
        let high ← exprAt fuel operandRank
        return some (.negated negative (.apply .between [a, low, high]))
      else if ← keyword? "LIKE" then
        return some (.negated negative (.apply .like [← exprAt fuel operandRank, a]))
      else if functionOperators.any (isKeyword · next) then
        let left ← remaining
        let f := (next.map fun t => String.ofList t.source).getD ""
        skip
        let pattern ← exprAt fuel operandRank
        let call := Operation.call { name := f, remaining := left }
        return some (.negated negative (.apply call [pattern, a]))
      else if ← keyword? "IN" then
        symbol "("
        let es ← (do if isSymbol ")" (← peek) then return [] else listInside fuel)
        symbol ")"
        return some (.member negative a es)
      else if negative then fail
      else return none

/-- The lower end of a range may be a disjunction, but not a conjunction. -/
def alternatives : Nat → WrittenExpr → Parser WrittenExpr
  | 0, _ => fail
  | fuel + 1, a => do
    if ← keyword? "OR" then alternatives fuel (.apply .or [a, ← exprAt fuel 2]) else return a

/-- A literal, a parameter, a column, an expression in parentheses, or an operator in front of an
operand. -/
def operand : Nat → Parser WrittenExpr
  | 0 => fail
  | fuel + 1 => do
    match ← peek with
    | some ⟨.whole n, _, _⟩ => skip; return .whole n
    | some ⟨.literal c, _, _⟩ => skip; return .cell c
    | some ⟨.parameter (.number n), _, _⟩ => skip; return .parameter n
    | some ⟨.text s, _, _⟩ =>
      let left ← remaining
      skip
      if ← symbol? "." then return .column (← qualified left s) else return .cell (.text s)
    | some ⟨.quotedName s double, _, _⟩ =>
      let left ← remaining
      skip
      named fuel left s (if double then .quoted else .marked)
    | some ⟨.symbol s, _, _⟩ =>
      match s with
      | "(" =>
        skip
        let e ← inParentheses fuel
        symbol ")"
        return e
      | "-" => skip; return .apply .neg [← operand fuel]
      | "+" => skip; return .apply .plain [← operand fuel]
      | "~" => skip; return .apply .bitNot [← operand fuel]
      | _ => fail
    | some ⟨.word s, _, _⟩ => word fuel s
    | _ => fail

/-- An expression that begins with a word. -/
def word : Nat → String → Parser WrittenExpr
  | 0, _ => fail
  | fuel + 1, s => do
    let left ← remaining
    match capitals s with
    | "NULL" => skip; return .cell .null
    | "NOT" => skip; return .apply .not [← exprAt fuel predicateRank]
    | "CASE" =>
      skip
      if !isKeyword "WHEN" (← peek) then
        let _ ← exprAt fuel 1
      keyword "WHEN"
      fail
    | "CAST" =>
      skip
      symbol "("
      let _ ← exprAt fuel 1
      keyword "AS"
      fail
    | "EXISTS" =>
      skip
      symbol "("
      inParentheses fuel
    | "RAISE" =>
      skip
      symbol "("
      fail
    | k =>
      if k ∈ clockWords then skip; return .cell (.text "")
      else if isName s then skip; named fuel left s .bare
      else fail

/-- A column or a function whose first name has been read. -/
def named : Nat → Nat → String → NameStyle → Parser WrittenExpr
  | 0, _, _, _ => fail
  | fuel + 1, left, s, style => do
    if ← symbol? "." then return .column (← qualified left s)
    else if ← symbol? "(" then
      let es ← (do
        if ← symbol? "*" then return []
        else
          let _ ← keyword? "DISTINCT"
          if isSymbol ")" (← peek) then return [] else exprList fuel)
      symbol ")"
      return .apply (.call { name := s, remaining := left }) es
    else return .column { name := s, style, remaining := left }

/-- What stands in parentheses. A query there is not understood. -/
def inParentheses : Nat → Parser WrittenExpr
  | 0 => fail
  | fuel + 1 => do
    if ← keyword? "SELECT" then
      let _ ← selectBody fuel
      fail
    else if ← keyword? "VALUES" then
      symbol "("
      let _ ← exprList fuel
      symbol ")"
      fail
    else if ← keyword? "WITH" then
      let _ ← keyword? "RECURSIVE"
      let _ ← name
      if !(← symbol? "(") then keyword "AS"
      fail
    else exprAt fuel 1

/-- The members of a list in parentheses. -/
def listInside : Nat → Parser (List WrittenExpr)
  | 0 => fail
  | fuel + 1 => do
    let e ← inParentheses fuel
    if ← symbol? "," then return e :: (← exprList fuel) else return [e]

/-- Expressions with commas between them. -/
def exprList : Nat → Parser (List WrittenExpr)
  | 0 => fail
  | fuel + 1 => do
    let e ← exprAt fuel 1
    if ← symbol? "," then return e :: (← exprList fuel) else return [e]

/-- What a statement answers of each row: an expression, if wanted with a name. -/
def resultColumn : Nat → Parser ResultColumn
  | 0 => fail
  | fuel + 1 => do
    if ← symbol? "*" then return .all
    else
      match starOf? (← ahead) with
      | some t => skip; skip; skip; return .allOf t
      | none =>
        let start ← here
        let e ← exprAt fuel 1
        let source := spanText start (← here)
        return .expr e (← alias?) source

/-- What a statement answers of each row, with commas between the parts. -/
def resultColumns : Nat → Parser (List ResultColumn)
  | 0 => fail
  | fuel + 1 => do
    let c ← resultColumn fuel
    if ← symbol? "," then return c :: (← resultColumns fuel) else return [c]

/-- What rows are ordered by. -/
def orderTerms : Nat → Parser (List OrderTerm)
  | 0 => fail
  | fuel + 1 => do
    let ts ← ahead
    let leaf := (ts.dropWhile fun t => ["(", "+", "-"].any (isSymbol · (some t))).head?
    let e ← exprAt fuel 1
    let down ← keyword? "DESC"
    if !down then
      let _ ← keyword? "ASC"
    let t : OrderTerm := ⟨e, down, byteCount ((leaf.map Token.here).getD [])⟩
    if ← symbol? "," then return t :: (← orderTerms fuel) else return [t]

/-- What follows `SELECT`. -/
def selectBody : Nat → Parser Statement
  | 0 => fail
  | fuel + 1 => do
    let _ ← keyword? "ALL"
    let columns ← resultColumns fuel
    let table ← (do if ← keyword? "FROM" then return some (← tableRef alias?) else return none)
    let filter ← (do if ← keyword? "WHERE" then return some (← exprAt fuel 1) else return none)
    if ← keyword? "ORDER" then
      keyword "BY"
      return .select columns table filter (← orderTerms fuel)
    else return .select columns table filter []

end

end Tabula.Sqlite.Parser
