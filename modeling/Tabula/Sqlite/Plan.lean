import Tabula.Sqlite.Parser.Statement
import Tabula.Sqlite.Visit

/-!
# Plans

A plan is a statement fitted to the tables: the names in it are places in rows. What cannot be
fitted is an error, and of several errors the one that is met first is shown, in this order: the
table, stars, the columns of the answer, the condition, the order. Functions in an expression are
an exception, and so are likeness and being null: an error in them does not stop the look at what
follows behind them, where another one may take its place. Of stars the last one counts.

Behind the columns of the table a name can mean a column of the answer that has been given it, or,
if it stands between quotation marks, a text.
-/

namespace Tabula.Sqlite

/-- An error in the words of the database. -/
def refuse {α : Type} (text : String) : Except Error α := .error (.sqlite text)

/-- The name of the only database. -/
def databaseName : String := "main"

/-- The table that is written, among some tables. -/
def TableRef.find (r : TableRef) (tables : List Table) : Except Error Table :=
  let found := if r.database.all (sameName databaseName) then
      tables.find? fun t => sameName t.name r.name
    else none
  match found with
  | some t => .ok t
  | none => refuse ("no such table: " ++ r.text)

/-- The table as it is called in messages about its columns. -/
def TableRef.called (r : TableRef) : String := r.label.getD r.text

/-! ## Names -/

/-- What names stand for. -/
structure Names where
  /-- the table -/
  table : Option Table := none
  /-- what the table is called -/
  called : String := ""
  /-- the database may stand in front of the table -/
  inDatabase : Bool := true
  /-- the columns of an answer that have been given names -/
  given : List (String × RowExpr) := []

namespace Names

/-- The names over a table that is written. -/
def ofRef (r : TableRef) (t : Table) : Names where
  table := t
  called := r.label.getD r.name

/-- The names of what is answered of rows that were written. -/
def returning (t : Table) : Names where
  table := t
  called := t.name
  inDatabase := false

/-- What stands in front of a name is the table. -/
def meansTable (n : Names) (c : ColumnRef) : Bool :=
  c.database.all (fun d => n.inDatabase && sameName databaseName d) &&
    c.table.all (sameName n.called)

/-- The place that a name stands for. -/
def placeOf? (n : Names) (c : ColumnRef) : Option Table.Place :=
  if n.meansTable c then n.table.bind (·.placeOf? c.name) else none

/-- The column of an answer that has been given a name. -/
def given? (n : Names) (c : ColumnRef) : Option RowExpr :=
  if c.table.isNone then (n.given.find? fun x => sameName x.1 c.name).map Prod.snd else none

/-- What a name means that no column has. -/
def literal? (c : ColumnRef) : Option RowExpr :=
  if c.table.isSome then none
  else
    match c.style with
    | .quoted => some (.cell (.text c.name))
    | .bare =>
      if sameName c.name "true" then some (.truth true)
      else if sameName c.name "false" then some (.truth false)
      else none
    | .marked => none

/-- What a name means, if it means anything. -/
def meaning? (n : Names) (c : ColumnRef) : Option RowExpr :=
  ((n.placeOf? c).map .column).or ((n.given? c).or (literal? c))

end Names

/-! ## Faults -/

/-- A name that means nothing. -/
inductive NameFault where
  /-- a column -/
  | column (c : ColumnRef)
  /-- a function -/
  | function (c : ColumnRef)

/-- The wording of a fault, with its place in a statement. -/
def NameFault.text (sql : String) : NameFault → String
  | .column c => located sql ("no such column: " ++ c.text) c.remaining
  | .function c => located sql ("no such function: " ++ c.name) c.remaining

/-- For an operation whose operands are looked at whatever was found before: the fault before
them. -/
def Operation.fault? : Operation → Option NameFault → Option (Option NameFault)
  | .call f, _ => some (some (.function f))
  | .like, found => some found
  | .isNull, found => some found
  | .notNull, found => some found
  | _, _ => none

/-- An operation is a function. -/
def Operation.isFunction : Operation → Bool
  | .call _ => true
  | .like => true
  | _ => false

namespace Expr

mutual

/-- The fault that counts after an expression, given the one before it, and whether nothing more is
looked at. -/
def fault (n : Names) (found : Option NameFault) : WrittenExpr → Option NameFault × Bool
  | .column c => if (n.meaning? c).isSome then (found, false) else (some (.column c), true)
  | .apply op es =>
    match op.fault? found with
    | some found => ((faultOf n found es).1, false)
    | none => if found.isSome then (found, true) else faultOf n none es
  | _ => (found, found.isSome)

/-- The fault that counts after some expressions. -/
def faultOf (n : Names) (found : Option NameFault) : List WrittenExpr → Option NameFault × Bool
  | [] => (found, false)
  | e :: es =>
    match fault n found e with
    | (found, true) => (found, true)
    | (found, false) => faultOf n found es

end

mutual

/-- The expression is the same for all rows, which can be seen before its names are looked up. -/
def isConstant : WrittenExpr → Bool
  | .column c =>
    match Names.literal? c with
    | some (.truth _) => true
    | _ => false
  | .apply op es => !op.isFunction && areConstant es
  | _ => true

/-- All expressions are the same for all rows. -/
def areConstant : List WrittenExpr → Bool
  | [] => true
  | e :: es => isConstant e && areConstant es

end

/-- The expression over places, if all names mean something. -/
def resolve (sql : String) (n : Names) (e : WrittenExpr) : Except Error RowExpr :=
  match (fault n none e).1 with
  | some f => refuse (f.text sql)
  | none => .ok (e.bind fun c => (n.meaning? c).getD default)

end Expr

/-! ## Statements with their tables -/

/-- A new row: what gives its identity, and its cells. -/
structure NewRow where
  /-- the identity, null being the next one -/
  identity : RowExpr
  /-- the cells -/
  cells : List RowExpr

/-- A statement with its table, ready to run. -/
inductive Plan where
  /-- expressions over the rows of a table, or over no row -/
  | select (table : Option Table) (columns : List (String × RowExpr)) (filter : Option RowExpr)
      (order : List (RowExpr × Bool))
  /-- new rows -/
  | insert (orIgnore : Bool) (table : Table) (rows : List NewRow)
      (returning : List (String × RowExpr))
  /-- new cells -/
  | update (table : Table) (cells : List (Table.Place × RowExpr)) (filter : Option RowExpr)
      (returning : List (String × RowExpr))
  /-- rows to remove -/
  | delete (table : Table) (filter : Option RowExpr) (returning : List (String × RowExpr))
  /-- a transaction begins -/
  | begin
  /-- a transaction is kept -/
  | commit
  /-- a transaction is undone -/
  | rollback

namespace Plan

/-- The columns of the answer. -/
def columns : Plan → List (String × RowExpr)
  | .select _ cs _ _ => cs
  | .insert _ _ _ cs => cs
  | .update _ _ _ cs => cs
  | .delete _ _ cs => cs
  | _ => []

end Plan

namespace Statement

/-! ### Columns of an answer -/

/-- The columns of a table in an answer. -/
def tableColumns (t : Table) : List (String × RowExpr) :=
  t.places.map fun p => (t.placeName p, .column p)

/-- The greatest number of columns of an answer. -/
def greatestWidth : Nat := 2000

/-- How many columns of an answer a part of it stands for. -/
def widthOf (n : Names) : ResultColumn → Nat
  | .expr .. => 1
  | _ => (n.table.map (·.columns.length)).getD 0

/-- Fails if an answer has too many columns. -/
def checkWidth (n : Names) (cs : List ResultColumn) : Except Error Unit :=
  if cs.foldl (fun width c => width + widthOf n c) 0 ≤ greatestWidth then .ok ()
  else refuse "too many columns in result set"

/-- Fails if a star means no table. -/
def checkStar (n : Names) : ResultColumn → Except Error Unit
  | .all => if n.table.isSome then .ok () else refuse "no tables specified"
  | .allOf s =>
    if n.table.isSome && sameName n.called s then .ok () else refuse ("no such table: " ++ s)
  | .expr .. => .ok ()

/-- Fails if a star names a table. -/
def checkOwnStar : ResultColumn → Except Error Unit
  | .allOf _ => refuse "RETURNING may not use \"TABLE.*\" wildcards"
  | _ => .ok ()

/-- The name of a column of an answer that has not been given one: a column of the table has its
own. -/
def defaultName (n : Names) (e : RowExpr) (source : String) : String :=
  match n.table, e with
  | some t, .column p => t.placeName p
  | _, _ => source

/-- The columns of an answer that a part of it stands for. -/
def expand (sql : String) (n : Names) : ResultColumn → Except Error (List (String × RowExpr))
  | .expr e name source => do
    let e ← e.resolve sql n
    return [(name.getD (defaultName n e source), e)]
  | _ => .ok ((n.table.map tableColumns).getD [])

/-- The columns of an answer with their names. -/
def expandAll (sql : String) (n : Names) (cs : List ResultColumn) :
    Except Error (List (String × RowExpr)) := do
  checkWidth n cs
  cs.reverse.forM (checkStar n)
  return (← cs.mapM (expand sql n)).flatten

/-- The columns of an answer over rows that were written. -/
def expandReturning (sql : String) (t : Table) (cs : List ResultColumn) :
    Except Error (List (String × RowExpr)) := do
  cs.forM checkOwnStar
  checkWidth (.returning t) cs
  return (← cs.mapM (expand sql (.returning t))).flatten

/-- The columns of an answer that have been given names. -/
def givenNames (sql : String) (n : Names) (cs : List ResultColumn) : List (String × RowExpr) :=
  cs.flatMap fun c =>
    match c with
    | .expr _ (some _) _ => ((expand sql n c).toOption).getD []
    | _ => []

/-! ### Order -/

/-- A number in a row, in words. -/
def ordinal (n : Nat) : String :=
  let ending :=
    if n / 10 % 10 = 1 then "th"
    else if n % 10 = 1 then "st"
    else if n % 10 = 2 then "nd"
    else if n % 10 = 3 then "rd"
    else "th"
  toString n ++ ending

/-- What is wrong with a term that is the number of no column. -/
def outOfRange (term columns : Nat) : String :=
  ordinal term ++ " ORDER BY term out of range - should be between 1 and " ++ toString columns

/-- What rows are ordered by: a column of the answer, by number, or an expression. -/
inductive OrderKey where
  /-- the number of a column of the answer -/
  | number (n : Nat)
  /-- an expression -/
  | expr (e : RowExpr)

/-- The highest number of a column. -/
def highestColumn : Int := 0xffff

/-- What a term means, given its number among the terms. -/
def orderKey (sql : String) (n : Names) (columns term : Nat) (t : OrderTerm) :
    Except Error OrderKey :=
  let given? := match t.expr with
    | .column c => n.given? c
    | _ => none
  match given?, t.expr.integer? with
  | some e, _ => .ok (.expr e)
  | none, some i =>
    if 1 ≤ i && i ≤ highestColumn then .ok (.number i.toNat)
    else refuse (located sql (outOfRange term columns) t.remaining)
  | none, none => .expr <$> t.expr.resolve sql n

/-- The expression that a key stands for. -/
def keyExpr (columns : List (String × RowExpr)) (term : Nat) : OrderKey → Except Error RowExpr
  | .number n =>
    match columns[n - 1]? with
    | some c => .ok c.2
    | none => refuse (outOfRange term columns.length)
  | .expr e => .ok e

/-- What rows are ordered by. All terms are read before their numbers are looked up. -/
def orderKeys (sql : String) (n : Names) (columns : List (String × RowExpr))
    (terms : List OrderTerm) : Except Error (List (RowExpr × Bool)) := do
  let keys ← terms.zipIdx.mapM fun (t, i) => orderKey sql n columns.length (i + 1) t
  if greatestWidth < terms.length then refuse "too many terms in ORDER BY clause"
  let es ← keys.zipIdx.mapM fun (k, i) => keyExpr columns (i + 1) k
  return es.zip (terms.map OrderTerm.down)

/-! ### New cells -/

/-- The place of a column that is written. -/
def place (t : Table) (missing name : String) : Except Error Table.Place :=
  match t.placeOf? name with
  | some p => .ok p
  | none => refuse missing

/-- A new row, given the places that are written. If a column is written twice the first time
counts, but for the identity the last time does. -/
def newRow (t : Table) (places : List Table.Place) (es : List RowExpr) : NewRow :=
  let written := places.zip es
  { identity := (written.reverse.lookup .identity).getD (.cell .null)
    cells := t.places.map fun p => (written.lookup p).getD (.cell .null) }

/-- Rows that are the same however they are written are read one by one, and each must be as wide
as the one before it. -/
def checkWidths : List (List WrittenExpr) → Bool
  | es :: fs :: rest =>
    if Expr.areConstant fs then es.length = fs.length && checkWidths (fs :: rest) else true
  | _ => true

/-- What is wrong with rows of which some are wider than others. -/
def widthText : String := "all VALUES must have the same number of terms"

/-- The rows of an insertion. Of the names in them the last row is looked at first. -/
def newRows (sql : String) (r : TableRef) (t : Table) (columns : Option (List String))
    (rows : List (List WrittenExpr)) : Except Error (List NewRow) := do
  let places ← (columns.mapM fun names => names.mapM fun name =>
    place t ("table " ++ r.called ++ " has no column named " ++ name) name)
  let rows := (← rows.reverse.mapM fun es => es.mapM (Expr.resolve sql {})).reverse
  let width := (rows.head?.map List.length).getD 0
  if rows.any (·.length ≠ width) then refuse widthText
  match places with
  | none =>
    if width ≠ t.columns.length then
      refuse ("table " ++ r.called ++ " has " ++ toString t.columns.length ++ " columns but " ++
        toString width ++ " values were supplied")
    else return rows.map (newRow t t.places)
  | some ps =>
    if width ≠ ps.length then
      refuse (toString width ++ " values for " ++ toString ps.length ++ " columns")
    else return rows.map (newRow t ps)

/-- The column and the cell of an assignment. -/
def assignment (sql : String) (n : Names) (t : Table) (a : String × WrittenExpr) :
    Except Error (Table.Place × RowExpr) := do
  let e ← a.2.resolve sql n
  return (← place t ("no such column: " ++ a.1) a.1, e)

/-! ### Statements -/

/-- A statement fitted to some tables. -/
def plan (sql : String) (tables : List Table) : Statement → Except Error Plan
  | .select columns table filter order => do
    let t ← table.mapM (·.find tables)
    let n : Names := match table, t with
      | some r, some t => .ofRef r t
      | _, _ => {}
    let answer ← expandAll sql n columns
    let n := { n with given := givenNames sql n columns }
    let filter ← filter.mapM (Expr.resolve sql n)
    return .select t answer filter (← orderKeys sql n answer order)
  | .insert orIgnore r columns rows returning => do
    if !checkWidths rows then refuse widthText
    let t ← r.find tables
    let rows ← newRows sql r t columns rows
    return .insert orIgnore t rows (← expandReturning sql t returning)
  | .update r cells filter returning => do
    if greatestWidth < cells.length then refuse "too many columns in set list"
    let t ← r.find tables
    let n := Names.ofRef r t
    let cells ← cells.mapM (assignment sql n t)
    let filter ← filter.mapM (Expr.resolve sql n)
    return .update t cells filter (← expandReturning sql t returning)
  | .delete r filter returning => do
    let t ← r.find tables
    let filter ← filter.mapM (Expr.resolve sql (.ofRef r t))
    return .delete t filter (← expandReturning sql t returning)
  | .begin => .ok .begin
  | .commit => .ok .commit
  | .rollback => .ok .rollback

end Statement

end Tabula.Sqlite
