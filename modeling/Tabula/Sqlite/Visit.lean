import Tabula.Sqlite.Table

/-!
# The order in which rows are found

A query finds rows by ascending identity, except where its condition is a disjunction of which every
member says something about the identity: the rows of the first member are found first, then those
of the second one that have not been found, and so on. That is done if it costs no more than to go
over the identities that the condition leaves, or over all of them.

Costs are counted in tenths of the binary logarithm, rounded in the same way everywhere, since the
order of an answer depends on them. A table counts as one of about a million rows, a bound on one
side of the identity leaves a quarter of it, and bounds on both sides leave a sixty-fourth.
-/

namespace Tabula.Sqlite

/-- An expression over the rows of a table. -/
abbrev RowExpr := Expr Table.Place

namespace Visit

/-! ## Costs -/

/-- What a sum is above its greater part, by how far the parts are from each other. -/
def excess : List Nat :=
  [10, 10, 9, 9, 8, 8, 7, 7, 7, 6, 6, 6, 5, 5, 5, 4, 4, 4, 4, 3, 3, 3, 3, 3, 3, 2, 2, 2, 2, 2, 2, 2]

/-- The cost of two things. -/
def both (a b : Nat) : Nat :=
  let gap := max a b - min a b
  max a b + (if gap ≤ 31 then (excess[gap]?).getD 0 else if gap ≤ 49 then 1 else 0)

/-- Ten times the binary logarithm of a number. -/
def logarithm (n : Nat) : Nat :=
  let steps := [0, 2, 3, 5, 6, 7, 8, 9]
  let step (k : Nat) : Nat := (steps[k % 8]?).getD 0
  if n < 2 then 0
  else if n < 8 then 10 * n.log2 + step (n * Nat.pow 2 (3 - n.log2))
  else 10 * n.log2 + step (n / Nat.pow 2 (n.log2 - 3))

/-- The cost to go over all rows. -/
def allCost : Nat := 216

/-- The cost to go over the rows that a bound on one side leaves. -/
def oneSidedCost : Nat := 196

/-- The cost to go over the rows that bounds on both sides leave. -/
def twoSidedCost : Nat := 156

/-- The cost to look up so many identities. -/
def lookUpCost (n : Nat) : Nat := 45 + logarithm n

/-! ## What is said of the identity -/

/-- What a condition says of the identity. -/
inductive Bound where
  /-- it is one of so many -/
  | exact (n : Nat)
  /-- it is not below something -/
  | lower
  /-- it is not above something -/
  | upper

/-- The least cost to go over the rows that some bounds leave, if there are any. -/
def leastCost? (bs : List Bound) : Option Nat :=
  let exact := bs.filterMap fun
    | .exact n => some (lookUpCost n)
    | _ => none
  let lower := bs.any fun b => match b with
    | .lower => true
    | _ => false
  let upper := bs.any fun b => match b with
    | .upper => true
    | _ => false
  let range :=
    if lower && upper then [twoSidedCost] else if lower || upper then [oneSidedCost] else []
  (exact ++ range).min?

mutual

/-- An expression does not depend on the row. -/
def isFixed : RowExpr → Bool
  | .column _ => false
  | .apply _ es => areFixed es
  | _ => true

/-- Expressions do not depend on the row. -/
def areFixed : List RowExpr → Bool
  | [] => true
  | e :: es => isFixed e && areFixed es

end

mutual

/-- Expressions are written alike. -/
def alike : RowExpr → RowExpr → Bool
  | .cell c, .cell d => c = d
  | .whole m, .whole n => m = n
  | .truth a, .truth b => a = b
  | .parameter m, .parameter n => m = n
  | .column c, .column d => c = d
  | .apply op es, .apply op' es' => op = op' && allAlike es es'
  | _, _ => false

/-- Lists of expressions are written alike. -/
def allAlike : List RowExpr → List RowExpr → Bool
  | [], [] => true
  | e :: es, f :: fs => alike e f && allAlike es fs
  | _, _ => false

end

/-- The comparison the other way round. -/
def flipped : Comparison → Comparison
  | .lt => .gt
  | .le => .ge
  | .gt => .lt
  | .ge => .le
  | op => op

/-- The comparisons of the identity with something fixed that a condition consists of. -/
def comparisons : RowExpr → List (Comparison × RowExpr)
  | .apply (.compare op) [.column .identity, b] => if isFixed b then [(op, b)] else []
  | .apply (.compare op) [a, .column .identity] => if isFixed a then [(flipped op, a)] else []
  | .apply .is [.truth _, _] => []
  | .apply .is [b, .column .identity] => if isFixed b then [(.same, b)] else []
  | .apply .is [.column .identity, a] => if isFixed a then [(.same, a)] else []
  | .apply .between [.column .identity, low, high] =>
    (if isFixed low then [(.ge, low)] else []) ++ (if isFixed high then [(.le, high)] else [])
  | .apply .isIn [.column .identity, b] => if isFixed b then [(.eq, .apply .plain [b])] else []
  | _ => []

/-- What a comparison says of the identity. -/
def boundOf? : Comparison → Option Bound
  | .eq => some (.exact 1)
  | .same => some (.exact 1)
  | .lt => some .upper
  | .le => some .upper
  | .gt => some .lower
  | .ge => some .lower
  | .ne => none

/-- What a condition says of the identity. -/
def boundsOf (e : RowExpr) : List Bound :=
  match e with
  | .apply .isIn (.column .identity :: a :: b :: es) =>
    if areFixed (a :: b :: es) then [.exact (es.length + 2)] else []
  | e => (comparisons e).filterMap fun c => boundOf? c.1

/-! ## Parts of a condition -/

/-- The members of a conjunction, the expression itself being one if it is none. -/
def conjuncts : RowExpr → List RowExpr
  | .apply .and [a, b] => conjuncts a ++ conjuncts b
  | e => [e]

/-- A condition compares a column of the table with something. -/
def isComparison : RowExpr → Bool
  | .apply (.compare op) [a, b] => op ≠ .ne && (isPlace a || isPlace b)
  | .apply .is [b, a] => isPlace a || isPlace b
  | .apply .isNull [.column p] => p ≠ .identity
  | .apply .notNull [.column p] => p ≠ .identity
  | .apply .between (a :: _) => isPlace a
  | .apply .isIn (a :: _) => isPlace a
  | _ => false
where
  /-- An expression is a column. -/
  isPlace : RowExpr → Bool
    | .column _ => true
    | _ => false

/-- The members of a disjunction, the expression itself being one if it is none. -/
def disjuncts : RowExpr → List RowExpr
  | .apply .or [a, b] => disjuncts a ++ disjuncts b
  | e => [e]

/-- What two comparisons with the same thing say of the identity if one of them holds. -/
def eitherBound? (a b : Comparison) : Option Bound :=
  match a, b with
  | .eq, .eq => some (.exact 1)
  | .eq, .lt | .eq, .le | .lt, .eq | .le, .eq | .lt, .lt | .lt, .le | .le, .lt | .le, .le =>
    some .upper
  | .eq, .gt | .eq, .ge | .gt, .eq | .ge, .eq | .gt, .gt | .gt, .ge | .ge, .gt | .ge, .ge =>
    some .lower
  | _, _ => none

/-- What a disjunction of two members says of the identity. -/
def pairBounds (a b : RowExpr) : List Bound :=
  let left := (conjuncts a).flatMap comparisons
  let right := (conjuncts b).flatMap comparisons
  left.flatMap fun (op, e) => right.filterMap fun (op', f) =>
    if alike e f then eitherBound? op op' else none

/-- A condition is an equation of the identity with something fixed. -/
def isEquation (e : RowExpr) : Bool :=
  match comparisons e with
  | [(.eq, _)] => true
  | _ => false

/-- What the members of a disjunction together say of the identity. -/
def memberBounds (es : List RowExpr) : List Bound :=
  let pair := match es with
    | [a, b] => pairBounds a b
    | _ => []
  if 2 ≤ es.length && es.all isEquation then .exact es.length :: pair else pair

/-- What the members of a conjunction together say of the identity. -/
def allBounds (es : List RowExpr) : List Bound :=
  es.flatMap fun e => boundsOf e ++ memberBounds (disjuncts e)

/-! ## The order -/

/-- The cost of some things. -/
def total : List Nat → Nat
  | [] => 0
  | a :: as => as.foldl both a

/-- A member of a disjunction compares columns of the table with something. -/
def isTelling (m : RowExpr) : Bool :=
  (conjuncts m).any fun e => isComparison e || !(memberBounds (disjuncts e)).isEmpty

/-- The cost to find the rows of the members of a disjunction one member after the other, given what
each of them costs, if all of them say something of the identity. -/
def inTurnCost? (cost? : List RowExpr → Option Nat) (ms : List RowExpr) : Option Nat :=
  if 2 ≤ ms.length && ms.all isTelling then
    ((ms.mapM fun m => cost? (conjuncts m)).map total).map (· + 1)
  else none

/-- The least cost to find the rows of a conjunction without going over all of them, if there is a
way to do so. Disjunctions are looked into only so deep. -/
def conjunctionCost? : Nat → List RowExpr → Option Nat
  | 0, es => leastCost? (allBounds es)
  | depth + 1, es =>
    let inTurn := es.filterMap fun e => inTurnCost? (conjunctionCost? depth) (disjuncts e)
    ((leastCost? (allBounds es)).toList ++ inTurn).min?

/-- The disjunction whose members are gone through one after the other, by its place among the
members of a conjunction: the one that costs least, if that is not more than by ascending
identity. -/
def disjunction? (depth : Nat) (es : List RowExpr) : Option (Nat × List RowExpr) :=
  let ascending := min allCost ((leastCost? (allBounds es)).getD allCost)
  let candidates := es.zipIdx.filterMap fun (e, i) =>
    (inTurnCost? (conjunctionCost? depth) (disjuncts e)).map fun cost => (cost, i, disjuncts e)
  let best := candidates.foldl (fun best c =>
    match best with
    | none => some c
    | some b => if c.1 < b.1 then some c else some b) none
  match best with
  | some (cost, i, ms) => if cost ≤ ascending then some (i, ms) else none
  | none => none

/-- Rows in the order in which the members of a disjunction find them. -/
def inTurn {α : Type} (holds : RowExpr → α → Bool) (arrange : RowExpr → List α → List α) :
    List RowExpr → List α → List α
  | [], rows => rows
  | m :: ms, rows =>
    let (found, others) := rows.partition (holds m)
    arrange m found ++ inTurn holds arrange ms others

/-- The rows that meet a conjunction, given by ascending identity, in the order in which they are
found. Disjunctions are looked into only so deep. -/
def arrange {α : Type} (holds : RowExpr → α → Bool) :
    Nat → List RowExpr → List α → List α
  | 0, _, rows => rows
  | depth + 1, es, rows =>
    match disjunction? depth es with
    | none => rows
    | some (i, ms) =>
      inTurn holds (fun m => arrange holds depth (conjuncts m ++ es.eraseIdx i)) ms rows

end Visit

end Tabula.Sqlite
