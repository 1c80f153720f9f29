import Tabula.Results.Row

/-!
# Reconciling rows

`reconcile` compares the rows of a snapshot with fresh ones, counting repeated rows. A row of the
snapshot that has a fresh twin stays where it is and uses that twin up; the others are deleted.
Fresh rows that are left over are inserted behind.

Rows are counted in two tables. The first holds the fresh rows that no row of the snapshot has used
up, the second how often a row of the snapshot has found its twin, which is how many of the fresh
rows must not be inserted again.
-/

namespace Tabula

/-- The rows that a refresh added and removed (`ModelDiff`). -/
structure RowChanges where
  /-- the rows that were added, in the order of the answer -/
  inserted : List Row := []
  /-- the rows that were removed, in the order of the snapshot -/
  deleted : List Row := []
  deriving Inhabited

/-- Nothing was added or removed. -/
def RowChanges.isEmpty (c : RowChanges) : Bool := c.inserted.isEmpty && c.deleted.isEmpty

/-! ## Counting rows -/

/-- A table that counts rows, twins together. -/
abbrev Tally := List (Row × Nat)

namespace Tally

/-- How often a row was counted. -/
def count (r : Row) : Tally → Nat
  | [] => 0
  | (s, n) :: t => if s.isTwin r then n else count r t

/-- Counts a row once more. -/
def add (r : Row) : Tally → Tally
  | [] => [(r, 1)]
  | (s, n) :: t => if s.isTwin r then (s, n + 1) :: t else (s, n) :: add r t

/-- Counts a row once less, if it was counted at all. -/
def take? (r : Row) : Tally → Option Tally
  | [] => none
  | (s, n) :: t =>
    if s.isTwin r then if n = 0 then none else some ((s, n - 1) :: t)
    else (take? r t).map ((s, n) :: ·)

/-- Counts rows. -/
def ofRows (rows : List Row) : Tally := rows.foldl (fun t r => add r t) []

end Tally

/-! ## The two passes -/

/-- What became of the rows of a snapshot: those that stay, those that go, and how often each of
those that stay has found a twin. -/
structure Claimed where
  /-- the rows that stay, in order -/
  survivors : List Row := []
  /-- the rows that go, in order -/
  deleted : List Row := []
  /-- how often a twin was found -/
  matched : Tally := []

/-- Goes through the rows of a snapshot. Each uses up a fresh row that is left, or it is deleted. -/
def claimRows : List Row → Tally → Tally → Claimed
  | [], _, matched => { matched }
  | r :: old, available, matched =>
    match available.take? r with
    | some left =>
      let c := claimRows old left (matched.add r)
      { c with survivors := r :: c.survivors }
    | none =>
      let c := claimRows old available matched
      { c with deleted := r :: c.deleted }

/-- Goes through fresh rows. Each makes up for one twin that was found, or it is inserted. -/
def leftRows : List Row → Tally → List Row
  | [], _ => []
  | r :: fresh, matched =>
    match matched.take? r with
    | some rest => leftRows fresh rest
    | none => r :: leftRows fresh matched

/-- The new snapshot, and what is different in it. -/
def reconcile (old fresh : List Row) : List Row × RowChanges :=
  let c := claimRows old (.ofRows fresh) []
  let inserted := leftRows fresh c.matched
  (c.survivors ++ inserted, { inserted, deleted := c.deleted })

end Tabula
