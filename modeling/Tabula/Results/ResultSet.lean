import Tabula.Error
import Tabula.Results.Row

/-!
# Result sets

A `ResultSet` is what a statement answers: rows, how many rows it concerned, and the keys of the
rows it wrote. Sets are put together by `ResultSet.merge`, and the sets of several runs of one
statement are brought down to one by `collapse`.
-/

namespace Tabula

/-- What a statement answers. -/
structure ResultSet where
  /-- the rows, in order -/
  rows : List Row := []
  /-- the columns, once they are known -/
  columns : Option Columns := none
  /-- how many rows were read or written (`rows_affected`), in a number without a bound where the
  counts and their sums would have to fit a machine word -/
  affected : Nat := 0
  /-- the keys of the rows that were written -/
  keys : List Value := []
  deriving Inhabited

namespace ResultSet

/-- The names of the columns, none as long as they are unknown (`columns`). -/
def columnNames (s : ResultSet) : List String := (s.columns.map Columns.names).getD []

/-- The set with its columns fixed (`set_column_names`). -/
def withColumns (s : ResultSet) (c : Columns) : ResultSet := { s with columns := some c }

/-- The set with a row of the values in its own columns (`add_row_values`). While the columns are
unknown nothing is added. -/
def addValues (s : ResultSet) (values : List Value) : ResultSet :=
  match s.columns with
  | some c => { s with rows := s.rows ++ [⟨c, values⟩], affected := s.affected + 1 }
  | none => s

/-- The set with one more row, whose columns become those of the set if they are unknown
(`push_row`). -/
def push (s : ResultSet) (r : Row) : ResultSet :=
  { s with
    rows := s.rows ++ [r]
    columns := s.columns <|> some r.columns
    affected := s.affected + 1 }

/-- The row at a position. -/
def get? (s : ResultSet) (i : Nat) : Option Row := s.rows[i]?

/-- The set with another row at a position, and the row that was there. Past the end the row is
added. -/
def set (s : ResultSet) (i : Nat) (r : Row) : Option Row × ResultSet :=
  match s.rows[i]? with
  | some old => (some old, { s with rows := s.rows.set i r })
  | none => (none, s.push r)

/-- The set without its rows (`clear_rows`). -/
def clearRows (s : ResultSet) : ResultSet := { s with rows := [] }

/-- The rows without those that repeat an earlier one. -/
def dedup (s : ResultSet) : ResultSet := { s with rows := s.rows.eraseDupsBy Row.isTwin }

/-- The columns of two sets in one: the second's names that the first lacks follow the first's. -/
def mergeColumns : Option Columns → Option Columns → Option Columns
  | none, theirs => theirs
  | ours, none => ours
  | some ours, some theirs =>
    match theirs.names.filter fun name => (ours.position? name).isNone with
    | [] => some ours
    | extra => some (.ofNames (ours.names ++ extra))

/-- Two sets in one, the rows of the second behind those of the first. -/
def append (s t : ResultSet) : ResultSet :=
  { rows := s.rows ++ t.rows
    columns := mergeColumns s.columns t.columns
    affected := s.affected + t.affected
    keys := s.keys ++ t.keys }

/-- Two sets in one, if wanted without repeated rows. -/
def merge (s t : ResultSet) (distinct : Bool) : ResultSet :=
  if distinct then (s.append t).dedup else s.append t

end ResultSet

/-- How the sets of several runs of one statement are brought down to one (`ResultSetOption`). -/
inductive Combination where
  /-- the counts and the keys only -/
  | none
  /-- one set for each run -/
  | array
  /-- all rows, each once -/
  | union
  /-- all rows -/
  | unionAll
  /-- the columns but no rows -/
  | fieldsOnly
  deriving DecidableEq

namespace Combination

instance : Inhabited Combination := ⟨.unionAll⟩

/-- The name on the wire. -/
def name : Combination → String
  | .none => "none"
  | .array => "array"
  | .union => "union"
  | .unionAll => "union_all"
  | .fieldsOnly => "fields_only"

/-- All of them. -/
def all : List Combination := [.none, .array, .union, .unionAll, .fieldsOnly]

/-- The one of a name. -/
def ofName? (s : String) : Option Combination := all.find? fun c => c.name == s

/-- Decodes a combination. -/
def decode (d : Draft) : Except Mismatch Combination := do
  Draft.required (ofName? (← d.toName? (all.map name)))

/-- What is left of all sets put together. -/
def shape : Combination → ResultSet → ResultSet
  | .none, s => { affected := s.affected, keys := s.keys }
  | .union, s => s.dedup
  | .fieldsOnly, s => s.clearRows
  | .unionAll, s => s
  | .array, s => s

end Combination

/-- All sets put together; of no set the empty one. -/
def combine : List ResultSet → ResultSet
  | [] => {}
  | s :: rest => rest.foldl ResultSet.append s

/-- One set of the sets of several runs. To keep them apart is possible only for one. -/
def collapse (sets : List ResultSet) (c : Combination) : Except Error ResultSet :=
  if c = .array ∧ 1 < sets.length then .error .multipleResultSets
  else .ok (c.shape (combine sets))

end Tabula
