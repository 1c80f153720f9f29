import Tabula.Value.Wire

/-!
# Rows

A `Row` holds the values of one record under the names of its columns. A name may occur more than
once; looked up by name, the last occurrence counts, in the row (`Row.get?`) as well as in the
bindings that are made of it (`Row.toParameters`).
-/

namespace Tabula

/-- The names of the columns of some rows, with an index from a name to its position. -/
structure Columns where
  /-- the names, in order -/
  names : List String
  /-- the position of each name -/
  index : Dict Nat
  /-- the index holds the last position of each name -/
  index_eq : index = Dict.ofList names.zipIdx

namespace Columns

/-- The columns of some names (`Columns::new`). -/
def ofNames (names : List String) : Columns := ⟨names, .ofList names.zipIdx, rfl⟩

/-- No columns. -/
def empty : Columns := ofNames []

instance : Inhabited Columns := ⟨empty⟩

/-- The last position of a name (`position`). -/
def position? (c : Columns) (name : String) : Option Nat := c.index.find? name

/-- Columns are equal if their names are. -/
instance : BEq Columns := ⟨fun a b => a.names == b.names⟩

/-- Columns are their names. -/
theorem ext_names {a b : Columns} (h : a.names = b.names) : a = b := by
  obtain ⟨na, ia, ha⟩ := a
  obtain ⟨nb, ib, hb⟩ := b
  subst ha hb
  simp_all

end Columns

/-- The values of one record. -/
structure Row where
  /-- the columns -/
  columns : Columns
  /-- the values, in the order of the columns -/
  values : List Value
  deriving Inhabited

namespace Row

/-- The row of some values under some names (`from_pairs`). -/
def ofPairs (pairs : List (String × Value)) : Row :=
  ⟨.ofNames (pairs.map Prod.fst), pairs.map Prod.snd⟩

/-- The value at a position (`get_by_index`). -/
def getAt? (r : Row) (i : Nat) : Option Value := r.values[i]?

/-- The value of a column. -/
def get? (r : Row) (name : String) : Option Value := (r.columns.position? name).bind r.getAt?

/-- The value of a column, a missing one counting as null. -/
def getOrNull (r : Row) (name : String) : Value := (r.get? name).getD .null

/-- The names with their values, in the order of the columns (`iter`). -/
def pairs (r : Row) : List (String × Value) := r.columns.names.zip r.values

/-- The values as bindings of the names (`to_parameters`). -/
def toParameters (r : Row) : ParameterSet := .ofList r.pairs

/-- Rows are equal if their names and their values are, in order (`eq`). -/
def beq (a b : Row) : Bool := a.columns == b.columns && a.values == b.values

instance : BEq Row := ⟨beq⟩

/-- What a hash table files a row under (`hash`). -/
def hashKey (r : Row) : List String × List Value.HashKey :=
  (r.columns.names, r.values.map Value.hashKey)

/-- A hash table takes two rows for one. -/
def isTwin (a b : Row) : Bool := a.hashKey == b.hashKey && a == b

/-- The JSON value of a row: an object with its fields in the order of the columns (`serialize`). -/
def toJson (r : Row) : Json := .object (r.pairs.map fun (name, v) => (name, v.toJson))

/-- The text of a row on the wire. -/
def wireText (r : Row) : String := r.toJson.text

end Row

end Tabula
