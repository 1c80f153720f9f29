import Tabula.Engine
import Tabula.Error
import Tabula.Sql.Piece
import Tabula.Value.Basic

/-!
# Statements with named placeholders

`NamedStatement.compile` replaces every named placeholder by the mark of an engine and the position
of its name. The names are listed once each, in the order of their first occurrence, so the values
that `bind` answers stand where the numbers point.
-/

namespace Tabula

namespace Sql

/-- The names of the placeholders among some pieces, each once, by first occurrence. -/
def placeholderNames (pieces : List Piece) : List String :=
  (pieces.filterMap Piece.name?).eraseDups

/-- A piece with its placeholder numbered by the position of its name. -/
def Piece.numbered (style : PlaceholderStyle) (names : List String) : Piece → List Char
  | .verbatim text => text
  | .placeholder name =>
    style.mark :: Nat.toDigits 10 (names.idxOf (String.ofList name) + 1)

end Sql

/-- A statement with numbered placeholders, and the names that the numbers stand for. -/
structure NamedStatement where
  /-- the statement with numbered placeholders -/
  sql : String
  /-- the names, in the order of the numbers from one -/
  names : List String

namespace NamedStatement

open Sql

/-- Numbers the named placeholders of a statement (`compile_named`). -/
def compile (sql : String) (style : PlaceholderStyle) : NamedStatement :=
  let pieces := Piece.scan sql.toList
  let names := placeholderNames pieces
  ⟨String.ofList (pieces.flatMap (Piece.numbered style names)), names⟩

/-- The values of some names; the first name without a value is an error. -/
def valuesOf (set : ParameterSet) : List String → Except Error (List Value)
  | [] => .ok []
  | name :: names =>
    match set.find? name with
    | none => .error (.missingParameter name)
    | some v => do return v :: (← valuesOf set names)

/-- The values of a set in the order of the placeholders. Values that the statement does not name
are left out. -/
def bind (s : NamedStatement) (set : ParameterSet) : Except Error (List Value) :=
  valuesOf set s.names

example : (compile "select :b, ':a', :a::int, :b" .question).sql =
    "select ?1, ':a', ?2::int, ?1" := by decide +kernel
example : (compile "$x$ :a $x$ /*/ :b /* :c /* */ */" .dollar).names = ["b"] := by decide +kernel

end NamedStatement

end Tabula
