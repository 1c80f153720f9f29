/-!
# Types of columns and parameters

The types a server can give a parameter or a column. `ColumnType.isWritable` says for which a value
is encoded, which is what `accepts` lists; `ColumnType.isReadable` for which a cell is decoded. Four
types of extensions are read as texts though nothing is written to them.
-/

namespace Tabula.Postgres

/-- The type of a column or a parameter. -/
inductive ColumnType where
  /-- an integer of 16 bits -/
  | int2
  /-- an integer of 32 bits -/
  | int4
  /-- an integer of 64 bits -/
  | int8
  /-- a floating-point number of 32 bits -/
  | float4
  /-- a floating-point number of 64 bits -/
  | float8
  /-- a text -/
  | text
  /-- a text of limited length -/
  | varchar
  /-- a text of fixed length -/
  | bpchar
  /-- an identifier -/
  | name
  /-- a truth value -/
  | bool
  /-- civil time -/
  | timestamp
  /-- a point of time -/
  | timestamptz
  /-- a day -/
  | date
  /-- JSON as text -/
  | json
  /-- JSON -/
  | jsonb
  /-- bytes -/
  | bytea
  /-- a literal without a type -/
  | unknown
  /-- a text in which case does not count -/
  | citext
  /-- a path of labels -/
  | ltree
  /-- a pattern of paths -/
  | lquery
  /-- a full-text pattern of paths -/
  | ltxtquery
  /-- any other type -/
  | other (name : String)
  deriving DecidableEq

namespace ColumnType

/-- The types with a name of their own here. -/
def named : List (String × ColumnType) :=
  [("int2", .int2), ("int4", .int4), ("int8", .int8), ("float4", .float4), ("float8", .float8),
   ("text", .text), ("varchar", .varchar), ("bpchar", .bpchar), ("name", .name), ("bool", .bool),
   ("timestamp", .timestamp), ("timestamptz", .timestamptz), ("date", .date), ("json", .json),
   ("jsonb", .jsonb), ("bytea", .bytea), ("unknown", .unknown),
   ("citext", .citext), ("ltree", .ltree), ("lquery", .lquery), ("ltxtquery", .ltxtquery)]

/-- The type of a name. -/
def ofName (s : String) : ColumnType := (named.lookup s).getD (.other s)

/-- A value can be sent as a parameter of the type (`accepts`). -/
def isWritable : ColumnType → Bool
  | .unknown | .citext | .ltree | .lquery | .ltxtquery | .other _ => false
  | _ => true

/-- A cell of the type can be read, as what `postgres_extract_value` asks for. -/
def isReadable : ColumnType → Bool
  | .other _ => false
  | _ => true

end ColumnType

end Tabula.Postgres
