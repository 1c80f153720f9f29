import Tabula.Json.Decoding
import Tabula.Postgres.Encoding

/-!
# Cells in the binary format

`decodeCell` reads a cell of a row by the type of its column. The bytes must be exactly as many as
the type has, texts must be UTF-8, and points of time must lie on the calendar.
-/

namespace Tabula.Postgres

/-- The integer in two's complement of exactly so many bytes. -/
def intOf? (width : Nat) (bytes : List UInt8) : Option Int :=
  if bytes.length = width then some ((natOf bytes : Int).bmod (Nat.pow 256 width)) else none

/-- The natural of exactly so many bytes. -/
def wordOf? (width : Nat) (bytes : List UInt8) : Option Nat :=
  if bytes.length = width then some (natOf bytes) else none

/-- The text of some bytes in UTF-8. -/
def textOf? (bytes : List UInt8) : Option String := String.fromUTF8? bytes.toByteArray

/-- The JSON value of some bytes in UTF-8. -/
def jsonOf? (bytes : List UInt8) : Option Json :=
  (textOf? bytes).bind fun s => (Json.ofText? s).toOption

/-- What stands behind a version, which has to be the first. -/
def unversioned? : List UInt8 → Option (List UInt8)
  | 1 :: rest => some rest
  | _ => none

/-- The value of some bytes by their type (`postgres_extract_value`). JSON in its binary form and
paths have a version in front. -/
def decode? (t : ColumnType) (bytes : List UInt8) : Option Value :=
  match t with
  | .int2 => (intOf? 2 bytes).map fun i => .int (.ofInt i)
  | .int4 => (intOf? 4 bytes).map fun i => .int (.ofInt i)
  | .int8 => (intOf? 8 bytes).map fun i => .int (.ofInt i)
  | .float4 => (wordOf? 4 bytes).map fun n => .float (.ofSingle (UInt32.ofNat n))
  | .float8 => (wordOf? 8 bytes).map fun n => .float ⟨UInt64.ofNat n⟩
  | .bool => (wordOf? 1 bytes).map fun n => .bool (n ≠ 0)
  | .timestamp | .timestamptz =>
    (intOf? 8 bytes).bind fun i => .timestamp <$> Timestamp.ofMicrosSince2000? i
  | .date => (intOf? 4 bytes).bind fun i => .timestamp <$> Timestamp.ofDaysSince2000? i
  | .json => .json <$> jsonOf? bytes
  | .jsonb => (unversioned? bytes).bind fun rest => .json <$> jsonOf? rest
  | .bytea => some (.blob bytes)
  | .text | .varchar | .bpchar | .name | .unknown | .citext => .text <$> textOf? bytes
  | .ltree | .lquery | .ltxtquery => (unversioned? bytes).bind fun rest => .text <$> textOf? rest
  | .other _ => none

/-- The value of a cell by the type of its column. A cell without bytes is null, if cells of the
type can be read at all. -/
def decodeCell (t : ColumnType) : Option (List UInt8) → Option Value
  | none => if t.isReadable then some .null else none
  | some bytes => decode? t bytes

end Tabula.Postgres
