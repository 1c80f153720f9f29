import Tabula.Postgres.ColumnType
import Tabula.Timestamp.Calendar
import Tabula.Value.Basic
import Tabula.Width

/-!
# Values in the binary format

`encode` writes a value as the bytes of a parameter. An integer takes the width of the parameter and
must fit it; other values are written in their own width whatever the type. Numbers are written with
the highest byte first. `Value.null` has no bytes.
-/

namespace Tabula.Postgres

/-- Why a value cannot be sent. -/
inductive EncodingFault where
  /-- the integer does not fit the type -/
  | outOfRange
  /-- no value is sent as a parameter of the type -/
  | unsupported (type : ColumnType)
  deriving DecidableEq

/-- The lowest bytes of a natural, the highest of them first. -/
def bytesOf : Nat → Nat → List UInt8
  | 0, _ => []
  | width + 1, n => UInt8.ofNat (n / Nat.pow 256 width) :: bytesOf width n

/-- The natural of some bytes, the highest first. -/
def natOf (bytes : List UInt8) : Nat := bytes.foldl (fun n b => 256 * n + b.toNat) 0

/-- An integer in two's complement of some bytes. -/
def intBytes (width : Nat) (i : Int) : List UInt8 :=
  bytesOf width (i % (Nat.pow 256 width : Nat)).toNat

/-- An integer in two's complement of some bytes, if it fits. -/
def fittingBytes (width : Nat) (i : Int) : Except EncodingFault (List UInt8) :=
  if fitsSigned (8 * width) i then .ok (intBytes width i)
  else .error .outOfRange

/-- The bits of the binary32 number nearest to an integer. -/
def singleOfInt (i : Int) : Nat :=
  (if i < 0 then Format.binary32.signBit else 0) + Format.binary32.round i.natAbs 1

/-- An integer as a parameter of a type. -/
def intAs (i : Int) : ColumnType → Except EncodingFault (List UInt8)
  | .int2 => fittingBytes 2 i
  | .int4 => fittingBytes 4 i
  | .float4 => .ok (bytesOf 4 (singleOfInt i))
  | .float8 => .ok (bytesOf 8 (Double.ofInt i).bits.toNat)
  | _ => .ok (intBytes 8 i)

/-- The bytes of a value as a parameter of a type, whether or not values are sent as such
(`to_sql`). -/
def encode (v : Value) (t : ColumnType) : Except EncodingFault (Option (List UInt8)) :=
  match v with
  | .int i => some <$> intAs i.toInt t
  | .float x =>
    .ok (some (if t = .float4 then bytesOf 4 x.toSingle.toNat else bytesOf 8 x.bits.toNat))
  | .text s => .ok (some s.toUTF8.toList)
  | .bool b => .ok (some [if b then 1 else 0])
  | .timestamp p =>
    .ok (some (if t = .date then intBytes 4 p.daysSince2000 else intBytes 8 p.microsSince2000))
  | .null => .ok none
  | .json j => .ok (some ((if t = .jsonb then [1] else []) ++ j.text.toUTF8.toList))
  | .blob bytes => .ok (some bytes)

/-- The bytes of a value as a parameter of a type (`to_sql_checked`). -/
def encodeChecked (v : Value) (t : ColumnType) : Except EncodingFault (Option (List UInt8)) :=
  if t.isWritable then encode v t else .error (.unsupported t)

end Tabula.Postgres
