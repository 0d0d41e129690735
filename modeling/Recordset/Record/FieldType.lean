import Recordset.Binary64.Rounding
import Recordset.Cell

/-!
# Field types

The type of a record's field is a column type under any number of optional layers. Reading a cell
as a field (`coerce`) widens and narrows integers only where the value stays the same, and turns
integers into the nearest number with a fraction; a cell without a value is read as no field.
Writing a field as a cell (`cell`) drops the optional layers, and an absent value gives a cell
that holds none.
-/

set_option autoImplicit false

namespace Recordset

namespace ScalarType

/-- The values of a column type. -/
def Carrier : ScalarType → Type
  | boolean => Bool
  | int32 => Int32
  | int64 => Int64
  | float64 => Binary64
  | varchar => String

/-- An integer of 32 bits with the value of one of 64, if there is one. -/
def narrow? (n : Int64) : Option Int32 :=
  if -0x80000000 ≤ n.toInt ∧ n.toInt < 0x80000000 then some (Int32.ofInt n.toInt) else none

/-- A cell read as a value of a column type, if the type can take it. -/
def coerce : (t : ScalarType) → Cell → Option t.Carrier
  | boolean, .boolean b => some b
  | int32, .int32 n => some n
  | int32, .int64 n => narrow? n
  | int64, .int32 n => some (Int64.ofInt n.toInt)
  | int64, .int64 n => some n
  | float64, .int32 n => some (Binary64.ofInt n.toInt)
  | float64, .int64 n => some (Binary64.ofInt n.toInt)
  | float64, .float64 x => some x
  | varchar, .varchar s => some s
  | _, _ => none

/-- A value written as a cell of its own type. -/
def cell : (t : ScalarType) → t.Carrier → Cell
  | boolean, b => .boolean b
  | int32, n => .int32 n
  | int64, n => .int64 n
  | float64, x => .float64 x
  | varchar, s => .varchar s

end ScalarType

inductive FieldType where
  /-- A field that always holds a value. -/
  | scalar (type : ScalarType)
  /-- A field that may hold a value of the inner type. -/
  | optional (inner : FieldType)
  deriving DecidableEq

namespace FieldType

def Carrier : FieldType → Type
  | scalar type => type.Carrier
  | optional inner => Option inner.Carrier

/-- The column type that a field is declared with. -/
def column : FieldType → ScalarType
  | scalar type => type
  | optional inner => inner.column

/-- A cell read as a field, if the field can take it. -/
def coerce : (t : FieldType) → Cell → Option t.Carrier
  | scalar type, c => type.coerce c
  | optional inner, c => (inner.coerce c).map some

def cell : (t : FieldType) → t.Carrier → Cell
  | scalar type, x => type.cell x
  | optional _, none => .null
  | optional inner, some x => inner.cell x

end FieldType

end Recordset
