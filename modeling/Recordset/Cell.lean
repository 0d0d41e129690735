import Recordset.Binary64.Basic

/-!
# Cells

A `Cell` is what a row holds in one column: nothing, or a value of one of the column types.
`Cell.equal` compares numbers with a fraction as numbers, so a cell that holds what is no number
differs from itself.
-/

set_option autoImplicit false

namespace Recordset

/-- The types that columns are declared with. -/
inductive ScalarType where
  | boolean | int32 | int64 | float64 | varchar
  deriving DecidableEq

def ScalarType.name : ScalarType → String
  | .boolean => "Boolean"
  | .int32 => "Int32"
  | .int64 => "Int64"
  | .float64 => "Float64"
  | .varchar => "Varchar"

/-- What a row holds in a column. -/
inductive Cell where
  | null
  | boolean (b : Bool)
  | int32 (n : Int32)
  | int64 (n : Int64)
  | float64 (x : Binary64)
  | varchar (s : String)

namespace Cell

/-- The type of the value that a cell holds, if it holds one. -/
def type? : Cell → Option ScalarType
  | null => none
  | boolean _ => some .boolean
  | int32 _ => some .int32
  | int64 _ => some .int64
  | float64 _ => some .float64
  | varchar _ => some .varchar

def isNull (c : Cell) : Bool := c.type?.isNone

/-- Whether two cells hold equal values of one type, or both hold none. -/
def equal : Cell → Cell → Bool
  | null, null => true
  | boolean a, boolean b => a == b
  | int32 n, int32 k => n == k
  | int64 n, int64 k => n == k
  | float64 x, float64 y => x.equal y
  | varchar s, varchar t => s == t
  | _, _ => false

end Cell

end Recordset
