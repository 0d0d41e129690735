import Recordset.Cell
import Recordset.NameMap

/-!
# Rows

A `Row` gives some columns a cell each. A column may be given a cell that holds no value, which is
not the same as being given none: `get?` tells the two apart and `value?` does not. The last cell
that a column is given is the one it has.
-/

set_option autoImplicit false

namespace Recordset

/-- The cells of some columns. -/
structure Row where
  /-- Each column with its cell. -/
  cells : NameMap Cell

namespace Row

def empty : Row := ⟨NameMap.empty⟩

/-- The row with the column given that cell, whatever it was given before. -/
def insert (r : Row) (column : String) (c : Cell) : Row := ⟨r.cells.insert column c⟩

/-- The row built by giving columns their cells in order. -/
def ofList (entries : List (String × Cell)) : Row := ⟨NameMap.ofList entries⟩

/-- The cell of a column, if it was given one. -/
def get? (r : Row) (column : String) : Option Cell := r.cells.get? column

/-- The cell of a column, if it was given one that holds a value. -/
def value? (r : Row) (column : String) : Option Cell :=
  (r.get? column).filter fun c => !c.isNull

def size (r : Row) : Nat := r.cells.size

def isEmpty (r : Row) : Bool := r.cells.isEmpty

/-- The columns with their cells, in ascending order of column. -/
def toList (r : Row) : List (String × Cell) := r.cells.toList

/-- Whether two lists name the same columns in the same order and give them equal cells. -/
def agree : List (String × Cell) → List (String × Cell) → Bool
  | [], [] => true
  | (n, c) :: rest, (k, d) :: rest' => n == k && c.equal d && agree rest rest'
  | _, _ => false

/-- Whether two rows have the same columns with equal cells. -/
def equal (r s : Row) : Bool := agree r.toList s.toList

@[simp] theorem get?_empty (column : String) : empty.get? column = none := rfl

@[simp] theorem get?_insert (r : Row) (column k : String) (c : Cell) :
    (r.insert column c).get? k = if k = column then some c else r.get? k :=
  NameMap.get?_insert r.cells column k c

end Row

end Recordset
