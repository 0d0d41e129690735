/-!
# Documents

A `Document` is a tree of plain data, as a file of settings holds it. A structure is written as an
object of its fields by name or as a list of its fields in order, and either may leave fields out:
an object any of them, a list the last ones (`fields?`).
-/

set_option autoImplicit false

namespace Recordset

/-- A tree of plain data. -/
inductive Document where
  | null
  | boolean (b : Bool)
  /-- The number `mantissa / 10 ^ scale`. -/
  | number (mantissa : Int) (scale : Nat)
  | text (s : String)
  | list (items : List Document)
  | object (entries : List (String × Document))
  deriving Inhabited

namespace Document

/-- The fields of a structure with these keys: an object gives them by key, a list one by one in
the order of the keys and no more than there are, and nothing else gives any. -/
def fields? (keys : List String) : Document → Option (List (String × Document))
  | object entries => some entries
  | list items => if items.length ≤ keys.length then some (keys.zip items) else none
  | null | boolean _ | number _ _ | text _ => none

/-- What the field under a key is read as, or what it is without one. -/
def readField {α : Type} (key : String) (otherwise : α) (read : Document → Option α)
    (fields : List (String × Document)) : Option α :=
  match fields.lookup key with
  | none => some otherwise
  | some d => read d

def text? : Document → Option String
  | text s => some s
  | _ => none

end Document

end Recordset
