import Recordset.NameMap

/-!
# Settings

Settings say which methods a statement may call and what becomes of a row that does not fit the
record type. The standard settings allow every method and stop at the first such row.
-/

set_option autoImplicit false

namespace Recordset

/-- Which methods a statement may call. -/
inductive Allowance where
  | any
  /-- The methods of the set, their names compared exactly. -/
  | only (methods : NameSet)
  deriving DecidableEq

/-- Whether a method may be called. -/
def Allowance.permits : Allowance → String → Bool
  | .any, _ => true
  | .only methods, name => methods.contains name

/-- The allowance for the methods listed, or for every method where no list is given. -/
def Allowance.ofNames? : Option (List String) → Allowance
  | none => .any
  | some names => .only (NameSet.ofNames names)

/-- What becomes of a row that does not fit the record type. -/
inductive OnMismatch where
  /-- It ends the reading with its error. -/
  | fail
  /-- It is left out. -/
  | skipRow
  deriving DecidableEq

/-- How queries are made and their rows read. -/
structure Settings where
  /-- The methods that statements may call. -/
  methods : Allowance
  /-- The treatment of rows that do not fit. -/
  onMismatch : OnMismatch
  deriving DecidableEq

/-- Every method is allowed, and the first row that does not fit ends the reading. -/
def Settings.standard : Settings := ⟨.any, .fail⟩

end Recordset
