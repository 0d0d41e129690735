import Recordset.Text.Escaped

/-!
# Headings of record types

A process looks a record type up before it reads records of the type. It describes the type when it
does so for the first time, and knows it by its `Heading` from then on.
-/

set_option autoImplicit false

namespace Recordset

/-- What a process knows a record type by. -/
structure Heading where
  /-- Tells the type from every other type of the process. -/
  key : Nat
  name : String
  /-- The columns that its records are read from, in order. -/
  columns : List String
  deriving DecidableEq

/-- A heading as log records show it, with its columns escaped. -/
def Heading.description (h : Heading) : String :=
  h.name ++ ": [" ++ ", ".intercalate (h.columns.map Text.escaped) ++ "]"

end Recordset
