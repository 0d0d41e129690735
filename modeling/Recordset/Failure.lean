import Recordset.Cell

/-!
# Failures

What can go wrong between a term and its records: a term that no statement can express, a source
that fails, and a cell that does not fit its field. A failure of a source keeps the whole chain of
causes; its message tells the outermost of them only.
-/

set_option autoImplicit false

namespace Recordset

/-- What a source reports when it fails: its own message, then the causes below it. -/
structure Causes where
  /-- What failed in the end. -/
  outermost : String
  /-- What that came from, each cause followed by the one below it. -/
  deeper : List String
  deriving DecidableEq

/-- A cause that has none below it. -/
def Causes.root (message : String) : Causes := ⟨message, []⟩

def Causes.toList (c : Causes) : List String := c.outermost :: c.deeper

/-- Why a query gave no records. -/
inductive Failure where
  /-- A statement cannot hold a node of this kind. -/
  | unsupported (kind : String)
  /-- The source failed while doing what the context says. -/
  | execution (context : String) (causes : Causes)
  /-- A cell of a column is of another type than its field can take. -/
  | mismatch (column : String) (expected actual : ScalarType)
  deriving DecidableEq

def Failure.message : Failure → String
  | .unsupported kind => "Unsupported expression kind: " ++ kind
  | .execution context causes => "Execution failed: " ++ context ++ ": " ++ causes.outermost
  | .mismatch column expected actual =>
    "Schema mismatch on column '" ++ column ++ "': expected " ++ expected.name ++ ", got " ++
      actual.name

/-- The causes of a failure, the outermost first. -/
def Failure.causes : Failure → List String
  | .execution _ causes => causes.toList
  | .unsupported _ | .mismatch _ _ _ => []

end Recordset
