/-!
# Operators of terms

Each operator has a sign, by which messages name it. Only some binary operators have a token as
well: those are the ones that a statement can hold, and the two disjunctions share theirs.
-/

set_option autoImplicit false

namespace Recordset

/-- An operator on two terms. -/
inductive BinaryOp where
  | add | sub | mul | div
  | eq | ne | lt | le | gt | ge
  | and | or
  /-- Disjunction that leaves its second operand alone when the first one holds. -/
  | orElse
  deriving DecidableEq

/-- The sign by which messages name a binary operator. -/
def BinaryOp.sign : BinaryOp → String
  | .add => "+"
  | .sub => "-"
  | .mul => "*"
  | .div => "/"
  | .eq => "="
  | .ne => "!="
  | .lt => "<"
  | .le => "<="
  | .gt => ">"
  | .ge => ">="
  | .and => "AND"
  | .or => "OR"
  | .orElse => "OR ELSE"

/-- What stands for a binary operator in a statement, if anything does. -/
def BinaryOp.token? : BinaryOp → Option String
  | .eq => some "="
  | .lt => some "<"
  | .gt => some ">"
  | .or | .orElse => some "OR"
  | .add | .sub | .mul | .div | .ne | .le | .ge | .and => none

/-- An operator on one term. -/
inductive UnaryOp where
  | not | negate
  deriving DecidableEq

/-- The sign by which messages name a unary operator. -/
def UnaryOp.sign : UnaryOp → String
  | .not => "NOT"
  | .negate => "-"

end Recordset
