import Recordset.Term.Text

/-!
# Clauses and statements

A query has one clause: it keeps the rows of a table that satisfy a predicate, or shapes them by a
projection. Its `Statement` is the text that a source runs. A projection must have a text of its
own although the statement does not show it, since every column is fetched anyway.
-/

set_option autoImplicit false

namespace Recordset

/-- The text that a source runs. -/
structure Statement where
  text : String
  deriving DecidableEq

/-- What a query does to the rows of its table. -/
inductive Clause where
  /-- Keeps the rows that satisfy the predicate. -/
  | filter (predicate : Term)
  /-- Shapes every row. -/
  | project (projection : Term)

namespace Clause

def term : Clause → Term
  | filter predicate => predicate
  | project projection => projection

/-- Whether two clauses are of one kind and their terms are equal. -/
def equal : Clause → Clause → Bool
  | filter p, filter q => p.equal q
  | project p, project q => p.equal q
  | _, _ => false

/-- The statement for a clause on a table, or the failure of its term. -/
def statement (methods : Allowance) (table : String) : Clause → Except Failure Statement
  | filter predicate => do
    let condition ← predicate.text methods
    return ⟨"SELECT * FROM " ++ table ++ " WHERE " ++ condition⟩
  | project projection => do
    let _ ← projection.text methods
    return ⟨"SELECT * FROM " ++ table⟩

end Clause

end Recordset
