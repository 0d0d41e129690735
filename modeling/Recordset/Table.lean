import Recordset.RecordStream

/-!
# Tables and queries

A `Table` is a named table of a source whose rows are records of a model, and a `Query` is one
clause on it. A query is turned into its statement anew each time it is asked for, and the rows of
the statement are read as the settings of the table say.
-/

set_option autoImplicit false

namespace Recordset

/-- A table of records. -/
structure Table where
  /-- What its rows are read as. -/
  model : Model
  name : String
  settings : Settings

/-- A clause on a table. -/
structure Query where
  table : Table
  /-- What is done to its rows. -/
  clause : Clause

namespace Query

/-- The statement of a query, with a log record if there is one. -/
def statement (q : Query) : Traced (Except Failure Statement) :=
  match q.clause.statement q.table.settings.methods q.table.name with
  | .ok s => do
    Traced.log (.stated q.table.name s)
    return .ok s
  | .error e => return .error e

/-- The stream of a query's records, which has not run yet. -/
def stream (q : Query) (src : Source) :
    Traced (Except Failure (RecordStream q.table.model)) := do
  match ← q.statement with
  | .ok s => return .ok (← RecordStream.create src s q.table.settings.onMismatch)
  | .error e => return .error e

/-- All records of a query, or the first failure. -/
def toList (q : Query) (src : Source) : Traced (Except Failure (List q.table.model.Record)) := do
  match ← q.stream src with
  | .ok st => do
    let (records, final) ← st.collect
    let _ ← final.dispose
    return records
  | .error e => return .error e

end Query

end Recordset
