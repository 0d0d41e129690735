import Recordset.Row
import Recordset.Source.Journal

/-!
# Sources of rows

A `Source` answers statements from scripts that were registered beforehand: a statement yields a
`Feed` of rows, which may end in a failure, or it is refused. Every cursor reads a feed of its
own, so what one of them has read is not lost to another.
-/

set_option autoImplicit false

namespace Recordset

/-- The rows that a cursor has yet to hand out. A failure is reported once and ends the rows. -/
inductive Feed where
  | finished
  /-- No rows are left, and the next attempt to read one fails. -/
  | failing (message : String)
  /-- A row is left, and what comes after it. -/
  | row (r : Row) (rest : Feed)

namespace Feed

/-- The feed that hands out the rows in order and then fails, if a failure is given. -/
def ofRows (failure : Option String) : List Row → Feed
  | [] => match failure with
    | none => finished
    | some message => failing message
  | r :: rest => row r (ofRows failure rest)

/-- How many attempts to read find a row or fail. -/
def size : Feed → Nat
  | finished => 0
  | failing _ => 1
  | row _ rest => rest.size + 1

/-- Hands out the next row, if one is left, and what remains. -/
def read : Feed → Traced (Except String (Option Row) × Feed)
  | finished => return (.ok none, finished)
  | failing message => return (.error message, finished)
  | row r rest => do
    Traced.emit .rowRead
    return (.ok (some r), rest)

end Feed

/-- How a source answers a statement. -/
inductive Script where
  /-- With a cursor on this feed. -/
  | rows (feed : Feed)
  /-- With a failure to open any cursor. -/
  | refuse (message : String)

/-- Scripts for the statements that were registered. -/
structure Source where
  scripts : NameMap Script

namespace Source

def empty : Source := ⟨NameMap.empty⟩

/-- Registers a script for a statement in place of any before it. -/
def register (src : Source) (s : Statement) (script : Script) : Source :=
  ⟨src.scripts.insert s.text script⟩

/-- The script registered last for a statement. -/
def script? (src : Source) (s : Statement) : Option Script := src.scripts.get? s.text

/-- No fewer than the items that a statement brings: an opening that fails is one, and so is every
row, and a failure after the rows. -/
def supply (src : Source) (s : Statement) : Nat :=
  match src.script? s with
  | some (.rows feed) => feed.size
  | some (.refuse _) | none => 1

/-- Opens a cursor for a statement: the feed that it reads, or why there is none. -/
def openFeed (src : Source) (s : Statement) : Traced (Except String Feed) :=
  match src.script? s with
  | none => return .error ("No result registered for statement: " ++ s.text)
  | some (.refuse message) => return .error message
  | some (.rows feed) => do
    Traced.emit (.opened s)
    return .ok feed

end Source

end Recordset
