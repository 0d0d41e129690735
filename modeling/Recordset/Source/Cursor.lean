import Recordset.Source.Basic

/-!
# Cursors and readers

A `Cursor` hands out the rows of a feed until it is closed, and refuses to read from then on. A
`Reader` holds the cursor of one statement: it says in its failures what it was doing, it keeps a
log of opening and closing, and once closed it finds no more rows. Closing again does nothing.
-/

set_option autoImplicit false

namespace Recordset

/-- A place in the rows of a statement. -/
inductive Cursor where
  /-- Open, with the rows that are left. -/
  | live (feed : Feed)
  | closed

namespace Cursor

/-- Opens a cursor for a statement, or tells why there is none. -/
def create (src : Source) (s : Statement) : Traced (Except String Cursor) := do
  match ← src.openFeed s with
  | .error message => return .error message
  | .ok feed => return .ok (live feed)

/-- Hands out the next row, if one is left. -/
def next : Cursor → Traced (Except String (Option Row) × Cursor)
  | live feed => do
    let (row, rest) ← feed.read
    return (row, live rest)
  | closed => return (.error "Cursor is closed", closed)

def close : Cursor → Traced Cursor
  | live _ => do
    Traced.emit .closed
    return closed
  | closed => return closed

end Cursor

namespace Statement

/-- The failure to open a cursor for a statement. -/
def openingFailure (s : Statement) (message : String) : Failure :=
  .execution ("opening `" ++ s.text ++ "`") (.root message)

/-- The failure to read a row of a statement. -/
def readingFailure (s : Statement) (message : String) : Failure :=
  .execution ("reading `" ++ s.text ++ "`") (.root message)

/-- Opens a cursor for a statement and keeps a log of it. -/
def acquire (s : Statement) (src : Source) : Traced (Except Failure Feed) := do
  match ← src.openFeed s with
  | .error message => return .error (s.openingFailure message)
  | .ok feed => do
    Traced.log (.opened s)
    return .ok feed

/-- Closes the open cursor of a statement and keeps a log of it. -/
def release (s : Statement) : Traced Unit := do
  Traced.emit .closed
  Traced.log (.closed s)

end Statement

/-- The cursor of a statement together with the statement. -/
structure Reader where
  statement : Statement
  cursor : Cursor

namespace Reader

def create (src : Source) (s : Statement) : Traced (Except Failure Reader) := do
  match ← s.acquire src with
  | .error e => return .error e
  | .ok feed => return .ok ⟨s, .live feed⟩

def isClosed (r : Reader) : Bool :=
  match r.cursor with
  | .live _ => false
  | .closed => true

def read (r : Reader) : Traced (Except Failure (Option Row) × Reader) :=
  match r.cursor with
  | .live feed => do
    let (row, rest) ← feed.read
    return (row.mapError r.statement.readingFailure, { r with cursor := .live rest })
  | .closed => return (.ok none, r)

def close (r : Reader) : Traced Reader :=
  match r.cursor with
  | .live _ => do
    r.statement.release
    return { r with cursor := .closed }
  | .closed => return r

end Reader

end Recordset
