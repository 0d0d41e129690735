import Recordset.Session

/-!
# Cursors, handles and streams as they are kept

A cursor and the handle of a cursor each have a flag that says whether they were closed, and a
`HandledStream` has a state, which holds the handle while there is one, and a field of its own for
the record at hand. So it takes care to clear the record whenever the cursor is gone, and to close
a cursor once, though both the stream and the handle that it lets go of close it.
-/

set_option autoImplicit false

namespace Recordset

/-- A cursor with the rows that are left to it. -/
structure FlaggedCursor where
  feed : Feed
  isClosed : Bool

namespace FlaggedCursor

def create (src : Source) (s : Statement) : Traced (Except String FlaggedCursor) := do
  match ← src.openFeed s with
  | .error message => return .error message
  | .ok feed => return .ok ⟨feed, false⟩

def next (c : FlaggedCursor) : Traced (Except String (Option Row) × FlaggedCursor) :=
  if c.isClosed then
    return (.error "Cursor is closed", c)
  else do
    let (row, rest) ← c.feed.read
    return (row, { c with feed := rest })

def close (c : FlaggedCursor) : Traced FlaggedCursor :=
  if c.isClosed then
    return c
  else do
    Traced.emit .closed
    return { c with isClosed := true }

/-- Uses a cursor as one of a session is used. -/
def use (c : FlaggedCursor) : Action → Traced (Reply × FlaggedCursor)
  | .cursorNext => do
    let (row, moved) ← c.next
    match row with
    | .ok r => return (.row r, moved)
    | .error message => return (.sourceFailed message, moved)
  | .cursorClose => do
    return (.done, ← c.close)
  | _ => return (.noObject, c)

/-- Lets go of a cursor, which does not close it. -/
def drop (_ : FlaggedCursor) : Traced Unit := pure ()

end FlaggedCursor

/-- What a stream keeps of an open cursor. -/
structure Handle where
  statement : Statement
  cursor : FlaggedCursor
  isClosed : Bool

namespace Handle

def create (src : Source) (s : Statement) : Traced (Except Failure Handle) := do
  match ← FlaggedCursor.create src s with
  | .error message => return .error (s.openingFailure message)
  | .ok cursor => do
    Traced.log (.opened s)
    return .ok ⟨s, cursor, false⟩

def read (h : Handle) : Traced (Except Failure (Option Row) × Handle) :=
  if h.isClosed then
    return (.ok none, h)
  else do
    let (row, cursor) ← h.cursor.next
    return (row.mapError h.statement.readingFailure, { h with cursor := cursor })

def close (h : Handle) : Traced Handle :=
  if h.isClosed then
    return h
  else do
    let cursor ← h.cursor.close
    Traced.log (.closed h.statement)
    return { h with cursor := cursor, isClosed := true }

/-- Lets go of a handle, which closes it. -/
def drop (h : Handle) : Traced Unit := do
  let _ ← h.close

/-- Uses a handle as a reader of a session is used. -/
def use (h : Handle) : Action → Traced (Reply × Handle)
  | .readerRead => do
    let (row, moved) ← h.read
    match row with
    | .ok row => return (.row row, moved)
    | .error e => return (.failed e, moved)
  | .readerClose => do
    return (.done, ← h.close)
  | .readerIsClosed => return (.isClosed h.isClosed, h)
  | .readerStatement => return (.statement h.statement, h)
  | _ => return (.noObject, h)

end Handle

/-- The state of a stream, with the handle of its cursor while there is one. -/
inductive HandleState where
  | idle
  | reading (h : Handle)
  | exhausted
  | disposed

def HandleState.phase : HandleState → Phase
  | idle => .idle
  | reading _ => .reading
  | exhausted => .exhausted
  | disposed => .disposed

/-- The rows of a statement, read as records of a model by way of a handle. -/
structure HandledStream (M : Model) where
  source : Source
  statement : Statement
  onMismatch : OnMismatch
  state : HandleState
  /-- The record at hand. -/
  current : Option M.Record

namespace HandledStream

variable {M : Model}

def unread (source : Source) (s : Statement) (onMismatch : OnMismatch) : HandledStream M :=
  ⟨source, s, onMismatch, .idle, none⟩

/-- Puts another state in place of the one before, and closes the handle that was in it before it is
let go of. -/
def transition (st : HandledStream M) (next : HandleState) : Traced (HandledStream M) := do
  Traced.log (.moved st.statement st.state.phase next.phase)
  match st.state with
  | .reading h => do
    let closed ← h.close
    closed.drop
  | .idle | .exhausted | .disposed => pure ()
  return { st with state := next }

/-- Reads one row, and tells what the advance comes to unless the row is to be skipped. -/
def turn (st : HandledStream M) (h : Handle) :
    Traced (Option (Except Failure Bool) × HandledStream M) := do
  let (row, moved) ← h.read
  let st := { st with state := .reading moved }
  match row with
  | .error e => return (some (.error e), ← st.transition .disposed)
  | .ok none => return (some (.ok false), ← st.transition .exhausted)
  | .ok (some row) =>
    match M.mapping.decode row with
    | .ok r => return (some (.ok true), { st with current := some r })
    | .error e =>
      match st.onMismatch with
      | .fail => return (some (.error e), ← st.transition .disposed)
      | .skipRow => do
        Traced.log (.skipped st.statement e)
        return (none, st)

/-- Takes turns until one of them tells what the advance comes to. -/
def search : Nat → HandledStream M → Traced (Except Failure Bool × HandledStream M)
  | 0, st => return (.ok false, st)
  | n + 1, st =>
    match st.state with
    | .idle | .exhausted | .disposed => return (.ok false, st)
    | .reading h => do
      let (found, moved) ← st.turn h
      match found with
      | some found => return (found, moved)
      | none => moved.search n

/-- No fewer than the items that the stream has left. -/
def supply (st : HandledStream M) : Nat :=
  match st.state with
  | .idle => st.source.supply st.statement
  | .reading h => h.cursor.feed.size
  | .exhausted | .disposed => 0

/-- Clears the record, opens a cursor unless the stream had one, and searches. Every turn but the
last reads a row that is skipped, so the supply of the stream is enough of them. -/
def advance (st : HandledStream M) : Traced (Except Failure Bool × HandledStream M) :=
  let st := { st with current := none }
  match st.state with
  | .idle => do
    match ← Handle.create st.source st.statement with
    | .error e => return (.error e, ← st.transition .disposed)
    | .ok h => do
      let opened ← st.transition (.reading h)
      opened.search (opened.supply + 1)
  | .reading _ | .exhausted | .disposed => st.search (st.supply + 1)

def takeCurrent (st : HandledStream M) : Option M.Record × HandledStream M :=
  (st.current, { st with current := none })

def next (st : HandledStream M) :
    Traced (Option (Except Failure M.Record) × HandledStream M) := do
  let (found, moved) ← st.advance
  match found with
  | .ok true => return (moved.takeCurrent.1.map .ok, moved.takeCurrent.2)
  | .ok false => return (none, moved)
  | .error e => return (some (.error e), moved)

def take : Nat → HandledStream M →
    Traced (List (Except Failure M.Record) × HandledStream M)
  | 0, st => return ([], st)
  | n + 1, st => do
    let (item, moved) ← st.next
    match item with
    | none => return ([], moved)
    | some x => do
      let (rest, final) ← moved.take n
      return (x :: rest, final)

/-- Goes back to the start and clears the record, unless the stream is disposed. -/
def reset (st : HandledStream M) : Traced (HandledStream M) :=
  match st.state with
  | .disposed => return st
  | .idle | .reading _ | .exhausted => { st with current := none }.transition .idle

/-- Gives up for good and clears the record. -/
def dispose (st : HandledStream M) : Traced (HandledStream M) :=
  match st.state with
  | .disposed => return st
  | .idle | .reading _ | .exhausted => { st with current := none }.transition .disposed

/-- Uses a stream as one of a session is used. -/
def use (st : HandledStream M) : Action → Traced (Reply × HandledStream M)
  | .advance => do
    let (found, moved) ← st.advance
    match found with
    | .ok b => return (.advanced b, moved)
    | .error e => return (.failed e, moved)
  | .current => return (.current M st.current, st)
  | .takeCurrent => return (.current M st.takeCurrent.1, st.takeCurrent.2)
  | .next => do
    let (x, moved) ← st.next
    return (.item M x, moved)
  | .take n => do
    let (xs, moved) ← st.take n
    return (.items M xs, moved)
  | .drain => do
    let (xs, moved) ← st.take (st.supply + 1)
    return (.items M xs, moved)
  | .collect => do
    let (xs, moved) ← st.take (st.supply + 1)
    match RecordStream.gather xs with
    | .ok rs => return (.records M rs, moved)
    | .error e => return (.failed e, moved)
  | .phase => return (.phase st.state.phase, st)
  | .streamStatement => return (.statement st.statement, st)
  | .reset => do
    return (.done, ← st.reset)
  | .dispose => do
    return (.done, ← st.dispose)
  | _ => return (.noObject, st)

/-- Lets go of a stream: what it holds is given up, and a handle that is still in its state is let
go of with it. -/
def drop (st : HandledStream M) : Traced Unit := do
  let last ← st.dispose
  match last.state with
  | .reading h => h.drop
  | .idle | .exhausted | .disposed => pure ()

end HandledStream

end Recordset
