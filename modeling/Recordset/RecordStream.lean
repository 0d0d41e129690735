import Recordset.Record.Mapping
import Recordset.Source.Cursor

/-!
# Streams of records

A `RecordStream` reads the rows of one statement as records, one at a time and only when asked. It
opens its cursor on the first advance and closes it on every way out: at the end of the rows,
on a failure, when it is reset, and when it is disposed. A failure disposes of the stream, and a
disposed stream stays as it is. A record is at hand only between the advance that found it and
whatever comes next, so it is held beside the rows that are left to read; a `HandledStream` has a
field of its own for it, and a handle in place of the rows.
-/

set_option autoImplicit false

namespace Recordset

/-- How far a stream has come, with what it holds there. -/
inductive Progress (M : Model) where
  | idle
  /-- A cursor is open, with the rows that are left and the record at hand, if there is one. -/
  | reading (feed : Feed) (current : Option M.Record)
  | exhausted
  | disposed

/-- How far a stream has come. -/
def Progress.phase {M : Model} : Progress M → Phase
  | idle => .idle
  | reading _ _ => .reading
  | exhausted => .exhausted
  | disposed => .disposed

/-- The rows of a statement, read as records of a model. -/
structure RecordStream (M : Model) where
  source : Source
  statement : Statement
  /-- What becomes of a row that is no record of the model. -/
  onMismatch : OnMismatch
  /-- How far the stream has come. -/
  progress : Progress M

namespace RecordStream

variable {M : Model}

/-- The stream that has not run its statement yet. -/
def unread (source : Source) (s : Statement) (onMismatch : OnMismatch) : RecordStream M :=
  ⟨source, s, onMismatch, .idle⟩

/-- Makes a stream, for which its record type is looked up and so described, after the types that
the description looks at. -/
def create (source : Source) (s : Statement) (onMismatch : OnMismatch) :
    Traced (RecordStream M) := do
  -- A process that knows the type knows the others as well, so nothing is described again.
  Traced.logAll (M.headings.map .described)
  return unread source s onMismatch

@[simp] theorem value_create (source : Source) (s : Statement) (onMismatch : OnMismatch) :
    (create source s onMismatch : Traced (RecordStream M)).value = unread source s onMismatch := rfl

/-- How far the stream has come. -/
def phase (st : RecordStream M) : Phase := st.progress.phase

def current (st : RecordStream M) : Option M.Record :=
  match st.progress with
  | .reading _ current => current
  | .idle | .exhausted | .disposed => none

/-- The stream without a record at hand. -/
def clearCurrent (st : RecordStream M) : RecordStream M :=
  match st.progress with
  | .reading feed _ => { st with progress := .reading feed none }
  | .idle | .exhausted | .disposed => st

def takeCurrent (st : RecordStream M) : Option M.Record × RecordStream M :=
  (st.current, st.clearCurrent)

/-- Goes from one phase to another, and closes the cursor that was open before. -/
def moveTo (st : RecordStream M) (next : Progress M) : Traced (RecordStream M) := do
  Traced.log (.moved st.statement st.phase next.phase)
  match st.progress with
  | .reading _ _ => st.statement.release
  | .idle | .exhausted | .disposed => pure ()
  return { st with progress := next }

/-- Reads rows until one is a record: the record and the rows after it, nothing at the end of the
rows, or a failure. -/
def seek (M : Model) (s : Statement) (onMismatch : OnMismatch) :
    Feed → Traced (Except Failure (Option (M.Record × Feed)))
  | .finished => return .ok none
  | .failing message => return .error (s.readingFailure message)
  | .row row rest => do
    Traced.emit .rowRead
    match M.mapping.decode row with
    | .ok r => return .ok (some (r, rest))
    | .error e =>
      match onMismatch with
      | .fail => return .error e
      | .skipRow => do
        Traced.log (.skipped s e)
        seek M s onMismatch rest

/-- Advances a stream whose cursor is open on a feed. -/
def advanceOn (st : RecordStream M) (feed : Feed) :
    Traced (Except Failure Bool × RecordStream M) := do
  match ← seek M st.statement st.onMismatch feed with
  | .ok (some (r, rest)) => return (.ok true, { st with progress := .reading rest (some r) })
  | .ok none => return (.ok false, ← st.moveTo .exhausted)
  | .error e => return (.error e, ← st.moveTo .disposed)

/-- Advances to the next record and tells whether there is one. -/
def advance (st : RecordStream M) : Traced (Except Failure Bool × RecordStream M) :=
  match st.progress with
  | .idle => do
    match ← st.statement.acquire st.source with
    | .error e => return (.error e, ← st.moveTo .disposed)
    | .ok feed => do
      let opened ← st.moveTo (.reading feed none)
      opened.advanceOn feed
  | .reading feed _ => st.advanceOn feed
  | .exhausted | .disposed => return (.ok false, st)

/-- Advances and takes the record found: nothing at the end of the rows. -/
def next (st : RecordStream M) :
    Traced (Option (Except Failure M.Record) × RecordStream M) := do
  let (found, moved) ← st.advance
  match found with
  | .ok true => return (moved.current.map .ok, moved.clearCurrent)
  | .ok false => return (none, moved)
  | .error e => return (some (.error e), moved)

/-- Takes at most the given number of items, fewer if the rows end before. -/
def take : Nat → RecordStream M →
    Traced (List (Except Failure M.Record) × RecordStream M)
  | 0, st => return ([], st)
  | n + 1, st => do
    let (item, moved) ← st.next
    match item with
    | none => return ([], moved)
    | some x => do
      let (rest, final) ← moved.take n
      return (x :: rest, final)

/-- No fewer than the items that the stream has left. -/
def supply (st : RecordStream M) : Nat :=
  match st.progress with
  | .idle => st.source.supply st.statement
  | .reading feed _ => feed.size
  | .exhausted | .disposed => 0

/-- Takes every item that is left, and finds the end after them. -/
def drain (st : RecordStream M) :
    Traced (List (Except Failure M.Record) × RecordStream M) :=
  st.take (st.supply + 1)

/-- The records of a list of items, or its first failure. -/
def gather : List (Except Failure M.Record) → Except Failure (List M.Record)
  | [] => .ok []
  | .error e :: _ => .error e
  | .ok r :: rest =>
    match gather rest with
    | .ok rs => .ok (r :: rs)
    | .error e => .error e

/-- Takes every record that is left; a failure is the last item there is, and it stands for all
of them. -/
def collect (st : RecordStream M) :
    Traced (Except Failure (List M.Record) × RecordStream M) := do
  let (items, final) ← st.drain
  return (gather items, final)

/-- Gives up for good, closing an open cursor. -/
def dispose (st : RecordStream M) : Traced (RecordStream M) :=
  match st.progress with
  | .disposed => return st
  | .idle | .reading _ _ | .exhausted => st.moveTo .disposed

/-- Goes back to the start, closing an open cursor, unless the stream is disposed. -/
def reset (st : RecordStream M) : Traced (RecordStream M) :=
  match st.progress with
  | .disposed => return st
  | .idle | .reading _ _ | .exhausted => st.moveTo .idle

end RecordStream

end Recordset
