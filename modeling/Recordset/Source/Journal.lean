import Recordset.Clause
import Recordset.Record.Heading

/-!
# The journal of a run

Running statements leaves a trail of `Event`s: cursors that a source opened and that were closed,
rows that were read, and log records for people. A `Traced` value is a result together with the
events that came about on the way, in order; doing one thing after another appends their events.
A `Tally` is what a source counts, and it is a function of the events alone. The log is not: a
record type is to be described whenever it is looked up, but a process describes it only once, so
what is left of the records depends on the types that the process knows.
-/

set_option autoImplicit false

namespace Recordset

/-- How far the reading of a statement has come. -/
inductive Phase where
  | idle
  /-- A cursor is open and its rows are being read. -/
  | reading
  /-- The rows are at an end and the cursor is closed. -/
  | exhausted
  /-- The reading was given up for good and no cursor is open. -/
  | disposed
  deriving DecidableEq

/-- The name by which log records call a phase. -/
def Phase.name : Phase → String
  | .idle => "NotStarted"
  | .reading => "Open"
  | .exhausted => "Exhausted"
  | .disposed => "Disposed"

/-- How much a log record matters. -/
inductive Level where
  | trace | debug | warn
  deriving DecidableEq

/-- A record for people to read. -/
inductive LogRecord where
  /-- A record type was looked up. -/
  | described (h : Heading)
  /-- A query on the table became a statement. -/
  | stated (table : String) (s : Statement)
  | opened (s : Statement)
  | closed (s : Statement)
  /-- The reading of the statement went from one phase to another. -/
  | moved (s : Statement) (old new : Phase)
  | skipped (s : Statement) (cause : Failure)
  deriving DecidableEq

namespace LogRecord

def level : LogRecord → Level
  | described _ | stated _ _ | opened _ | closed _ => .debug
  | moved _ _ _ => .trace
  | skipped _ _ => .warn

def message : LogRecord → String
  | described h => "Resolved schema for " ++ h.description
  | stated table s => "Translated query on " ++ table ++ ": " ++ s.text
  | opened s => "Opened cursor for: " ++ s.text
  | closed s => "Closed cursor for: " ++ s.text
  | moved s old new => "Enumerator for `" ++ s.text ++ "`: " ++ old.name ++ " -> " ++ new.name
  | skipped s cause => "Skipping row from `" ++ s.text ++ "`: " ++ cause.message

/-- The key of the record type that a record describes, if it describes one. -/
def key? : LogRecord → Option Nat
  | described h => some h.key
  | stated _ _ | opened _ | closed _ | moved _ _ _ | skipped _ _ => none

/-- The record describes a type that is known. -/
def isStale (known : List Nat) (r : LogRecord) : Bool := r.key?.any fun key => key ∈ known

/-- What is left of records in a process that knows some types and describes no type twice. -/
def once (known : List Nat) : List LogRecord → List LogRecord
  | [] => []
  | r :: rest =>
    let left := once (known ++ r.key?.toList) rest
    if r.isStale known then left else r :: left

end LogRecord

/-- Something that came about during a run. -/
inductive Event where
  | opened (s : Statement)
  | closed
  | rowRead
  | logged (r : LogRecord)
  deriving DecidableEq

/-- The log record of an event that is one. -/
def Event.record? : Event → Option LogRecord
  | logged r => some r
  | opened _ | closed | rowRead => none

/-- A result with the events that came about on the way to it. -/
structure Traced (α : Type) where
  value : α
  /-- The events, the first one first. -/
  events : List Event

namespace Traced

variable {α β : Type}

instance : Monad Traced where
  pure x := ⟨x, []⟩
  bind t f := ⟨(f t.value).value, t.events ++ (f t.value).events⟩

/-- Lets an event come about. -/
def emit (e : Event) : Traced Unit := ⟨(), [e]⟩

def log (r : LogRecord) : Traced Unit := emit (.logged r)

/-- Logs one record after another. -/
def logAll (rs : List LogRecord) : Traced Unit := ⟨(), rs.map .logged⟩

@[simp] theorem value_pure (x : α) : (pure x : Traced α).value = x := rfl

@[simp] theorem events_pure (x : α) : (pure x : Traced α).events = [] := rfl

@[simp] theorem value_bind (t : Traced α) (f : α → Traced β) :
    (t >>= f).value = (f t.value).value := rfl

@[simp] theorem events_bind (t : Traced α) (f : α → Traced β) :
    (t >>= f).events = t.events ++ (f t.value).events := rfl

@[simp] theorem value_emit (e : Event) : (emit e).value = () := rfl

@[simp] theorem events_emit (e : Event) : (emit e).events = [e] := rfl

/-- The log records of a computation, before any are left out. -/
def allRecords (t : Traced α) : List LogRecord := t.events.filterMap Event.record?

@[simp] theorem allRecords_pure (x : α) : (pure x : Traced α).allRecords = [] := rfl

@[simp] theorem allRecords_bind (t : Traced α) (f : α → Traced β) :
    (t >>= f).allRecords = t.allRecords ++ (f t.value).allRecords := List.filterMap_append

/-- The log records of a computation in a process that knows some types. -/
def records (t : Traced α) (known : List Nat) : List LogRecord :=
  LogRecord.once known t.allRecords

/-- The types that a computation looks up. -/
def lookedUp (t : Traced α) : List Nat := t.allRecords.filterMap LogRecord.key?

end Traced

/-- What a source counts. -/
structure Tally where
  /-- The statements for which a cursor was opened, the first one first. -/
  executed : List Statement
  opened : Nat
  closed : Nat
  rowsRead : Nat
  deriving DecidableEq

namespace Tally

def zero : Tally := ⟨[], 0, 0, 0⟩

/-- The counts after one more event. -/
def add (t : Tally) : Event → Tally
  | .opened s => { t with executed := t.executed ++ [s], opened := t.opened + 1 }
  | .closed => { t with closed := t.closed + 1 }
  | .rowRead => { t with rowsRead := t.rowsRead + 1 }
  | .logged _ => t

/-- The counts after more events. -/
def addAll (t : Tally) (events : List Event) : Tally := events.foldl add t

def openCursors (t : Tally) : Nat := t.opened - t.closed

end Tally

end Recordset
