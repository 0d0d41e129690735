import Recordset.Settings.Spelling
import Recordset.Table

/-!
# Sessions

A `Session` holds named objects that share one source: cursors, readers, tables, queries and
streams. A `Command` makes an object, uses one or drops one, and is answered by a `Reply`; what
comes about on the way is counted in the session's tally. An object that is dropped closes the
cursor it holds, unless it is a bare cursor, which is left as it is. A session keeps the record
types that its process knows, since each of them is described in the log only once.
-/

set_option autoImplicit false

namespace Recordset

/-- Something a session holds. -/
inductive Object where
  | cursor (c : Cursor)
  | reader (r : Reader)
  | table (t : Table)
  | query (q : Query)
  | stream (M : Model) (st : RecordStream M)

/-- How the settings of a table are given. -/
inductive SettingsChoice where
  | standard
  | document (d : Document)
  | chosen (methods : Allowance) (onMismatch : OnMismatch)

/-- The settings that were given, unless a document spells none. -/
def SettingsChoice.settings? : SettingsChoice → Option Settings
  | standard => some Settings.standard
  | document d => Settings.ofDocument? d
  | chosen methods onMismatch => some ⟨methods, onMismatch⟩

/-- How an object is made. -/
inductive Making where
  | cursor (s : Statement)
  | reader (s : Statement)
  | table (model : Model) (name : String) (choice : SettingsChoice)
  /-- A table like the one of that name. -/
  | copy (table : String)
  /-- A table like the one of that name, but with other settings. -/
  | retuned (table : String) (choice : SettingsChoice)
  | query (table : String) (clause : Clause)
  | streamOf (query : String)
  | stream (model : Model) (s : Statement) (onMismatch : OnMismatch)

/-- What an object is used for. -/
inductive Action where
  | cursorNext | cursorClose
  | readerRead | readerClose | readerIsClosed | readerStatement
  | tableInfo
  | queryInfo | queryStatement | queryToList
  | advance | current | takeCurrent | next
  | take (n : Nat)
  | drain | collect
  | phase | streamStatement
  | reset | dispose
  deriving DecidableEq

/-- One command of a session. -/
inductive Command where
  /-- Makes an object under a name; one that had the name before is dropped. -/
  | make (name : String) (how : Making)
  | use (name : String) (what : Action)
  | drop (name : String)

/-- The answer to a command. -/
inductive Reply where
  /-- It was done, and there is nothing to tell. -/
  | done
  | noObject
  | badSettings
  | failed (e : Failure)
  /-- The source itself failed, with this message. -/
  | sourceFailed (message : String)
  | row (r : Option Row)
  | isClosed (b : Bool)
  /-- The statement that an object runs. -/
  | statement (s : Statement)
  | table (name : String) (settings : Settings)
  | clause (c : Clause)
  /-- The statement that a query was turned into. -/
  | stated (s : Statement)
  | advanced (found : Bool)
  | current (M : Model) (r : Option M.Record)
  | item (M : Model) (x : Option (Except Failure M.Record))
  | items (M : Model) (xs : List (Except Failure M.Record))
  | records (M : Model) (rs : List M.Record)
  | phase (p : Phase)

namespace Object

def useCursor (c : Cursor) : Action → Traced (Reply × Object)
  | .cursorNext => do
    let (row, moved) ← c.next
    match row with
    | .ok r => return (.row r, cursor moved)
    | .error message => return (.sourceFailed message, cursor moved)
  | .cursorClose => do
    return (.done, cursor (← c.close))
  | _ => return (.noObject, cursor c)

def useReader (r : Reader) : Action → Traced (Reply × Object)
  | .readerRead => do
    let (row, moved) ← r.read
    match row with
    | .ok row => return (.row row, reader moved)
    | .error e => return (.failed e, reader moved)
  | .readerClose => do
    return (.done, reader (← r.close))
  | .readerIsClosed => return (.isClosed r.isClosed, reader r)
  | .readerStatement => return (.statement r.statement, reader r)
  | _ => return (.noObject, reader r)

def useTable (t : Table) : Action → Traced (Reply × Object)
  | .tableInfo => return (.table t.name t.settings, table t)
  | _ => return (.noObject, table t)

def useQuery (src : Source) (q : Query) : Action → Traced (Reply × Object)
  | .queryInfo => return (.clause q.clause, query q)
  | .queryStatement => do
    match ← q.statement with
    | .ok s => return (.stated s, query q)
    | .error e => return (.failed e, query q)
  | .queryToList => do
    match ← q.toList src with
    | .ok rs => return (.records q.table.model rs, query q)
    | .error e => return (.failed e, query q)
  | _ => return (.noObject, query q)

def useStream (M : Model) (st : RecordStream M) : Action → Traced (Reply × Object)
  | .advance => do
    let (found, moved) ← st.advance
    match found with
    | .ok b => return (.advanced b, stream M moved)
    | .error e => return (.failed e, stream M moved)
  | .current => return (.current M st.current, stream M st)
  | .takeCurrent => return (.current M st.takeCurrent.1, stream M st.takeCurrent.2)
  | .next => do
    let (x, moved) ← st.next
    return (.item M x, stream M moved)
  | .take n => do
    let (xs, moved) ← st.take n
    return (.items M xs, stream M moved)
  | .drain => do
    let (xs, moved) ← st.drain
    return (.items M xs, stream M moved)
  | .collect => do
    let (rs, moved) ← st.collect
    match rs with
    | .ok rs => return (.records M rs, stream M moved)
    | .error e => return (.failed e, stream M moved)
  | .phase => return (.phase st.phase, stream M st)
  | .streamStatement => return (.statement st.statement, stream M st)
  | .reset => do
    return (.done, stream M (← st.reset))
  | .dispose => do
    return (.done, stream M (← st.dispose))
  | _ => return (.noObject, stream M st)

/-- Uses an object; an action that is meant for objects of another kind finds none. -/
def use (src : Source) : Object → Action → Traced (Reply × Object)
  | cursor c => useCursor c
  | reader r => useReader r
  | table t => useTable t
  | query q => useQuery src q
  | stream M st => useStream M st

def drop : Object → Traced Unit
  | cursor _ | table _ | query _ => pure ()
  | reader r => do
    let _ ← r.close
  | stream _ st => do
    let _ ← st.dispose

def dropAny : Option Object → Traced Unit
  | none => pure ()
  | some object => object.drop

end Object

/-- Named objects that share a source. -/
structure Session where
  source : Source
  objects : NameMap Object
  /-- What the source has counted. -/
  tally : Tally
  /-- The record types that the process knows, by their keys. -/
  known : List Nat

namespace Session

/-- A session without objects in a process that knows some record types. -/
def startKnowing (known : List Nat) (source : Source) : Session :=
  ⟨source, NameMap.empty, Tally.zero, known⟩

def start (source : Source) : Session := startKnowing [] source

def table? (ses : Session) (name : String) : Option Table :=
  match ses.objects.get? name with
  | some (.table t) => some t
  | _ => none

def query? (ses : Session) (name : String) : Option Query :=
  match ses.objects.get? name with
  | some (.query q) => some q
  | _ => none

/-- Makes an object, or tells in a reply why there is none. -/
def build (ses : Session) : Making → Traced (Except Reply Object)
  | .cursor s => do
    match ← Cursor.create ses.source s with
    | .ok c => return .ok (.cursor c)
    | .error message => return .error (.sourceFailed message)
  | .reader s => do
    match ← Reader.create ses.source s with
    | .ok r => return .ok (.reader r)
    | .error e => return .error (.failed e)
  | .table model name choice =>
    match choice.settings? with
    | some settings => return .ok (.table ⟨model, name, settings⟩)
    | none => return .error .badSettings
  | .copy table =>
    match ses.table? table with
    | some t => return .ok (.table t)
    | none => return .error .noObject
  | .retuned table choice =>
    match ses.table? table with
    | some t =>
      match choice.settings? with
      | some settings => return .ok (.table { t with settings := settings })
      | none => return .error .badSettings
    | none => return .error .noObject
  | .query table clause =>
    match ses.table? table with
    | some t => return .ok (.query ⟨t, clause⟩)
    | none => return .error .noObject
  | .streamOf query =>
    match ses.query? query with
    | some q => do
      match ← q.stream ses.source with
      | .ok st => return .ok (.stream q.table.model st)
      | .error e => return .error (.failed e)
    | none => return .error .noObject
  | .stream model s onMismatch => do
    return .ok (.stream model (← RecordStream.create ses.source s onMismatch))

/-- Answers a command and brings the objects up to date. -/
def answer (ses : Session) : Command → Traced (Reply × NameMap Object)
  | .make name how => do
    match ← ses.build how with
    | .ok object => do
      Object.dropAny (ses.objects.get? name)
      return (.done, ses.objects.insert name object)
    | .error reply => return (reply, ses.objects)
  | .use name what =>
    match ses.objects.get? name with
    | some object => do
      let (reply, object') ← object.use ses.source what
      return (reply, ses.objects.insert name object')
    | none => return (.noObject, ses.objects)
  | .drop name =>
    match ses.objects.get? name with
    | some object => do
      object.drop
      return (.done, ses.objects.erase name)
    | none => return (.noObject, ses.objects)

/-- What one command brought. -/
structure Outcome where
  reply : Reply
  tally : Tally
  /-- The log records that the command wrote. -/
  records : List LogRecord

def step (ses : Session) (c : Command) : Outcome × Session :=
  let t := ses.answer c
  let tally := ses.tally.addAll t.events
  (⟨t.value.1, tally, t.records ses.known⟩,
    ⟨ses.source, t.value.2, tally, ses.known ++ t.lookedUp⟩)

/-- Runs commands one after another. -/
def run (ses : Session) : List Command → List Outcome × Session
  | [] => ([], ses)
  | c :: rest =>
    let (outcome, moved) := ses.step c
    let (outcomes, final) := moved.run rest
    (outcome :: outcomes, final)

def dropAll : List (String × Object) → Traced Unit
  | [] => pure ()
  | (_, object) :: rest => do
    object.drop
    dropAll rest

/-- The counts after every object that is left has been dropped. -/
def finish (ses : Session) : Tally := ses.tally.addAll (dropAll ses.objects.toList).events

end Session

end Recordset
