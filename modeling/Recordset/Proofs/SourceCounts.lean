import Recordset.Proofs.ObjectAnswers
import Recordset.Proofs.StreamUses

/-!
# What a source counts

A source counts the cursors that it opens and the rows that it delivers. What a command opens
(`Session.opens`) is told from the objects and the scripts, and so is how many rows it delivers
(`Session.delivers`): a bare cursor and a reader hand out their rows one by one, a stream goes on
along its course, and a query is listed along the whole of it. `tally_run` is the top lemma and says
that a tally grows by just that, one command after another. All of it comes from one source, which
every stream of the session reads from (`Shares.run`), and which answers a statement by what was
registered for it last (`openFeed_registerAll`).
-/

set_option autoImplicit false

namespace Recordset

namespace Action

/-- Whether a stream is advanced at least once. -/
def pulls : Action → Bool
  | advance | next | drain | collect | take (_ + 1) => true
  | _ => false

/-- How often a stream is advanced that finds its end with the given advance. -/
def advances (toEnd : Nat) : Action → Nat
  | advance | next => 1
  | take n => min n toEnd
  | drain | collect => toEnd
  | _ => 0

/-- Whether an object is only looked at. Looking takes the record at hand, but not from the
cursor. -/
def looks : Action → Bool
  | readerIsClosed | readerStatement | tableInfo | queryInfo | queryStatement | current
  | takeCurrent | phase | streamStatement => true
  | _ => false

theorem advances_pos {what : Action} (h : what.pulls = true) {toEnd : Nat} (hend : 0 < toEnd) :
    0 < what.advances toEnd := by
  cases what with
  | advance | next => exact Nat.one_pos
  | take n =>
    cases n with
    | zero => cases h
    | succ n => exact Nat.lt_min.2 ⟨Nat.succ_pos n, hend⟩
  | drain | collect => exact hend
  | _ => cases h

theorem exists_pull {what : Action} (h : what.pulls = true) : ∃ p : Pull, p.action = what := by
  cases what with
  | advance => exact ⟨.advance, rfl⟩
  | next => exact ⟨.next, rfl⟩
  | take n => exact ⟨.take n, rfl⟩
  | drain => exact ⟨.drain, rfl⟩
  | collect => exact ⟨.collect, rfl⟩
  | _ => cases h

end Action

/-! ## Rows that a stream is delivered -/

namespace Course

variable {M : Model}

/-- A pull goes on by as many places as the advances that it makes. -/
theorem advances_pull (c : Course M) (here : Place M) (p : Pull) :
    (c.pull here p).2.advances =
      here.advances + p.action.advances (c.advancesToEnd here.advances) := by
  cases p with
  | advance =>
    simp only [pull]
    split <;> rfl
  | _ => rfl

end Course

namespace RecordStream

variable {M : Model}

/-- How many advances it takes a stream to find every item that lies ahead, and the end. -/
def toEnd (st : RecordStream M) : Nat := (st.ahead 0).advancesToEnd 0

/-- However a stream came to where it is, it stands at a place of a course with no rows read before.
What comes after that place is what lies ahead of the stream. -/
theorem exists_at (st : RecordStream M) : ∃ (c : Course M) (here : Course.Place M), st.At c here ∧
    (c.after here.advances).2 = 0 ∧ c.advancesToEnd here.advances = st.toEnd ∧
      ∀ k, c.after (here.advances + (k + 1)) = (st.ahead 0).after (k + 1) := by
  obtain ⟨src, s, onMismatch, progress⟩ := st
  cases progress with
  | idle =>
    refine ⟨.ofStatement M src s onMismatch 0, .start, at_start src s onMismatch, rfl, rfl,
      fun k => ?_⟩
    show Course.after _ (0 + (k + 1)) = _
    rw [Nat.zero_add]
    rfl
  | reading feed current =>
    -- It reads because it found an item, and any record will do for that one.
    let found : Except Failure M.Record := .ok (Record.initial M.type)
    refine ⟨.cons (found, 0) (.ofFeed M s onMismatch 0 feed), ⟨1, current⟩, ⟨rfl, rfl, rfl⟩, rfl,
      ?_, fun k => ?_⟩
    · simp only [toEnd, Course.advancesToEnd, Course.cons, List.length_cons, ahead]
      omega
    · show Course.after _ (1 + (k + 1)) = _
      rw [Nat.add_comm]
      simp only [Course.after, Course.cons, List.getElem?_cons_succ, ahead]
  | exhausted =>
    refine ⟨⟨[], (.exhausted, 0)⟩, ⟨1, none⟩, ⟨rfl, rfl, rfl⟩, rfl, rfl, fun k => ?_⟩
    show Course.after _ (1 + (k + 1)) = _
    rw [Nat.add_comm]
    rfl
  | disposed =>
    refine ⟨⟨[], (.disposed, 0)⟩, ⟨1, none⟩, ⟨rfl, rfl, rfl⟩, rfl, rfl, fun k => ?_⟩
    show Course.after _ (1 + (k + 1)) = _
    rw [Nat.add_comm]
    rfl

theorem executed_collect (st : RecordStream M) : st.collect.executed = st.opens := by
  rw [collect, Traced.executed_bind, drain, st.executed_take, if_neg (Nat.succ_ne_zero _)]
  exact List.append_nil _

theorem reads_reset (st : RecordStream M) : st.reset.count Event.isRowRead = 0 := by
  obtain ⟨src, s, onMismatch, progress⟩ := st
  cases progress <;> rfl

theorem executed_reset (st : RecordStream M) : st.reset.executed = [] := by
  obtain ⟨src, s, onMismatch, progress⟩ := st
  cases progress <;> rfl

end RecordStream

namespace Object

variable {M : Model}

/-- A pull reads the rows up to where its advances end on the course ahead, and leaves the stream in
the phase that the course has there. -/
theorem reads_pull (st : RecordStream M) (p : Pull) :
    (useStream M st p.action).count Event.isRowRead =
        ((st.ahead 0).after (p.action.advances st.toEnd)).2 ∧
      ∃ moved : RecordStream M, (useStream M st p.action).value.2 = stream M moved ∧
        (0 < p.action.advances st.toEnd →
          moved.phase = ((st.ahead 0).after (p.action.advances st.toEnd)).1) := by
  obtain ⟨c, here, hat, hread, hend, hafter⟩ := st.exists_at
  obtain ⟨⟨moved, hvalue, hmoved⟩, hcount⟩ := useStream_pull p hat
  have hphase := hmoved.phase
  rw [c.advances_pull here p, hend] at hcount hphase
  rw [hread, Nat.zero_add] at hcount
  refine ⟨?_, moved, congrArg Prod.snd hvalue, ?_⟩
  · cases hk : p.action.advances st.toEnd with
    | zero =>
      rw [hcount, hk]
      exact hread
    | succ k => rw [hcount, hk, hafter]
  · intro hpos
    obtain ⟨k, hk⟩ := Nat.exists_eq_add_of_lt hpos
    rw [Nat.zero_add] at hk
    rw [hphase, hk, hafter]

theorem reads_useStream (st : RecordStream M) (what : Action) :
    (useStream M st what).count Event.isRowRead =
      ((st.ahead 0).after (what.advances st.toEnd)).2 := by
  cases what with
  | advance => exact (reads_pull st .advance).1
  | next => exact (reads_pull st .next).1
  | take n => exact (reads_pull st (.take n)).1
  | drain => exact (reads_pull st .drain).1
  | collect => exact (reads_pull st .collect).1
  | reset =>
    rw [useStream, Traced.count_bind, st.reads_reset]
    rfl
  | dispose =>
    rw [useStream, Traced.count_bind, st.reads_dispose]
    rfl
  | _ => rfl

/-- A stream opens the cursor of its statement with its first advance. -/
theorem executed_useStream (st : RecordStream M) (what : Action) :
    (useStream M st what).executed = if what.pulls then st.opens else [] := by
  cases what with
  | advance =>
    rw [useStream, Traced.executed_bind, st.executed_advance]
    obtain ⟨found, moved⟩ := st.advance.value
    cases found <;> exact List.append_nil _
  | next =>
    rw [useStream, Traced.executed_bind, st.executed_next.1]
    exact List.append_nil _
  | take n =>
    rw [useStream, Traced.executed_bind, st.executed_take n]
    cases n <;> exact List.append_nil _
  | drain =>
    rw [useStream, Traced.executed_bind, RecordStream.drain, st.executed_take]
    exact List.append_nil _
  | collect =>
    rw [useStream, Traced.executed_bind, st.executed_collect]
    obtain ⟨records, moved⟩ := st.collect.value
    cases records <;> exact List.append_nil _
  | reset =>
    rw [useStream, Traced.executed_bind, st.executed_reset]
    rfl
  | dispose =>
    rw [useStream, Traced.executed_bind, st.executed_dispose]
    rfl
  | _ => rfl

end Object

/-! ## What an action opens and delivers -/

/-- How many rows a reply hands out. -/
def Reply.handed : Reply → Nat
  | .row (some _) => 1
  | _ => 0

namespace Object

/-- The statements that an action opens cursors for. -/
def opens (src : Source) : Object → Action → List Statement
  | query q, .queryToList =>
    match q.clause.statement q.table.settings.methods q.table.name with
    | .ok s => s.opens src
    | .error _ => []
  | stream _ st, what => if what.pulls then st.opens else []
  | cursor _, _ | reader _, _ | table _, _ | query _, _ => []

/-- How many rows an action has a cursor deliver: the row that is handed out by a bare cursor or a
reader, those up to where a stream is advanced to, and all that a query lists or leaves out. -/
def delivers (src : Source) : Object → Action → Nat
  | cursor c, what => (useCursor c what).value.1.handed
  | reader r, what => (useReader r what).value.1.handed
  | query q, .queryToList =>
    match q.clause.statement q.table.settings.methods q.table.name with
    | .ok s => (q.course src s).stop.2
    | .error _ => 0
  | stream _ st, what => ((st.ahead 0).after (what.advances st.toEnd)).2
  | table _, _ | query _, _ => 0

theorem counts_useCursor (c : Cursor) (what : Action) :
    (useCursor c what).executed = [] ∧
      (useCursor c what).count Event.isRowRead = (useCursor c what).value.1.handed := by
  cases what with
  | cursorNext =>
    cases c with
    | closed => exact ⟨rfl, rfl⟩
    | live feed => cases feed <;> exact ⟨rfl, rfl⟩
  | cursorClose => cases c <;> exact ⟨rfl, rfl⟩
  | _ => exact ⟨rfl, rfl⟩

theorem counts_useReader (r : Reader) (what : Action) :
    (useReader r what).executed = [] ∧
      (useReader r what).count Event.isRowRead = (useReader r what).value.1.handed := by
  obtain ⟨s, c⟩ := r
  cases what with
  | readerRead =>
    cases c with
    | closed => exact ⟨rfl, rfl⟩
    | live feed => cases feed <;> exact ⟨rfl, rfl⟩
  | readerClose => cases c <;> exact ⟨rfl, rfl⟩
  | _ => exact ⟨rfl, rfl⟩

theorem counts_useQuery (src : Source) (q : Query) (what : Action) :
    (useQuery src q what).executed = (query q).opens src what ∧
      (useQuery src q what).count Event.isRowRead = (query q).delivers src what := by
  cases what with
  | queryStatement =>
    rw [useQuery, Query.statement]
    cases q.clause.statement q.table.settings.methods q.table.name <;> exact ⟨rfl, rfl⟩
  | queryToList =>
    have hlisted : (useQuery src q .queryToList).executed = (q.toList src).executed ∧
        (useQuery src q .queryToList).count Event.isRowRead =
          (q.toList src).count Event.isRowRead := by
      rw [useQuery, Traced.executed_bind, Traced.count_bind]
      cases (q.toList src).value <;> exact ⟨List.append_nil _, rfl⟩
    rw [hlisted.1, hlisted.2]
    simp only [opens, delivers]
    cases h : q.clause.statement q.table.settings.methods q.table.name with
    | ok s => exact ⟨Query.executed_toList h, (Query.value_toList h).2⟩
    | error e =>
      have hrun : q.toList src = pure (.error e) := by
        unfold Query.toList Query.stream Query.statement
        rw [h]
        rfl
      rw [hrun]
      exact ⟨rfl, rfl⟩
  | _ => exact ⟨rfl, rfl⟩

/-- Whatever an object is used for, it opens and delivers what is told from the object alone. -/
theorem counts_use (src : Source) (o : Object) (what : Action) :
    (o.use src what).executed = o.opens src what ∧
      (o.use src what).count Event.isRowRead = o.delivers src what := by
  cases o with
  | cursor c => exact counts_useCursor c what
  | reader r => exact counts_useReader r what
  | table t => cases what <;> exact ⟨rfl, rfl⟩
  | query q => exact counts_useQuery src q what
  | stream M st => exact ⟨executed_useStream st what, reads_useStream st what⟩

/-- To let go of an object opens and delivers nothing. -/
theorem counts_drop (o : Object) :
    o.drop.executed = [] ∧ o.drop.count Event.isRowRead = 0 := by
  cases o with
  | reader r =>
    obtain ⟨s, c⟩ := r
    cases c <;> exact ⟨rfl, rfl⟩
  | stream M st =>
    rw [drop, Traced.executed_bind, Traced.count_bind, st.executed_dispose, st.reads_dispose]
    exact ⟨rfl, rfl⟩
  | _ => exact ⟨rfl, rfl⟩

theorem counts_dropAny (o : Option Object) :
    (dropAny o).executed = [] ∧ (dropAny o).count Event.isRowRead = 0 := by
  cases o with
  | none => exact ⟨rfl, rfl⟩
  | some o => exact o.counts_drop

end Object

/-- The statements that a making opens cursors for. -/
def Making.opens (src : Source) : Making → List Statement
  | .cursor s | .reader s => s.opens src
  | _ => []

theorem Cursor.counts_create (src : Source) (s : Statement) :
    (create src s).executed = s.opens src ∧ (create src s).count Event.isRowRead = 0 := by
  unfold create Source.openFeed Statement.opens
  cases src.script? s with
  | none => exact ⟨rfl, rfl⟩
  | some script => cases script <;> exact ⟨rfl, rfl⟩

theorem Reader.counts_create (src : Source) (s : Statement) :
    (create src s).executed = s.opens src ∧ (create src s).count Event.isRowRead = 0 := by
  unfold create Statement.acquire Source.openFeed Statement.opens
  cases src.script? s with
  | none => exact ⟨rfl, rfl⟩
  | some script => cases script <;> exact ⟨rfl, rfl⟩

theorem Query.counts_stream (q : Query) (src : Source) :
    (q.stream src).executed = [] ∧ (q.stream src).count Event.isRowRead = 0 := by
  unfold stream statement
  cases q.clause.statement q.table.settings.methods q.table.name with
  | ok s => simp [RecordStream.reads_create, Event.isRowRead]
  | error e => exact ⟨rfl, rfl⟩

namespace Session

theorem counts_build (ses : Session) (how : Making) :
    (ses.build how).executed = how.opens ses.source ∧
      (ses.build how).count Event.isRowRead = 0 := by
  cases how with
  | cursor s =>
    obtain ⟨hexecuted, hreads⟩ := Cursor.counts_create ses.source s
    rw [build, Traced.executed_bind, Traced.count_bind, hexecuted, hreads]
    cases (Cursor.create ses.source s).value <;> exact ⟨List.append_nil _, rfl⟩
  | reader s =>
    obtain ⟨hexecuted, hreads⟩ := Reader.counts_create ses.source s
    rw [build, Traced.executed_bind, Traced.count_bind, hexecuted, hreads]
    cases (Reader.create ses.source s).value <;> exact ⟨List.append_nil _, rfl⟩
  | table model name choice =>
    simp only [build]
    cases choice.settings? <;> exact ⟨rfl, rfl⟩
  | copy table =>
    simp only [build]
    cases ses.table? table <;> exact ⟨rfl, rfl⟩
  | retuned table choice =>
    simp only [build]
    cases ses.table? table with
    | none => exact ⟨rfl, rfl⟩
    | some t => cases choice.settings? <;> exact ⟨rfl, rfl⟩
  | query table clause =>
    simp only [build]
    cases ses.table? table <;> exact ⟨rfl, rfl⟩
  | streamOf query =>
    simp only [build]
    cases ses.query? query with
    | none => exact ⟨rfl, rfl⟩
    | some q =>
      obtain ⟨hexecuted, hreads⟩ := q.counts_stream ses.source
      simp only [Traced.executed_bind, Traced.count_bind, hexecuted, hreads]
      cases (q.stream ses.source).value <;> exact ⟨rfl, rfl⟩
  | stream model s onMismatch => simp [build, RecordStream.reads_create, Making.opens]

/-- The statements that a command opens cursors for. -/
def opens (ses : Session) : Command → List Statement
  | .make _ how => how.opens ses.source
  | .use name what =>
    match ses.objects.get? name with
    | some o => o.opens ses.source what
    | none => []
  | .drop _ => []

/-- How many rows a command has cursors deliver. -/
def delivers (ses : Session) : Command → Nat
  | .use name what =>
    match ses.objects.get? name with
    | some o => o.delivers ses.source what
    | none => 0
  | .make _ _ | .drop _ => 0

theorem counts_answer (ses : Session) (c : Command) :
    (ses.answer c).executed = ses.opens c ∧
      (ses.answer c).count Event.isRowRead = ses.delivers c := by
  cases c with
  | make name how =>
    obtain ⟨hexecuted, hreads⟩ := ses.counts_build how
    simp only [answer, opens, delivers, Traced.executed_bind, Traced.count_bind, hexecuted, hreads]
    cases (ses.build how).value with
    | error reply => exact ⟨List.append_nil _, rfl⟩
    | ok o =>
      obtain ⟨hold, hold'⟩ := Object.counts_dropAny (ses.objects.get? name)
      simp only [Traced.executed_bind, Traced.count_bind, hold, hold']
      exact ⟨List.append_nil _, rfl⟩
  | use name what =>
    simp only [answer, opens, delivers]
    cases ses.objects.get? name with
    | none => exact ⟨rfl, rfl⟩
    | some o =>
      obtain ⟨hexecuted, hreads⟩ := o.counts_use ses.source what
      simp only [Traced.executed_bind, Traced.count_bind, hexecuted, hreads]
      exact ⟨List.append_nil _, rfl⟩
  | drop name =>
    simp only [answer, opens, delivers]
    cases ses.objects.get? name with
    | none => exact ⟨rfl, rfl⟩
    | some o =>
      obtain ⟨hexecuted, hreads⟩ := o.counts_drop
      simp only [Traced.executed_bind, Traced.count_bind, hexecuted, hreads]
      exact ⟨rfl, rfl⟩

end Session

/-! ## What a run of commands counts -/

/-- A tally after openings, closings and rows more. -/
def Tally.plusCounts (t : Tally) (opens : List Statement) (closes rows : Nat) : Tally :=
  ⟨t.executed ++ opens, t.opened + opens.length, t.closed + closes, t.rowsRead + rows⟩

/-- No count of the first tally is beyond that of the second, which has executed the same statements
first. -/
structure Tally.GrowsTo (t t' : Tally) : Prop where
  executed : t.executed <+: t'.executed
  opened : t.opened ≤ t'.opened
  closed : t.closed ≤ t'.closed
  rowsRead : t.rowsRead ≤ t'.rowsRead

namespace Session

/-- A command adds what it opens to the tally, and the rows that it delivers. -/
theorem tally_step (ses : Session) (c : Command) :
    (ses.step c).2.tally = ses.tally.plusCounts (ses.opens c)
      ((ses.answer c).count Event.isClosed) (ses.delivers c) := by
  obtain ⟨hexecuted, hreads⟩ := ses.counts_answer c
  have hopened := (ses.answer c).length_executed
  show ses.tally.addAll (ses.answer c).events = _
  rw [Tally.addAll_events, Tally.plusCounts, ← hopened, hexecuted, hreads]

/-- The statements that a run of commands opens cursors for, one command after another. -/
def openings (ses : Session) : List Command → List Statement
  | [] => []
  | c :: rest => ses.opens c ++ (ses.step c).2.openings rest

/-- How many rows a run of commands has cursors deliver. -/
def deliveries (ses : Session) : List Command → Nat
  | [] => 0
  | c :: rest => ses.delivers c + (ses.step c).2.deliveries rest

/-- A run of commands adds up what its steps add, by induction on the commands. -/
theorem tally_run (ses : Session) (cmds : List Command) :
    ∃ closes, (ses.run cmds).2.tally =
      ses.tally.plusCounts (ses.openings cmds) closes (ses.deliveries cmds) := by
  induction cmds generalizing ses with
  | nil => exact ⟨0, by simp [run, openings, deliveries, Tally.plusCounts]⟩
  | cons c rest ih =>
    obtain ⟨closes, hrest⟩ := ih (ses.step c).2
    refine ⟨(ses.answer c).count Event.isClosed + closes, ?_⟩
    show ((ses.step c).2.run rest).2.tally = _
    rw [hrest, tally_step]
    simp only [Tally.plusCounts, openings, deliveries, List.append_assoc, List.length_append,
      Nat.add_assoc]

theorem growsTo_run (ses : Session) (cmds : List Command) :
    ses.tally.GrowsTo (ses.run cmds).2.tally := by
  obtain ⟨closes, htally⟩ := ses.tally_run cmds
  rw [htally]
  exact ⟨List.prefix_append _ _, Nat.le_add_right _ _, Nat.le_add_right _ _, Nat.le_add_right _ _⟩

end Session

/-! ## Statements that were registered more than once -/

/-- Registers scripts one after another. -/
def Source.registerAll (src : Source) (regs : List (Statement × Script)) : Source :=
  regs.foldl (fun src r => src.register r.1 r.2) src

/-- How a source that goes by the script opens a cursor. -/
def Script.answer : Script → Except String Feed
  | rows feed => .ok feed
  | refuse message => .error message

namespace Source

theorem script?_register (src : Source) (s t : Statement) (script : Script) :
    (src.register s script).script? t = if t.text = s.text then some script else src.script? t :=
  NameMap.get?_insert _ _ _ _

theorem script?_registerAll_of_ne {regs : List (Statement × Script)} {s : Statement}
    (h : ∀ r ∈ regs, r.1.text ≠ s.text) (src : Source) :
    (src.registerAll regs).script? s = src.script? s := by
  induction regs generalizing src with
  | nil => rfl
  | cons r rest ih =>
    have hrest := ih (fun r' hr' => h r' (List.mem_cons_of_mem r hr')) (src.register r.1 r.2)
    have hne : ¬ s.text = r.1.text := fun heq => h r List.mem_cons_self heq.symm
    rw [script?_register, if_neg hne] at hrest
    exact hrest

/-- Of the scripts that were registered for a statement, the last one answers. -/
theorem openFeed_registerAll (src : Source) (before : List (Statement × Script)) (s : Statement)
    (script : Script) {after : List (Statement × Script)}
    (h : ∀ r ∈ after, r.1.text ≠ s.text) :
    ((src.registerAll (before ++ (s, script) :: after)).openFeed s).value = script.answer := by
  have hscript : (src.registerAll (before ++ (s, script) :: after)).script? s = some script := by
    unfold registerAll
    rw [List.foldl_append, List.foldl_cons]
    refine (script?_registerAll_of_ne h _).trans ?_
    rw [script?_register, if_pos rfl]
  unfold openFeed
  rw [hscript]
  cases script <;> rfl

end Source

/-! ## One source for all -/

/-- The object has no source of its own, or has this one. -/
def Object.ReadsFrom (src : Source) : Object → Prop
  | stream _ st => st.source = src
  | cursor _ | reader _ | table _ | query _ => True

namespace Object

variable {src : Source}

theorem ReadsFrom.use {o : Object} (h : o.ReadsFrom src) (src' : Source) (what : Action) :
    (o.use src' what).value.2.ReadsFrom src := by
  cases o with
  | cursor c =>
    obtain ⟨moved, hmoved⟩ := exists_useCursor c what
    show (useCursor c what).value.2.ReadsFrom src
    rw [hmoved]
    trivial
  | reader r =>
    obtain ⟨moved, hmoved⟩ := exists_useReader r what
    show (useReader r what).value.2.ReadsFrom src
    rw [hmoved]
    trivial
  | table t =>
    show (useTable t what).value.2.ReadsFrom src
    rw [useTable_eq]
    trivial
  | query q =>
    show (useQuery src' q what).value.2.ReadsFrom src
    rw [useQuery_eq]
    trivial
  | stream M st =>
    obtain ⟨progress, hmoved, -⟩ := logged_useStream st what
    show (useStream M st what).value.2.ReadsFrom src
    rw [hmoved]
    exact h

end Object

namespace Session

theorem readsFrom_build (ses : Session) {how : Making} {o : Object}
    (h : (ses.build how).value = .ok o) : o.ReadsFrom ses.source := by
  cases how with
  | cursor s =>
    rw [build, Traced.value_bind] at h
    cases hcursor : (Cursor.create ses.source s).value <;> rw [hcursor] at h <;> cases h
    trivial
  | reader s =>
    rw [build, Traced.value_bind] at h
    cases hreader : (Reader.create ses.source s).value <;> rw [hreader] at h <;> cases h
    trivial
  | table model name choice =>
    simp only [build] at h
    cases hsettings : choice.settings? <;> rw [hsettings] at h <;> cases h
    trivial
  | copy table =>
    simp only [build] at h
    cases htable : ses.table? table <;> rw [htable] at h <;> cases h
    trivial
  | retuned table choice =>
    simp only [build] at h
    cases htable : ses.table? table <;> cases hsettings : choice.settings? <;>
      simp only [htable, hsettings] at h <;> cases h
    trivial
  | query table clause =>
    simp only [build] at h
    cases htable : ses.table? table <;> rw [htable] at h <;> cases h
    trivial
  | streamOf query =>
    simp only [build] at h
    cases hquery : ses.query? query with
    | none =>
      rw [hquery] at h
      cases h
    | some q =>
      rw [hquery] at h
      simp only [Traced.value_bind, Query.stream] at h
      cases hstatement : q.statement.value <;> rw [hstatement] at h <;> cases h
      rfl
  | stream model s onMismatch =>
    cases h
    rfl

/-- Every stream of the session reads from the source of the session. -/
def Shares (ses : Session) : Prop :=
  ∀ name o, ses.objects.get? name = some o → o.ReadsFrom ses.source

variable {ses : Session}

theorem Shares.insert (h : ses.Shares) {o : Object} (ho : o.ReadsFrom ses.source) (name : String)
    (tally : Tally) (known : List Nat) :
    (Session.mk ses.source (ses.objects.insert name o) tally known).Shares := by
  intro name' o' hget
  rw [NameMap.get?_insert] at hget
  split at hget
  · exact Option.some.inj hget ▸ ho
  · exact h name' o' hget

/-- The objects after a command are those before it, but for one that was made, used or let
go of. -/
theorem Shares.step (h : ses.Shares) (c : Command) : (ses.step c).2.Shares := by
  cases c with
  | make name how =>
    unfold Session.step answer
    simp only [Traced.value_bind]
    cases hvalue : (ses.build how).value with
    | error reply => exact h
    | ok o => exact h.insert (ses.readsFrom_build hvalue) name _ _
  | use name what =>
    cases hname : ses.objects.get? name with
    | none =>
      simp only [Session.step, answer, hname]
      exact h
    | some o =>
      rw [step_use hname]
      exact h.insert ((h name o hname).use ses.source what) name _ _
  | drop name =>
    cases hname : ses.objects.get? name with
    | none =>
      simp only [Session.step, answer, hname]
      exact h
    | some o =>
      simp only [Session.step, answer, hname]
      intro name' o' hget
      change (ses.objects.erase name).get? name' = some o' at hget
      rw [NameMap.get?_erase] at hget
      split at hget
      · cases hget
      · exact h name' o' hget

theorem Shares.run (h : ses.Shares) (cmds : List Command) :
    (ses.run cmds).2.Shares ∧ (ses.run cmds).2.source = ses.source := by
  induction cmds generalizing ses with
  | nil => exact ⟨h, rfl⟩
  | cons c rest ih => exact ih (h.step c)

theorem shares_start (src : Source) : (start src).Shares := by
  intro name o hget
  cases hget

end Session

end Recordset
