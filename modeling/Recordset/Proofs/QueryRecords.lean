import Recordset.Proofs.CursorAccounts
import Recordset.Proofs.RowDecoding
import Recordset.Proofs.StreamPulls

/-!
# The records of a query

Listing the records of a query turns it into a statement, opens a cursor, reads the rows and closes
the cursor again. What comes out depends on the rows of the script alone: `Model.firstMismatch?`
looks for the row that ends the reading, and otherwise every row that is a record counts.
`toList_of_rows` is the top theorem. It gives the answer for every source, policy and clause, and
says what the source has counted by then, whether the answer is a success or a failure.
-/

set_option autoImplicit false

namespace Recordset

/-- A row that is no record has a column whose cell does not fit its field. -/
theorem Mapping.exists_mismatch_of_decode {R : RecordType} {m : Mapping R} {row : Row}
    {e : Failure} (h : m.decode row = .error e) :
    ∃ column expected actual, e = .mismatch column expected actual := by
  obtain ⟨-, b, -, actual, -, -, -, he⟩ := (m.decode_eq_error_iff row e).1 h
  exact ⟨b.column, b.type, actual, he⟩

namespace Model

/-- The record that a row is read as, if it is one. -/
def record? (M : Model) (row : Row) : Option M.Record := (M.mapping.decode row).toOption

/-- Why a row is no record, unless it is one. -/
def mismatch? (M : Model) (row : Row) : Option Failure :=
  match M.mapping.decode row with
  | .ok _ => none
  | .error e => some e

/-- Why the first row that ends the reading is no record, if any row ends it. -/
def firstMismatch? (M : Model) (onMismatch : OnMismatch) (rows : List Row) : Option Failure :=
  match onMismatch with
  | .fail => rows.findSome? M.mismatch?
  | .skipRow => none

/-- What a list of rows is read as when the given failure follows the last one, if any does. -/
def readAll (M : Model) (onMismatch : OnMismatch) (failure : Option Failure) (rows : List Row) :
    Except Failure (List M.Record) :=
  match M.firstMismatch? onMismatch rows, failure with
  | some e, _ => .error e
  | none, some e => .error e
  | none, none => .ok (rows.filterMap M.record?)

/-- How many rows are read: those up to the one that ends the reading, or all of them. -/
def rowsRead (M : Model) (onMismatch : OnMismatch) (rows : List Row) : Nat :=
  if (M.firstMismatch? onMismatch rows).isSome then
    rows.findIdx (fun row => (M.mismatch? row).isSome) + 1
  else rows.length

variable {M : Model} {onMismatch : OnMismatch} {failure : Option Failure} {row : Row}
  {rest : List Row}

theorem firstMismatch?_of_record {r : M.Record} (h : M.mapping.decode row = .ok r) :
    M.firstMismatch? onMismatch (row :: rest) = M.firstMismatch? onMismatch rest := by
  have hrow : M.mismatch? row = none := by rw [mismatch?, h]
  cases onMismatch with
  | fail => rw [firstMismatch?, List.findSome?_cons, hrow, firstMismatch?]
  | skipRow => rfl

theorem firstMismatch?_of_mismatch {e : Failure} (h : M.mapping.decode row = .error e) :
    M.firstMismatch? .fail (row :: rest) = some e := by
  have hrow : M.mismatch? row = some e := by rw [mismatch?, h]
  rw [firstMismatch?, List.findSome?_cons, hrow]

theorem exists_mismatch_of_first (M : Model) {rows : List Row} {e : Failure}
    (h : M.firstMismatch? onMismatch rows = some e) :
    ∃ column expected actual, e = .mismatch column expected actual := by
  cases onMismatch with
  | skipRow => cases h
  | fail =>
    obtain ⟨row, -, hrow⟩ := List.exists_of_findSome?_eq_some h
    unfold mismatch? at hrow
    cases hdecode : M.mapping.decode row with
    | ok r =>
      rw [hdecode] at hrow
      cases hrow
    | error e' =>
      rw [hdecode] at hrow
      cases hrow
      exact Mapping.exists_mismatch_of_decode hdecode

theorem readAll_of_record {r : M.Record} (h : M.mapping.decode row = .ok r) :
    M.readAll onMismatch failure (row :: rest) =
      match M.readAll onMismatch failure rest with
      | .ok rs => .ok (r :: rs)
      | .error e => .error e := by
  have hrow : M.record? row = some r := by rw [record?, h]; rfl
  unfold readAll
  rw [firstMismatch?_of_record h, List.filterMap_cons_some hrow]
  cases M.firstMismatch? onMismatch rest with
  | some e => rfl
  | none => cases failure <;> rfl

theorem readAll_of_mismatch {e : Failure} (h : M.mapping.decode row = .error e) :
    M.readAll .fail failure (row :: rest) = .error e := by
  unfold readAll
  rw [firstMismatch?_of_mismatch h]

theorem readAll_of_skipped {e : Failure} (h : M.mapping.decode row = .error e) :
    M.readAll .skipRow failure (row :: rest) = M.readAll .skipRow failure rest := by
  have hrow : M.record? row = none := by rw [record?, h]; rfl
  simp only [readAll, firstMismatch?, List.filterMap_cons_none hrow]

theorem rowsRead_of_record {r : M.Record} (h : M.mapping.decode row = .ok r) :
    M.rowsRead onMismatch (row :: rest) = M.rowsRead onMismatch rest + 1 := by
  have hrow : M.mismatch? row = none := by rw [mismatch?, h]
  rw [rowsRead, rowsRead, firstMismatch?_of_record h, List.findIdx_cons, hrow]
  split <;> rfl

theorem rowsRead_of_mismatch {e : Failure} (h : M.mapping.decode row = .error e) :
    M.rowsRead .fail (row :: rest) = 1 := by
  have hrow : M.mismatch? row = some e := by rw [mismatch?, h]
  rw [rowsRead, firstMismatch?_of_mismatch h, List.findIdx_cons, hrow]
  rfl

end Model

namespace Course

variable {M : Model}

/-- The items of a course over rows are put together to what the rows are read as. -/
theorem gather_ofRows (onMismatch : OnMismatch) (failure : Option Failure) (n : Nat)
    (rows : List Row) :
    RecordStream.gather (ofRows M onMismatch failure n rows).results =
      M.readAll onMismatch failure rows := by
  induction rows generalizing n with
  | nil => cases failure <;> cases onMismatch <;> rfl
  | cons row rest ih =>
    cases hdecode : M.mapping.decode row with
    | ok r =>
      rw [Model.readAll_of_record hdecode, ← ih (n + 1)]
      simp only [ofRows, hdecode]
      rfl
    | error e =>
      cases onMismatch with
      | fail =>
        rw [Model.readAll_of_mismatch hdecode]
        simp only [ofRows, hdecode]
        rfl
      | skipRow =>
        rw [Model.readAll_of_skipped hdecode, ← ih (n + 1)]
        simp only [ofRows, hdecode]

theorem stop_ofRows (onMismatch : OnMismatch) (failure : Option Failure) (n : Nat)
    (rows : List Row) :
    (ofRows M onMismatch failure n rows).stop.2 = n + M.rowsRead onMismatch rows := by
  induction rows generalizing n with
  | nil => cases failure <;> cases onMismatch <;> rfl
  | cons row rest ih =>
    have hrest := ih (n + 1)
    cases hdecode : M.mapping.decode row with
    | ok r =>
      rw [Model.rowsRead_of_record hdecode]
      simp only [ofRows, hdecode]
      show (ofRows M onMismatch failure (n + 1) rest).stop.2 = _
      omega
    | error e =>
      cases onMismatch with
      | fail =>
        rw [Model.rowsRead_of_mismatch hdecode]
        simp only [ofRows, hdecode]
        rfl
      | skipRow =>
        have hrows : M.rowsRead .skipRow (row :: rest) = M.rowsRead .skipRow rest + 1 := rfl
        rw [hrows]
        simp only [ofRows, hdecode]
        show (ofRows M .skipRow failure (n + 1) rest).stop.2 = _
        omega

/-- Once every item is taken and the end found, a course has come to its stop. -/
theorem after_advancesToEnd (c : Course M) : c.after (c.advancesToEnd 0) = c.stop := by
  have hnone : c.items[c.items.length]? = none := List.getElem?_eq_none (Nat.le_refl _)
  simp only [advancesToEnd, Nat.sub_zero, after, hnone]

end Course

/-- The statements that opening a cursor executes: the statement itself if it opens. -/
def Statement.opens (s : Statement) (src : Source) : List Statement :=
  match src.script? s with
  | some (.rows _) => [s]
  | some (.refuse _) | none => []

theorem Statement.executed_acquire (s : Statement) (src : Source) :
    (s.acquire src).executed = s.opens src := by
  unfold acquire opens Source.openFeed
  cases src.script? s with
  | none => rfl
  | some script => cases script <;> rfl

namespace RecordStream

variable {M : Model}

theorem executed_moveTo (st : RecordStream M) (next : Progress M) :
    (st.moveTo next).executed = [] := by
  obtain ⟨src, s, onMismatch, progress⟩ := st
  cases progress <;> rfl

theorem executed_seek (s : Statement) (onMismatch : OnMismatch) (feed : Feed) :
    (seek M s onMismatch feed).executed = [] := by
  induction feed with
  | finished => rfl
  | failing message => rfl
  | row row rest ih =>
    simp only [seek, Traced.executed_bind, Traced.executed_emit, Event.statement?]
    cases M.mapping.decode row with
    | ok r => rfl
    | error e =>
      cases onMismatch with
      | fail => rfl
      | skipRow => exact ih

theorem executed_advanceOn (st : RecordStream M) (feed : Feed) :
    (st.advanceOn feed).executed = [] := by
  unfold advanceOn
  rw [Traced.executed_bind, executed_seek]
  cases (seek M st.statement st.onMismatch feed).value with
  | ok found =>
    cases found with
    | some found => rfl
    | none =>
      simp only [Traced.executed_bind, executed_moveTo, Traced.executed_pure, List.append_nil]
  | error e =>
    simp only [Traced.executed_bind, executed_moveTo, Traced.executed_pure, List.append_nil]

/-- The statements that the next advance executes. -/
def opens (st : RecordStream M) : List Statement :=
  match st.progress with
  | .idle => st.statement.opens st.source
  | .reading _ _ | .exhausted | .disposed => []

theorem executed_advance (st : RecordStream M) : st.advance.executed = st.opens := by
  obtain ⟨src, s, onMismatch, progress⟩ := st
  cases progress with
  | reading feed current => exact executed_advanceOn _ feed
  | exhausted => rfl
  | disposed => rfl
  | idle =>
    simp only [advance, opens, Traced.executed_bind, s.executed_acquire]
    cases (s.acquire src).value with
    | ok feed =>
      simp only [Traced.executed_bind, executed_moveTo, executed_advanceOn, List.append_nil]
    | error e =>
      simp only [Traced.executed_bind, executed_moveTo, Traced.executed_pure, List.append_nil]

/-- No stream has its opening before it once it was advanced. -/
theorem opens_advance (st : RecordStream M) : st.advance.value.2.opens = [] := by
  cases st.advanced_advance 0 with
  | found r rest value ahead => rw [value]; rfl
  | ended p closed value ahead => rw [value]; rcases closed with rfl | rfl <;> rfl
  | failed e value ahead => rw [value]; rfl

theorem opens_clearCurrent (st : RecordStream M) : st.clearCurrent.opens = st.opens := by
  obtain ⟨src, s, onMismatch, progress⟩ := st
  cases progress <;> rfl

theorem executed_next (st : RecordStream M) :
    st.next.executed = st.opens ∧ st.next.value.2.opens = [] := by
  have hmoved := st.opens_advance
  unfold next
  rw [Traced.executed_bind, Traced.value_bind, executed_advance]
  generalize st.advance.value = advanced at hmoved ⊢
  obtain ⟨found, moved⟩ := advanced
  cases found with
  | error e => exact ⟨List.append_nil _, hmoved⟩
  | ok found =>
    cases found with
    | false => exact ⟨List.append_nil _, hmoved⟩
    | true => exact ⟨List.append_nil _, (opens_clearCurrent moved).trans hmoved⟩

/-- Taking items opens no cursor but the one that the first advance opens. -/
theorem executed_take (st : RecordStream M) (n : Nat) :
    (st.take n).executed = if n = 0 then [] else st.opens := by
  induction n generalizing st with
  | zero => rfl
  | succ n ih =>
    obtain ⟨hexecuted, hmoved⟩ := st.executed_next
    rw [take, Traced.executed_bind, hexecuted, if_neg (Nat.succ_ne_zero n)]
    generalize st.next.value = pulled at hmoved ⊢
    obtain ⟨item, moved⟩ := pulled
    cases item with
    | none => exact List.append_nil _
    | some x =>
      have hrest := ih moved
      rw [show moved.opens = [] from hmoved, ite_self] at hrest
      simp only [Traced.executed_bind, hrest, Traced.executed_pure, List.append_nil]

theorem executed_dispose (st : RecordStream M) : st.dispose.executed = [] := by
  obtain ⟨src, s, onMismatch, progress⟩ := st
  cases progress <;> rfl

theorem reads_create (src : Source) (s : Statement) (onMismatch : OnMismatch) :
    (create src s onMismatch : Traced (RecordStream M)).count Event.isRowRead = 0 := by
  rw [create, Traced.count_bind, Traced.count_logAll (fun _ => rfl), Traced.count_pure]

@[simp] theorem executed_create (src : Source) (s : Statement) (onMismatch : OnMismatch) :
    (create src s onMismatch : Traced (RecordStream M)).executed = [] := by
  rw [create, Traced.executed_bind, Traced.executed_logAll, Traced.executed_pure, List.nil_append]

theorem reads_dispose (st : RecordStream M) : st.dispose.count Event.isRowRead = 0 := by
  obtain ⟨src, s, onMismatch, progress⟩ := st
  cases progress <;> rfl

end RecordStream

namespace Query

/-- The course of the stream that a query makes for its statement. -/
def course (q : Query) (src : Source) (s : Statement) : Course q.table.model :=
  .ofStatement q.table.model src s q.table.settings.onMismatch 0

section Stated

variable {q : Query} {src : Source} {s : Statement} (before : Tally)
  (h : q.clause.statement q.table.settings.methods q.table.name = .ok s)

include h

theorem stream_of_statement :
    q.stream src = do
      Traced.log (.stated q.table.name s)
      return .ok (← RecordStream.create src s q.table.settings.onMismatch) := by
  unfold stream statement
  rw [h]
  rfl

/-- Listing takes the course of the stream from its start to its stop. -/
theorem value_toList :
    (q.toList src).value = RecordStream.gather (q.course src s).results ∧
      (q.toList src).count Event.isRowRead = (q.course src s).stop.2 := by
  obtain ⟨-, hitems, hrows⟩ := (RecordStream.at_start (M := q.table.model) src s
    q.table.settings.onMismatch).drain
  have hstop : (q.course src s).after (0 + (q.course src s).advancesToEnd 0) =
      (q.course src s).stop := by
    rw [Nat.zero_add, Course.after_advancesToEnd]
  unfold toList
  rw [stream_of_statement h]
  constructor
  · simp only [Traced.value_bind, Traced.value_pure, RecordStream.value_create,
      RecordStream.collect, hitems]
    rfl
  · simp only [Traced.count_bind, Traced.value_bind, Traced.value_pure, RecordStream.value_create,
      RecordStream.collect, Traced.count_pure, Traced.count_log, RecordStream.reads_create,
      RecordStream.reads_dispose, Event.isRowRead, Bool.false_eq_true, if_false, Nat.add_zero,
      Nat.zero_add]
    rw [← hstop]
    exact (Nat.zero_add _).symm.trans hrows

theorem executed_toList : (q.toList src).executed = s.opens src := by
  unfold toList
  rw [stream_of_statement h]
  simp only [Traced.executed_bind, Traced.value_bind, Traced.value_pure, Traced.executed_log,
    RecordStream.value_create, RecordStream.executed_create, RecordStream.collect,
    RecordStream.drain, RecordStream.executed_take, RecordStream.executed_dispose,
    Traced.executed_pure, Nat.succ_ne_zero, if_false,
    List.append_nil, List.nil_append]
  rfl

/-- Listing closes as many cursors as it opens, one or none, so the tally after it depends on the
statement and the course alone. -/
theorem tally_toList :
    before.addAll (q.toList src).events =
      ⟨before.executed ++ s.opens src, before.opened + (s.opens src).length,
        before.closed + (s.opens src).length,
        before.rowsRead + (q.course src s).stop.2⟩ := by
  have hopened := (q.toList src).length_executed
  have hclosed := (q.balanced_toList src).count
  rw [executed_toList h] at hopened
  rw [Bool.toNat_false, Nat.zero_add, Nat.add_zero] at hclosed
  rw [Tally.addAll_events, executed_toList h, (value_toList h).2, ← hclosed, ← hopened]

/-- A statement that no cursor can be opened for fails the listing, which leaves no count. -/
theorem toList_of_unopened {message : String} (hopens : s.opens src = [])
    (hcourse : q.course src s = Course.failed (s.openingFailure message) 0) :
    (q.toList src).value = .error (s.openingFailure message) ∧
      before.addAll (q.toList src).events = before := by
  rw [tally_toList before h, (value_toList h).1, hopens, hcourse]
  exact ⟨rfl, by simp [Course.failed]⟩

theorem value_of_rows {feed : Feed} (hscript : src.script? s = some (.rows feed)) :
    (q.toList src).value = q.table.model.readAll q.table.settings.onMismatch
      (feed.failure?.map s.readingFailure) feed.rows := by
  rw [(value_toList h).1]
  simp only [course, Course.ofStatement, Course.ofFeed, Course.gather_ofRows, hscript]
  rfl

theorem tally_of_rows {feed : Feed} (hscript : src.script? s = some (.rows feed)) :
    before.addAll (q.toList src).events =
      ⟨before.executed ++ [s], before.opened + 1, before.closed + 1, before.rowsRead +
        q.table.model.rowsRead q.table.settings.onMismatch feed.rows⟩ := by
  rw [tally_toList before h]
  simp [course, Course.ofStatement, Course.ofFeed, Course.stop_ofRows, Statement.opens, hscript]

end Stated

/-- The records of a query for every source, settings and clause. A clause without a statement
fails as it does, and so does a statement that no cursor can be opened for; neither is counted.
Otherwise the rows of the script decide: the first one that ends the reading fails it, then a
failure after the rows does, and with neither the records are those of the rows that are records,
in order. Either way one cursor is opened and closed, and the rows up to the one that ends the
reading are read, or all of them. -/
theorem toList_of_rows (q : Query) (src : Source) (before : Tally) :
    let M := q.table.model
    let onMismatch := q.table.settings.onMismatch
    let after := before.addAll (q.toList src).events
    match q.clause.statement q.table.settings.methods q.table.name with
    | .error e => (q.toList src).value = .error e ∧ after = before
    | .ok s =>
      match src.script? s with
      | none =>
        (q.toList src).value = .error (.execution ("opening `" ++ s.text ++ "`")
          (.root ("No result registered for statement: " ++ s.text))) ∧ after = before
      | some (.refuse message) =>
        (q.toList src).value =
          .error (.execution ("opening `" ++ s.text ++ "`") (.root message)) ∧ after = before
      | some (.rows feed) =>
        (match M.firstMismatch? onMismatch feed.rows, feed.failure? with
          | some e, _ => (q.toList src).value = .error e ∧
            ∃ column expected actual, e = .mismatch column expected actual
          | none, some message => (q.toList src).value =
            .error (.execution ("reading `" ++ s.text ++ "`") (.root message))
          | none, none => (q.toList src).value = .ok (feed.rows.filterMap M.record?)) ∧
          after = ⟨before.executed ++ [s], before.opened + 1, before.closed + 1,
            before.rowsRead + M.rowsRead onMismatch feed.rows⟩ := by
  intro M onMismatch after
  cases h : q.clause.statement q.table.settings.methods q.table.name with
  | error e =>
    have hrun : q.toList src = pure (.error e) := by
      unfold toList stream statement
      rw [h]
      rfl
    simp only [after, hrun]
    exact ⟨rfl, rfl⟩
  | ok s =>
    dsimp only
    cases hscript : src.script? s with
    | none =>
      refine toList_of_unopened before h ?_ ?_
      · simp only [Statement.opens, hscript]
      · simp only [course, Course.ofStatement, hscript, Statement.openingFailure]
    | some script =>
      cases script with
      | refuse message =>
        refine toList_of_unopened before h ?_ ?_
        · simp only [Statement.opens, hscript]
        · simp only [course, Course.ofStatement, hscript, Statement.openingFailure]
      | rows feed =>
        refine ⟨?_, tally_of_rows before h hscript⟩
        have hvalue : (q.toList src).value = M.readAll onMismatch
            (feed.failure?.map s.readingFailure) feed.rows := value_of_rows h hscript
        unfold Model.readAll at hvalue
        cases hfirst : M.firstMismatch? onMismatch feed.rows with
        | some e =>
          rw [hfirst] at hvalue
          exact ⟨hvalue, M.exists_mismatch_of_first hfirst⟩
        | none =>
          rw [hfirst] at hvalue
          cases hfailure : feed.failure? <;> rw [hfailure] at hvalue <;> exact hvalue

end Query

end Recordset
