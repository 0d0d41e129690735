import Recordset.Proofs.QueryRecords
import Recordset.Proofs.TypeDescriptions

/-!
# The log of a stream

A stream keeps a log: of every phase that it goes to, of its cursor being opened and closed, and of
the rows that it leaves out. `StreamLog` says what such a log tells, by itself and about the rows
that were read meanwhile. Each computation on a stream adds a piece of log of its own, and pieces
that follow on one another make one log (`Logs.append`). `logs_useAll` says so of everything that a
stream is used for, from its start on.
-/

set_option autoImplicit false

namespace Recordset

namespace Phase

/-- The steps from one phase to another that there are. -/
def steps : List (Phase × Phase) :=
  [(idle, idle), (idle, reading), (idle, disposed),
    (reading, idle), (reading, exhausted), (reading, disposed),
    (exhausted, idle), (exhausted, disposed)]

/-- Steps that follow on one another, from the first phase to the last. -/
def Walk : Phase → List (Phase × Phase) → Phase → Prop
  | old, [], new => old = new
  | old, step :: rest, new => step.1 = old ∧ Walk step.2 rest new

theorem Walk.append {old mid new : Phase} {xs ys : List (Phase × Phase)} (h : old.Walk xs mid)
    (h' : mid.Walk ys new) : old.Walk (xs ++ ys) new := by
  induction xs generalizing old with
  | nil =>
    have heq : old = mid := h
    rw [heq]
    exact h'
  | cons x xs ih => exact ⟨h.1, ih h.2⟩

end Phase

namespace LogRecord

/-- The statement that a record is about, if it is about one. -/
def statement? : LogRecord → Option Statement
  | stated _ s | opened s | closed s | moved s _ _ | skipped s _ => some s
  | described _ => none

/-- The step that a record tells of, if it tells of one. -/
def step? : LogRecord → Option (Phase × Phase)
  | moved _ old new => some (old, new)
  | described _ | stated _ _ | opened _ | closed _ | skipped _ _ => none

def isOpening : LogRecord → Bool
  | opened _ => true
  | described _ | stated _ _ | closed _ | moved _ _ _ | skipped _ _ => false

def isClosing : LogRecord → Bool
  | closed _ => true
  | described _ | stated _ _ | opened _ | moved _ _ _ | skipped _ _ => false

/-- The record tells of a step into the reading of rows. -/
def entersReading : LogRecord → Bool
  | moved _ _ new => new = .reading
  | described _ | stated _ _ | opened _ | closed _ | skipped _ _ => false

/-- The record tells of a step out of the reading of rows. -/
def leavesReading : LogRecord → Bool
  | moved _ old _ => old = .reading
  | described _ | stated _ _ | opened _ | closed _ | skipped _ _ => false

def isWarning (r : LogRecord) : Bool := r.level = .warn

/-- The records that satisfy `p` are those that stand immediately before one that satisfies `q`,
and no record satisfies `q` without one that satisfies `p` before it. -/
def Heralds (p q : LogRecord → Bool) (rs : List LogRecord) : Prop :=
  rs.head?.any q = false ∧ ∀ i : Nat, rs[i]?.any p = rs[i + 1]?.any q

/-- The same said of the two lists of answers: one is the other moved on by one place. -/
theorem heralds_iff {p q : LogRecord → Bool} {rs : List LogRecord} :
    Heralds p q rs ↔ rs.map q ++ [false] = false :: rs.map p := by
  have hfirst : (rs.map q ++ [false])[0]? = some (rs.head?.any q) := by
    cases rs <;> rfl
  have hnext : ∀ i : Nat, i < rs.length →
      (rs.map q ++ [false])[i + 1]? = some (rs[i + 1]?.any q) := by
    intro i hi
    rcases Nat.lt_or_ge (i + 1) rs.length with h | h
    · simp [List.getElem?_append, h]
    · have hlast : i + 1 = rs.length := by omega
      simp [hlast]
  constructor
  · intro ⟨hhead, hrest⟩
    apply List.ext_getElem?
    intro i
    cases i with
    | zero =>
      rw [hfirst, hhead]
      rfl
    | succ i =>
      rcases Nat.lt_or_ge i rs.length with h | h
      · rw [hnext i h, ← hrest i]
        simp [h]
      · simp [h]
  · intro heq
    constructor
    · rw [heq] at hfirst
      exact (Option.some.inj hfirst).symm
    · intro i
      rcases Nat.lt_or_ge i rs.length with h | h
      · have hat := hnext i h
        rw [heq] at hat
        simpa [h] using hat
      · have hpast : rs.length ≤ i + 1 := by omega
        simp [h, hpast]

theorem Heralds.append {p q : LogRecord → Bool} {rs ts : List LogRecord} (h : Heralds p q rs)
    (h' : Heralds p q ts) : Heralds p q (rs ++ ts) := by
  rw [heralds_iff] at h h' ⊢
  rw [List.map_append, List.map_append, List.append_assoc, h', ← List.cons_append, ← h,
    List.append_assoc]
  rfl

end LogRecord

open LogRecord (step? isOpening isClosing entersReading leavesReading isWarning Heralds heralds_iff)

/-- The warnings about the rows that are left out. -/
def Model.warnings (M : Model) (s : Statement) (onMismatch : OnMismatch) (rows : List Row) :
    List LogRecord :=
  match onMismatch with
  | .fail => []
  | .skipRow => (rows.filterMap M.mismatch?).map (.skipped s)

theorem Model.warnings_append (M : Model) (s : Statement) (onMismatch : OnMismatch)
    (rows more : List Row) :
    M.warnings s onMismatch (rows ++ more) =
      M.warnings s onMismatch rows ++ M.warnings s onMismatch more := by
  cases onMismatch with
  | fail => rfl
  | skipRow => simp only [warnings, List.filterMap_append, List.map_append]

/-- What the records of a stream tell that went from one phase to another and read the given rows
on the way. -/
structure StreamLog (M : Model) (s : Statement) (onMismatch : OnMismatch) (old : Phase)
    (records : List LogRecord) (new : Phase) (rows : List Row) : Prop where
  /-- They tell of its own statement only. -/
  own : ∀ r ∈ records, r.statement? = some s
  walk : old.Walk (records.filterMap step?) new
  steps : ∀ step ∈ records.filterMap step?, step ∈ Phase.steps
  opening : Heralds isOpening entersReading records
  closing : Heralds leavesReading isClosing records
  warnings : records.filter isWarning = M.warnings s onMismatch rows

namespace StreamLog

variable {M : Model} {s : Statement} {onMismatch : OnMismatch}

/-- None of the records describes a type, so a process leaves them all. -/
theorem once_eq {old new : Phase} {rs : List LogRecord} {rows : List Row}
    (h : StreamLog M s onMismatch old rs new rows) (known : List Nat) :
    LogRecord.once known rs = rs := by
  apply LogRecord.once_eq_self
  rw [List.filterMap_eq_nil_iff]
  intro r hr
  have hown := h.own r hr
  cases r with
  | described heading => cases hown
  | _ => rfl

theorem append {old mid new : Phase} {rs rs' : List LogRecord} {rows rows' : List Row}
    (h : StreamLog M s onMismatch old rs mid rows)
    (h' : StreamLog M s onMismatch mid rs' new rows') :
    StreamLog M s onMismatch old (rs ++ rs') new (rows ++ rows') := by
  constructor
  · exact List.forall_mem_append.2 ⟨h.own, h'.own⟩
  · rw [List.filterMap_append]
    exact h.walk.append h'.walk
  · rw [List.filterMap_append]
    exact List.forall_mem_append.2 ⟨h.steps, h'.steps⟩
  · exact h.opening.append h'.opening
  · exact h.closing.append h'.closing
  · rw [List.filter_append, h.warnings, h'.warnings, Model.warnings_append]

theorem nil (phase : Phase) : StreamLog M s onMismatch phase [] phase [] where
  own := by simp
  walk := rfl
  steps := by simp
  opening := heralds_iff.2 rfl
  closing := heralds_iff.2 rfl
  warnings := by cases onMismatch <;> rfl

/-- A step that no cursor takes part in. -/
theorem moved {old new : Phase} (hstep : (old, new) ∈ Phase.steps) (hold : old ≠ .reading)
    (hnew : new ≠ .reading) : StreamLog M s onMismatch old [.moved s old new] new [] where
  own := by simp [LogRecord.statement?]
  walk := ⟨rfl, rfl⟩
  steps := by simpa [step?] using hstep
  opening := heralds_iff.2 (by simp [entersReading, isOpening, hnew])
  closing := heralds_iff.2 (by simp [leavesReading, isClosing, hold])
  warnings := by cases onMismatch <;> rfl

theorem entered :
    StreamLog M s onMismatch .idle [.opened s, .moved s .idle .reading] .reading [] where
  own := by simp [LogRecord.statement?]
  walk := ⟨rfl, rfl⟩
  steps := by simp [step?, Phase.steps]
  opening := heralds_iff.2 rfl
  closing := heralds_iff.2 rfl
  warnings := by cases onMismatch <;> rfl

/-- A step out of the reading of rows closes the cursor. -/
theorem left {new : Phase} (hstep : (Phase.reading, new) ∈ Phase.steps) (hnew : new ≠ .reading) :
    StreamLog M s onMismatch .reading [.moved s .reading new, .closed s] new [] where
  own := by simp [LogRecord.statement?]
  walk := ⟨rfl, rfl⟩
  steps := by simpa [step?] using hstep
  opening := heralds_iff.2 (by simp [entersReading, isOpening, hnew])
  closing := heralds_iff.2 (by simp [leavesReading, isClosing])
  warnings := by cases onMismatch <;> rfl

theorem read {row : Row} (h : M.warnings s onMismatch [row] = []) :
    StreamLog M s onMismatch .reading [] .reading [row] :=
  { (nil .reading : StreamLog M s onMismatch .reading [] .reading []) with warnings := h.symm }

theorem skipped {row : Row} {e : Failure} (h : M.mismatch? row = some e) :
    StreamLog M s .skipRow .reading [.skipped s e] .reading [row] where
  own := by simp [LogRecord.statement?]
  walk := rfl
  steps := by simp [step?]
  opening := heralds_iff.2 rfl
  closing := heralds_iff.2 rfl
  warnings := by
    rw [Model.warnings, List.filterMap_cons_some h]
    rfl

end StreamLog

/-- There is a record of every opening of a cursor and of every closing. -/
def Recorded (es : List Event) : Prop :=
  (es.filterMap Event.record?).countP isOpening = es.countP Event.isOpened ∧
    (es.filterMap Event.record?).countP isClosing = es.countP Event.isClosed

theorem Recorded.append {es es' : List Event} (h : Recorded es) (h' : Recorded es') :
    Recorded (es ++ es') := by
  unfold Recorded at *
  simp only [List.filterMap_append, List.countP_append]
  omega

/-- What the events of a stream tell that went from one phase to another and read the given rows
on the way. -/
structure Logs (M : Model) (s : Statement) (onMismatch : OnMismatch) (old : Phase)
    (es : List Event) (new : Phase) (rows : List Row) : Prop where
  log : StreamLog M s onMismatch old (es.filterMap Event.record?) new rows
  reads : es.countP Event.isRowRead = rows.length
  recorded : Recorded es

namespace Logs

variable {M : Model} {s : Statement} {onMismatch : OnMismatch}

theorem append {old mid new : Phase} {es es' : List Event} {rows rows' : List Row}
    (h : Logs M s onMismatch old es mid rows) (h' : Logs M s onMismatch mid es' new rows') :
    Logs M s onMismatch old (es ++ es') new (rows ++ rows') := by
  constructor
  · rw [List.filterMap_append]
    exact h.log.append h'.log
  · rw [List.countP_append, h.reads, h'.reads, List.length_append]
  · exact h.recorded.append h'.recorded

theorem nil (phase : Phase) : Logs M s onMismatch phase [] phase [] :=
  ⟨.nil phase, rfl, rfl, rfl⟩

/-- A step that no cursor takes part in. -/
theorem moved {old new : Phase} (hstep : (old, new) ∈ Phase.steps) (hold : old ≠ .reading)
    (hnew : new ≠ .reading) :
    Logs M s onMismatch old [.logged (.moved s old new)] new [] :=
  ⟨.moved hstep hold hnew, rfl, rfl, rfl⟩

theorem entered : Logs M s onMismatch .idle
    [.opened s, .logged (.opened s), .logged (.moved s .idle .reading)] .reading [] :=
  ⟨.entered, rfl, rfl, rfl⟩

theorem left {new : Phase} (hstep : (Phase.reading, new) ∈ Phase.steps) (hnew : new ≠ .reading) :
    Logs M s onMismatch .reading [.logged (.moved s .reading new), .closed, .logged (.closed s)]
      new [] :=
  ⟨.left hstep hnew, rfl, rfl, rfl⟩

/-- A row that is read without a warning. -/
theorem read {row : Row} (h : M.warnings s onMismatch [row] = []) :
    Logs M s onMismatch .reading [.rowRead] .reading [row] :=
  ⟨.read h, rfl, rfl, rfl⟩

theorem skipped {row : Row} {e : Failure} (h : M.mismatch? row = some e) :
    Logs M s .skipRow .reading [.rowRead, .logged (.skipped s e)] .reading [row] :=
  ⟨.skipped h, rfl, rfl, rfl⟩

end Logs

namespace RecordStream

variable {M : Model}

/-- The rows that a stream has coming from the cursor that it reads, or from the one that it would
open next. -/
def upcoming (st : RecordStream M) : List Row :=
  match st.progress with
  | .idle =>
    match st.source.script? st.statement with
    | some (.rows feed) => feed.rows
    | some (.refuse _) | none => []
  | .reading feed _ => feed.rows
  | .exhausted | .disposed => []

theorem logs_moveTo (st : RecordStream M) (next : Progress M)
    (hstep : (st.phase, next.phase) ∈ Phase.steps) (hnext : next.phase ≠ .reading) :
    Logs M st.statement st.onMismatch st.phase (st.moveTo next).events next.phase [] := by
  obtain ⟨src, s, onMismatch, progress⟩ := st
  cases progress with
  | idle => exact .moved hstep (by simp [phase, Progress.phase]) hnext
  | reading feed current => exact .left hstep hnext
  | exhausted => exact .moved hstep (by simp [phase, Progress.phase]) hnext
  | disposed => exact .moved hstep (by simp [phase, Progress.phase]) hnext

/-- Seeking reads rows from the front of the feed and leaves the rest of them. -/
theorem logs_seek (s : Statement) (onMismatch : OnMismatch) (feed : Feed) :
    ∃ rows rest,
      Logs M s onMismatch .reading (seek M s onMismatch feed).events .reading rows ∧
        feed.rows = rows ++ rest ∧
        ∀ r left, (seek M s onMismatch feed).value = .ok (some (r, left)) → left.rows = rest := by
  induction feed with
  | finished =>
    refine ⟨[], [], .nil _, rfl, ?_⟩
    intro r left h
    cases h
  | failing message =>
    refine ⟨[], [], .nil _, rfl, ?_⟩
    intro r left h
    cases h
  | row row feed ih =>
    cases hdecode : M.mapping.decode row with
    | ok r =>
      have hnone : M.mismatch? row = none := by rw [Model.mismatch?, hdecode]
      have hwarnings : M.warnings s onMismatch [row] = [] := by
        cases onMismatch with
        | fail => rfl
        | skipRow => rw [Model.warnings, List.filterMap_cons_none hnone]; rfl
      refine ⟨[row], feed.rows, ?_, rfl, ?_⟩
      · simpa [seek, hdecode] using Logs.read hwarnings
      · intro r' left h
        simp only [seek, Traced.value_bind, hdecode, Traced.value_pure] at h
        cases h
        rfl
    | error e =>
      have hsome : M.mismatch? row = some e := by rw [Model.mismatch?, hdecode]
      cases onMismatch with
      | fail =>
        refine ⟨[row], feed.rows, ?_, rfl, ?_⟩
        · simpa [seek, hdecode] using Logs.read (M := M) (s := s) rfl
        · intro r' left h
          simp only [seek, Traced.value_bind, hdecode, Traced.value_pure] at h
          cases h
      | skipRow =>
        obtain ⟨rows, rest, hlogs, hrows, hleft⟩ := ih
        refine ⟨row :: rows, rest, ?_, ?_, ?_⟩
        · simpa [seek, hdecode, Traced.log] using (Logs.skipped hsome).append hlogs
        · rw [Feed.rows, hrows]
          rfl
        · intro r' left h
          simp only [seek, Traced.value_bind, hdecode] at h
          exact hleft r' left h

/-- What the events of a pull tell: they follow the stream to where the pull leaves it, and the
rows read are the first that it had coming. What is left of them is still coming, or none are. -/
def Pulled (st : RecordStream M) (es : List Event) (moved : RecordStream M) : Prop :=
  ∃ progress rows rest, moved = { st with progress := progress } ∧
    Logs M st.statement st.onMismatch st.phase es moved.phase rows ∧
    st.upcoming = rows ++ rest ∧ (moved.upcoming = rest ∨ moved.upcoming = [])

theorem Pulled.refl (st : RecordStream M) : st.Pulled [] st :=
  ⟨st.progress, [], st.upcoming, rfl, .nil _, rfl, Or.inl rfl⟩

theorem Pulled.trans {st mid new : RecordStream M} {es es' : List Event} (h : st.Pulled es mid)
    (h' : mid.Pulled es' new) : st.Pulled (es ++ es') new := by
  obtain ⟨progress, rows, rest, rfl, hlogs, hrows, hrest⟩ := h
  obtain ⟨progress', rows', rest', rfl, hlogs', hrows', hrest'⟩ := h'
  rcases hrest with hrest | hnone
  · refine ⟨progress', rows ++ rows', rest', rfl, hlogs.append hlogs', ?_, hrest'⟩
    rw [hrows, ← hrest, hrows', List.append_assoc]
  · -- Nothing was coming any more, so nothing more was read.
    rw [hnone] at hrows'
    obtain ⟨rfl, rfl⟩ := List.append_eq_nil_iff.1 hrows'.symm
    refine ⟨progress', rows ++ [], rest, rfl, hlogs.append hlogs', ?_, Or.inr ?_⟩
    · rw [hrows, List.append_nil]
    · exact hrest'.elim id id

/-- An advance on a feed, from where the stream has the rows of the feed coming. -/
theorem pulled_advanceOn (st : RecordStream M) (feed : Feed) (hphase : st.phase = .reading)
    (hfeed : st.upcoming = feed.rows) :
    st.Pulled (st.advanceOn feed).events (st.advanceOn feed).value.2 := by
  obtain ⟨rows, rest, hlogs, hrows, hleft⟩ := logs_seek (M := M) st.statement st.onMismatch feed
  have hend : ∀ next : Progress M, (Phase.reading, next.phase) ∈ Phase.steps →
      next.phase ≠ .reading → upcoming { st with progress := next } = [] →
      st.Pulled ((seek M st.statement st.onMismatch feed).events ++ (st.moveTo next).events)
        { st with progress := next } := by
    intro next hstep hnext hnone
    have hmove := st.logs_moveTo next (hphase ▸ hstep) hnext
    rw [hphase] at hmove
    refine ⟨next, rows ++ [], rest, rfl, ?_, ?_, Or.inr hnone⟩
    · rw [hphase]
      exact hlogs.append hmove
    · rw [hfeed, hrows, List.append_nil]
  unfold advanceOn
  rw [Traced.events_bind, Traced.value_bind]
  cases hfound : (seek M st.statement st.onMismatch feed).value with
  | ok found =>
    cases found with
    | some found =>
      refine ⟨.reading found.2 (some found.1), rows, rest, rfl, ?_, hfeed.trans hrows, Or.inl ?_⟩
      · rw [Traced.events_pure, List.append_nil, hphase]
        exact hlogs
      · exact hleft found.1 found.2 hfound
    | none =>
      simp only [Traced.events_bind, Traced.value_bind, value_moveTo, Traced.events_pure,
        Traced.value_pure, List.append_nil]
      exact hend .exhausted (by simp [Phase.steps, Progress.phase]) (by simp [Progress.phase]) rfl
  | error e =>
    simp only [Traced.events_bind, Traced.value_bind, value_moveTo, Traced.events_pure,
      Traced.value_pure, List.append_nil]
    exact hend .disposed (by simp [Phase.steps, Progress.phase]) (by simp [Progress.phase]) rfl

theorem pulled_advance (st : RecordStream M) :
    st.Pulled st.advance.events st.advance.value.2 := by
  obtain ⟨src, s, onMismatch, progress⟩ := st
  cases progress with
  | reading feed current => exact pulled_advanceOn _ feed rfl rfl
  | exhausted => exact .refl _
  | disposed => exact .refl _
  | idle =>
    let st : RecordStream M := ⟨src, s, onMismatch, .idle⟩
    have hfailed : st.upcoming = [] → st.Pulled (st.moveTo .disposed).events
        { st with progress := .disposed } := by
      intro hnone
      have hmove := st.logs_moveTo .disposed
        (by simp [st, Phase.steps, phase, Progress.phase]) (by simp [Progress.phase])
      exact ⟨.disposed, [], [], rfl, hmove, hnone, Or.inr rfl⟩
    show st.Pulled st.advance.events st.advance.value.2
    cases hscript : src.script? s with
    | none =>
      have hnone : st.upcoming = [] := by simp [st, upcoming, hscript]
      simpa [st, advance, Statement.acquire, Source.openFeed, hscript] using hfailed hnone
    | some script =>
      cases script with
      | refuse message =>
        have hnone : st.upcoming = [] := by simp [st, upcoming, hscript]
        simpa [st, advance, Statement.acquire, Source.openFeed, hscript] using hfailed hnone
      | rows feed =>
        let opened : RecordStream M := ⟨src, s, onMismatch, .reading feed none⟩
        have hcoming : st.upcoming = feed.rows := by simp [st, upcoming, hscript]
        have hopen : st.Pulled
            [.opened s, .logged (.opened s), .logged (.moved s .idle .reading)] opened :=
          ⟨.reading feed none, [], feed.rows, rfl, .entered, hcoming, Or.inl rfl⟩
        have hadvance := hopen.trans (opened.pulled_advanceOn feed rfl rfl)
        simpa [st, opened, advance, Statement.acquire, Source.openFeed, hscript, moveTo,
          Traced.log, phase, Progress.phase] using hadvance

theorem pulled_clearCurrent (st : RecordStream M) : st.Pulled [] st.clearCurrent := by
  obtain ⟨src, s, onMismatch, progress⟩ := st
  cases progress with
  | reading feed current => exact ⟨.reading feed none, [], feed.rows, rfl, .nil _, rfl, Or.inl rfl⟩
  | _ => exact .refl _

theorem pulled_next (st : RecordStream M) : st.Pulled st.next.events st.next.value.2 := by
  have hadvance := st.pulled_advance
  unfold next
  rw [Traced.events_bind, Traced.value_bind]
  generalize st.advance.value = advanced at hadvance ⊢
  obtain ⟨found, moved⟩ := advanced
  cases found with
  | ok found =>
    cases found with
    | true => exact hadvance.trans moved.pulled_clearCurrent
    | false => exact hadvance.trans (.refl moved)
  | error e => exact hadvance.trans (.refl moved)

theorem pulled_take (st : RecordStream M) (n : Nat) :
    st.Pulled (st.take n).events (st.take n).value.2 := by
  induction n generalizing st with
  | zero => exact .refl st
  | succ n ih =>
    have hnext := st.pulled_next
    rw [take, Traced.events_bind, Traced.value_bind]
    generalize st.next.value = pulled at hnext ⊢
    obtain ⟨item, moved⟩ := pulled
    cases item with
    | none => exact hnext.trans (.refl moved)
    | some x =>
      simp only [Traced.events_bind, Traced.value_bind, Traced.events_pure, Traced.value_pure,
        List.append_nil]
      exact hnext.trans (ih moved)

/-- The rows that a pull reads are the first that were coming, as many as it reads. -/
theorem Pulled.logs {st moved : RecordStream M} {es : List Event} (h : st.Pulled es moved) :
    Logs M st.statement st.onMismatch st.phase es moved.phase
      (st.upcoming.take (es.countP Event.isRowRead)) := by
  obtain ⟨progress, rows, rest, -, hlogs, hrows, -⟩ := h
  have htake : st.upcoming.take (es.countP Event.isRowRead) = rows := by
    rw [hlogs.reads, hrows, List.take_left]
  rw [htake]
  exact hlogs

/-- Giving up a stream, or taking it back to the start, reads no rows. -/
theorem logs_moveTo_of_ne (st : RecordStream M) (next : Progress M)
    (hstep : next.phase = .idle ∨ next.phase = .disposed) (h : st.phase ≠ .disposed) :
    Logs M st.statement st.onMismatch st.phase (st.moveTo next).events next.phase [] := by
  apply st.logs_moveTo
  · rcases hstep with hnext | hnext <;> cases hphase : st.phase <;> simp_all [Phase.steps]
  · rcases hstep with hnext | hnext <;> simp [hnext]

theorem logs_dispose (st : RecordStream M) :
    Logs M st.statement st.onMismatch st.phase st.dispose.events st.dispose.value.phase [] := by
  obtain ⟨src, s, onMismatch, progress⟩ := st
  cases progress with
  | disposed => exact .nil _
  | _ => exact logs_moveTo_of_ne _ .disposed (Or.inr rfl) (by simp [phase, Progress.phase])

theorem logs_reset (st : RecordStream M) :
    Logs M st.statement st.onMismatch st.phase st.reset.events st.reset.value.phase [] := by
  obtain ⟨src, s, onMismatch, progress⟩ := st
  cases progress with
  | disposed => exact .nil _
  | _ => exact logs_moveTo_of_ne _ .idle (Or.inl rfl) (by simp [phase, Progress.phase])

theorem exists_progress_dispose (st : RecordStream M) :
    ∃ progress, st.dispose.value = { st with progress := progress } := by
  obtain ⟨src, s, onMismatch, progress⟩ := st
  cases progress <;> exact ⟨.disposed, rfl⟩

theorem exists_progress_reset (st : RecordStream M) :
    ∃ progress, st.reset.value = { st with progress := progress } := by
  obtain ⟨src, s, onMismatch, progress⟩ := st
  cases progress with
  | disposed => exact ⟨.disposed, rfl⟩
  | _ => exact ⟨.idle, rfl⟩

theorem phase_dispose (st : RecordStream M) : st.dispose.value.phase = .disposed := by
  obtain ⟨src, s, onMismatch, progress⟩ := st
  cases progress <;> rfl

theorem pulled_collect (st : RecordStream M) :
    st.Pulled st.collect.events st.collect.value.2 :=
  (st.pulled_take _).trans (.refl _)

end RecordStream

namespace Object

variable {M : Model}

/-- The rows that one use of a stream reads: the first that it has coming, as many as it reads. -/
def reads (src : Source) (o : Object) (what : Action) : List Row :=
  match o with
  | stream _ st => st.upcoming.take ((o.use src what).count Event.isRowRead)
  | cursor _ | reader _ | table _ | query _ => []

/-- The rows that a stream reads in one use after another. -/
def history (src : Source) : Object → List Action → List Row
  | _, [] => []
  | o, what :: rest => o.reads src what ++ history src (o.use src what).value.2 rest

/-- A use leaves a stream the stream of its statement, and its events tell where it stands. -/
def Logged (st : RecordStream M) (use : Traced (Reply × Object)) : Prop :=
  ∃ progress, use.value.2 = stream M { st with progress := progress } ∧
    Logs M st.statement st.onMismatch st.phase use.events progress.phase
      (st.upcoming.take (use.count Event.isRowRead))

theorem logged_pure {st moved : RecordStream M} (reply : Reply) (h : st.Pulled [] moved) :
    Logged st (pure (reply, stream M moved)) := by
  have hlogs := h.logs
  obtain ⟨progress, rows, rest, rfl, -⟩ := h
  exact ⟨progress, rfl, hlogs⟩

/-- A use that pulls and then answers. -/
theorem logged_of_pulled {α : Type} {st : RecordStream M} {x : Traced (α × RecordStream M)}
    {f : α × RecordStream M → Traced (Reply × Object)} (h : st.Pulled x.events x.value.2)
    (hf : ∀ a moved, ∃ reply, f (a, moved) = pure (reply, stream M moved)) :
    Logged st (x >>= f) := by
  obtain ⟨reply, hreply⟩ := hf x.value.1 x.value.2
  have hlogs := h.logs
  obtain ⟨progress, rows, rest, hmoved, -⟩ := h
  rw [hmoved] at hlogs
  refine ⟨progress, ?_, ?_⟩
  · rw [Traced.value_bind, hreply, hmoved]
    rfl
  · rw [Traced.events_bind, Traced.count_bind, hreply, Traced.events_pure, Traced.count_pure,
      List.append_nil]
    exact hlogs

theorem logged_of_no_reads {st : RecordStream M} {x : Traced (RecordStream M)} {reply : Reply}
    (hmoved : ∃ progress, x.value = { st with progress := progress })
    (h : Logs M st.statement st.onMismatch st.phase x.events x.value.phase []) :
    Logged st (do
      return (reply, stream M (← x))) := by
  obtain ⟨progress, hmoved⟩ := hmoved
  refine ⟨progress, by simp [hmoved], ?_⟩
  have hreads := h.reads
  rw [hmoved] at h
  have hlogs : Logs M st.statement st.onMismatch st.phase x.events progress.phase [] := h
  simpa [Traced.count, hreads] using hlogs

theorem logged_useStream (st : RecordStream M) (what : Action) :
    Logged st (useStream M st what) := by
  cases what with
  | advance =>
    apply logged_of_pulled st.pulled_advance
    intro found moved
    cases found <;> exact ⟨_, rfl⟩
  | next => exact logged_of_pulled st.pulled_next fun _ _ => ⟨_, rfl⟩
  | take n => exact logged_of_pulled (st.pulled_take n) fun _ _ => ⟨_, rfl⟩
  | drain => exact logged_of_pulled (st.pulled_take _) fun _ _ => ⟨_, rfl⟩
  | collect =>
    apply logged_of_pulled st.pulled_collect
    intro records moved
    cases records <;> exact ⟨_, rfl⟩
  | takeCurrent => exact logged_pure _ st.pulled_clearCurrent
  | reset => exact logged_of_no_reads st.exists_progress_reset st.logs_reset
  | dispose => exact logged_of_no_reads st.exists_progress_dispose st.logs_dispose
  | _ => exact logged_pure _ (.refl st)

theorem useAll_cons (src : Source) (o : Object) (what : Action) (rest : List Action) :
    o.useAll src (what :: rest) = o.use src what >>= fun used => used.2.useAll src rest := rfl

/-- Uses that follow on one another make one log, by induction on the uses. -/
theorem logs_useAll (src : Source) (st : RecordStream M) (whats : List Action) :
    ∃ last : RecordStream M, ((stream M st).useAll src whats).value = stream M last ∧
      last.statement = st.statement ∧ last.onMismatch = st.onMismatch ∧
      Logs M st.statement st.onMismatch st.phase ((stream M st).useAll src whats).events
        last.phase ((stream M st).history src whats) := by
  induction whats generalizing st with
  | nil => exact ⟨st, rfl, rfl, rfl, .nil _⟩
  | cons what rest ih =>
    obtain ⟨progress, hmoved, hlogs⟩ := logged_useStream st what
    have huse : ((stream M st).use src what).value.2 = stream M { st with progress := progress } :=
      hmoved
    obtain ⟨last, hvalue, hstatement, hpolicy, hrest⟩ := ih { st with progress := progress }
    refine ⟨last, ?_, hstatement, hpolicy, ?_⟩
    · rw [useAll_cons, Traced.value_bind, huse]
      exact hvalue
    · rw [useAll_cons, Traced.events_bind, huse, history, huse]
      exact hlogs.append hrest

end Object

end Recordset
