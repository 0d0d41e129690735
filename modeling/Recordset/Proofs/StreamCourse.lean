import Recordset.Proofs.JournalCounts
import Recordset.RecordStream

/-!
# The course of a stream

Before a stream runs, its source, statement and policy already fix everything it will bring. The
`Course` of a stream lists the items in order, each with the number of rows read by the time it is
found, and says how the stream stands once they are at an end. It is walked off the rows of the
script, without any stream; `advanced_advance` is the top lemma and says that one advance takes the
first item off the course that lies ahead, or finds the end when none is left.
-/

set_option autoImplicit false

namespace Recordset

def Feed.rows : Feed → List Row
  | finished | failing _ => []
  | row r rest => r :: rest.rows

/-- The failure that a feed ends in, if it ends in one. -/
def Feed.failure? : Feed → Option String
  | finished => none
  | failing message => some message
  | row _ rest => rest.failure?

/-- What a stream brings from some point on: items with the number of rows read when each is
found, and then for good the phase and the number of rows at the end. -/
structure Course (M : Model) where
  /-- The items in order, with the rows read up to each. -/
  items : List (Except Failure M.Record × Nat)
  /-- The phase at the end, with the rows read up to it. -/
  stop : Phase × Nat

namespace Course

variable {M : Model}

def cons (x : Except Failure M.Record × Nat) (c : Course M) : Course M :=
  ⟨x :: c.items, c.stop⟩

def drop (k : Nat) (c : Course M) : Course M := ⟨c.items.drop k, c.stop⟩

/-- The course of a failure found after `n` rows: one item, and the stream is given up. -/
def failed (e : Failure) (n : Nat) : Course M := ⟨[(.error e, n)], (.disposed, n)⟩

theorem failed_eq_cons (e : Failure) (n : Nat) :
    (failed e n : Course M) = cons (.error e, n) ⟨[], (.disposed, n)⟩ := rfl

/-- The course of rows in order when `n` rows were read before them. A row that is a record is an
item; any other is left out or ends the course, as the policy says. After the last row comes the
failure, if there is one, or the end. -/
def ofRows (M : Model) (onMismatch : OnMismatch) (failure : Option Failure) :
    Nat → List Row → Course M
  | n, [] =>
    match failure with
    | none => ⟨[], (.exhausted, n)⟩
    | some e => failed e n
  | n, row :: rest =>
    match M.mapping.decode row, onMismatch with
    | .ok r, _ => cons (.ok r, n + 1) (ofRows M onMismatch failure (n + 1) rest)
    | .error e, .fail => failed e (n + 1)
    | .error _, .skipRow => ofRows M onMismatch failure (n + 1) rest

/-- The course of a feed when `n` rows of its statement were read before. The failure after the rows
tells which statement was being read. -/
def ofFeed (M : Model) (s : Statement) (onMismatch : OnMismatch) (n : Nat) (feed : Feed) :
    Course M :=
  ofRows M onMismatch
    (feed.failure?.map fun message => .execution ("reading `" ++ s.text ++ "`") (.root message))
    n feed.rows

theorem ofFeed_row (s : Statement) (onMismatch : OnMismatch) (n : Nat) (row : Row) (rest : Feed) :
    ofFeed M s onMismatch n (.row row rest) =
      match M.mapping.decode row, onMismatch with
      | .ok r, _ => cons (.ok r, n + 1) (ofFeed M s onMismatch (n + 1) rest)
      | .error e, .fail => failed e (n + 1)
      | .error _, .skipRow => ofFeed M s onMismatch (n + 1) rest := by
  simp only [ofFeed, Feed.rows, Feed.failure?, ofRows]

/-- The course of a statement that has not run when `n` rows were read before. A statement that
cannot be opened brings that failure alone, and it tells which statement was being opened. -/
def ofStatement (M : Model) (src : Source) (s : Statement) (onMismatch : OnMismatch) (n : Nat) :
    Course M :=
  match src.script? s with
  | none =>
    failed (.execution ("opening `" ++ s.text ++ "`")
      (.root ("No result registered for statement: " ++ s.text))) n
  | some (.refuse message) =>
    failed (.execution ("opening `" ++ s.text ++ "`") (.root message)) n
  | some (.rows feed) => ofFeed M s onMismatch n feed

end Course

namespace RecordStream

variable {M : Model}

/-- The course that lies ahead of a stream when `n` rows were read. -/
def ahead (st : RecordStream M) (n : Nat) : Course M :=
  match st.progress with
  | .idle => .ofStatement M st.source st.statement st.onMismatch n
  | .reading feed _ => .ofFeed M st.statement st.onMismatch n feed
  | .exhausted => ⟨[], (.exhausted, n)⟩
  | .disposed => ⟨[], (.disposed, n)⟩

/-- Seeking through a feed takes the first item off the course of the feed: the rows that it reads
are those up to the item, and the feed that it leaves brings the rest. -/
theorem ofFeed_eq_seek (s : Statement) (onMismatch : OnMismatch) (n : Nat) (feed : Feed) :
    Course.ofFeed M s onMismatch n feed =
      match (seek M s onMismatch feed).value with
      | .ok (some (r, rest)) =>
        .cons (.ok r, n + (seek M s onMismatch feed).count Event.isRowRead)
          (.ofFeed M s onMismatch (n + (seek M s onMismatch feed).count Event.isRowRead) rest)
      | .ok none => ⟨[], (.exhausted, n + (seek M s onMismatch feed).count Event.isRowRead)⟩
      | .error e => .failed e (n + (seek M s onMismatch feed).count Event.isRowRead) := by
  induction feed generalizing n with
  | finished => rfl
  | failing message => rfl
  | row row rest ih =>
    rw [Course.ofFeed_row]
    cases hdecode : M.mapping.decode row with
    | ok r => simp [seek, hdecode, Event.isRowRead]
    | error e =>
      cases onMismatch with
      | fail => simp [seek, hdecode, Event.isRowRead]
      | skipRow =>
        have hcount : (seek M s .skipRow (.row row rest)).count Event.isRowRead =
            1 + (seek M s .skipRow rest).count Event.isRowRead := by
          simp [seek, hdecode, Event.isRowRead]
        have hvalue : (seek M s .skipRow (.row row rest)).value =
            (seek M s .skipRow rest).value := by
          simp [seek, hdecode]
        rw [hcount, hvalue, ← Nat.add_assoc]
        exact ih (n + 1)

@[simp] theorem value_moveTo (st : RecordStream M) (next : Progress M) :
    (st.moveTo next).value = { st with progress := next } := by
  unfold moveTo
  rw [Traced.value_bind]
  split <;> rfl

@[simp] theorem reads_moveTo (st : RecordStream M) (next : Progress M) :
    (st.moveTo next).count Event.isRowRead = 0 := by
  unfold moveTo
  split <;> simp [Statement.release, Event.isRowRead]

theorem value_advanceOn (st : RecordStream M) (feed : Feed) :
    (st.advanceOn feed).value =
      match (seek M st.statement st.onMismatch feed).value with
      | .ok (some (r, rest)) => (.ok true, { st with progress := .reading rest (some r) })
      | .ok none => (.ok false, { st with progress := .exhausted })
      | .error e => (.error e, { st with progress := .disposed }) := by
  unfold advanceOn
  rw [Traced.value_bind]
  split <;> simp_all

theorem reads_advanceOn (st : RecordStream M) (feed : Feed) :
    (st.advanceOn feed).count Event.isRowRead =
      (seek M st.statement st.onMismatch feed).count Event.isRowRead := by
  unfold advanceOn
  rw [Traced.count_bind]
  split <;> simp

/-- What an advance can do to a stream with `n` rows read, and what that says of the course
ahead. -/
inductive Advanced (st : RecordStream M) (n : Nat)
    (t : Traced (Except Failure Bool × RecordStream M)) : Prop where
  | found (r : M.Record) (rest : Feed)
      (value : t.value = (.ok true, { st with progress := .reading rest (some r) }))
      (ahead : st.ahead n = .cons (.ok r, n + t.count Event.isRowRead)
        (.ofFeed M st.statement st.onMismatch (n + t.count Event.isRowRead) rest))
  /-- It finds the end, or the end was found before. -/
  | ended (p : Progress M) (closed : p = .exhausted ∨ p = .disposed)
      (value : t.value = (.ok false, { st with progress := p }))
      (ahead : st.ahead n = ⟨[], (p.phase, n + t.count Event.isRowRead)⟩)
  | failed (e : Failure)
      (value : t.value = (.error e, { st with progress := .disposed }))
      (ahead : st.ahead n = .failed e (n + t.count Event.isRowRead))

/-- An advance on the feed that lies ahead does one of the three. -/
theorem advanced_advanceOn (st : RecordStream M) (n : Nat) (feed : Feed)
    (h : st.ahead n = .ofFeed M st.statement st.onMismatch n feed) :
    st.Advanced n (st.advanceOn feed) := by
  rw [ofFeed_eq_seek] at h
  have hvalue := st.value_advanceOn feed
  have hreads := st.reads_advanceOn feed
  cases hfound : (seek M st.statement st.onMismatch feed).value with
  | ok found =>
    rw [hfound] at h hvalue
    cases found with
    | some found =>
      apply Advanced.found found.1 found.2 hvalue
      rw [hreads]
      exact h
    | none =>
      apply Advanced.ended .exhausted (Or.inl rfl) hvalue
      rw [hreads]
      exact h
  | error e =>
    rw [hfound] at h hvalue
    apply Advanced.failed e hvalue
    rw [hreads]
    exact h

/-- Whatever stream it is made on, an advance does one of the three. -/
theorem advanced_advance (st : RecordStream M) (n : Nat) : st.Advanced n st.advance := by
  obtain ⟨src, s, onMismatch, progress⟩ := st
  cases progress with
  | reading feed current => exact advanced_advanceOn _ n feed rfl
  | exhausted => exact .ended .exhausted (Or.inl rfl) rfl rfl
  | disposed => exact .ended .disposed (Or.inr rfl) rfl rfl
  | idle =>
    cases hscript : src.script? s with
    | none =>
      apply Advanced.failed (s.openingFailure ("No result registered for statement: " ++ s.text))
      · simp [advance, Statement.acquire, Source.openFeed, hscript]
      · simp [advance, Statement.acquire, Source.openFeed, hscript, ahead, Course.ofStatement,
          Statement.openingFailure]
    | some script =>
      cases script with
      | refuse message =>
        apply Advanced.failed (s.openingFailure message)
        · simp [advance, Statement.acquire, Source.openFeed, hscript]
        · simp [advance, Statement.acquire, Source.openFeed, hscript, ahead, Course.ofStatement,
            Statement.openingFailure]
      | rows feed =>
        -- Opening reads no row, so what the open stream does is what this advance does.
        let opened : RecordStream M := ⟨src, s, onMismatch, .reading feed none⟩
        let st : RecordStream M := ⟨src, s, onMismatch, .idle⟩
        have hvalue : st.advance.value = (opened.advanceOn feed).value := by
          simp [st, opened, advance, Statement.acquire, Source.openFeed, hscript]
        have hreads : st.advance.count Event.isRowRead =
            (opened.advanceOn feed).count Event.isRowRead := by
          simp [st, opened, advance, Statement.acquire, Source.openFeed, hscript,
            Event.isRowRead]
        have hahead : st.ahead n = opened.ahead n := by
          simp [st, opened, ahead, Course.ofStatement, hscript]
        cases advanced_advanceOn opened n feed rfl with
        | found r rest value ahead =>
          exact .found r rest (hvalue.trans value) (by rw [hahead, hreads]; exact ahead)
        | ended p closed value ahead =>
          exact .ended p closed (hvalue.trans value) (by rw [hahead, hreads]; exact ahead)
        | failed e value ahead =>
          exact .failed e (hvalue.trans value) (by rw [hahead, hreads]; exact ahead)

end RecordStream

end Recordset
