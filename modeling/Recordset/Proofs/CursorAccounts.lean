import Recordset.Proofs.StreamCourse
import Recordset.Session

/-!
# Accounts of open cursors

Every cursor that a source has opened is either closed or still held. A stream that is reading
holds one, so does a reader that is not closed, and so does a bare cursor that is not closed; a
bare cursor that is let go of before it is closed stays open for good, and a run counts it among
its strays. `Traced.Balanced` is the account of one computation and `Session.Settled` that of a
session, which `Settled.run` keeps through any commands.
-/

set_option autoImplicit false

namespace Recordset

namespace NameMap

variable {α : Type}

/-- How many names satisfy `q` together with their value. -/
def countBy (q : String → α → Bool) (m : NameMap α) : Nat :=
  m.entries.countP fun e => q e.1 e.2

def count (p : α → Bool) (m : NameMap α) : Nat := m.countBy fun _ => p

theorem findEntry_eq_none {name : String} {es : List (String × α)}
    (h : ∀ e ∈ es, name < e.1) : findEntry name es = none := by
  induction es with
  | nil => rfl
  | cons e rest ih =>
    have hne : ¬ name = e.1 := fun heq =>
      String.lt_irrefl name (heq ▸ h e List.mem_cons_self)
    rw [findEntry, if_neg hne]
    exact ih fun d hd => h d (List.mem_cons_of_mem _ hd)

/-- Inserting a value brings it into the count in place of the value that the name had. -/
theorem countBy_insert (q : String → α → Bool) (m : NameMap α) (name : String) (x : α) :
    (m.insert name x).countBy q + ((m.get? name).any (q name)).toNat =
      m.countBy q + (q name x).toNat := by
  obtain ⟨es, h⟩ := m
  show (insertEntry name x es).countP (fun e => q e.1 e.2) +
    ((findEntry name es).any (q name)).toNat = es.countP (fun e => q e.1 e.2) + (q name x).toNat
  induction es with
  | nil => cases hx : q name x <;> simp [insertEntry, findEntry, hx]
  | cons e rest ih =>
    obtain ⟨hlt, hrest⟩ := List.pairwise_cons.1 h
    have hih := ih hrest
    simp only [insertEntry, findEntry]
    by_cases hfirst : name < e.1
    · have hne : ¬ name = e.1 := fun heq => String.lt_irrefl name (heq ▸ hfirst)
      have hnone : findEntry name rest = none :=
        findEntry_eq_none fun d hd => String.lt_trans hfirst (hlt d hd)
      rw [if_pos hfirst, if_neg hne, hnone, List.countP_cons]
      cases hx : q name x <;> simp
    · by_cases hname : name = e.1
      · rw [if_neg hfirst, if_pos hname, if_pos hname, List.countP_cons, List.countP_cons]
        cases hx : q name x <;> cases he : q name e.2 <;> simp [← hname, he]
      · rw [if_neg hfirst, if_neg hname, if_neg hname, List.countP_cons, List.countP_cons]
        omega

/-- Erasing a name takes its value out of the count. -/
theorem countBy_erase (q : String → α → Bool) (m : NameMap α) (name : String) :
    (m.erase name).countBy q + ((m.get? name).any (q name)).toNat = m.countBy q := by
  obtain ⟨es, h⟩ := m
  show (es.filter fun e => !decide (name = e.1)).countP (fun e => q e.1 e.2) +
    ((findEntry name es).any (q name)).toNat = es.countP fun e => q e.1 e.2
  induction es with
  | nil => rfl
  | cons e rest ih =>
    obtain ⟨hlt, hrest⟩ := List.pairwise_cons.1 h
    have hih := ih hrest
    by_cases hname : name = e.1
    · have hnone : findEntry name rest = none :=
        findEntry_eq_none fun d hd => hname ▸ hlt d hd
      rw [hnone] at hih
      rw [List.filter_cons_of_neg (by simp [hname]), findEntry, if_pos hname, List.countP_cons]
      cases he : q name e.2 <;> simpa [← hname, he] using hih
    · rw [List.filter_cons_of_pos (by simpa using hname), findEntry, if_neg hname,
        List.countP_cons, List.countP_cons]
      omega

theorem count_insert (p : α → Bool) (m : NameMap α) (name : String) (x : α) :
    (m.insert name x).count p + ((m.get? name).any p).toNat = m.count p + (p x).toNat :=
  m.countBy_insert (fun _ => p) name x

theorem count_erase (p : α → Bool) (m : NameMap α) (name : String) :
    (m.erase name).count p + ((m.get? name).any p).toNat = m.count p :=
  m.countBy_erase (fun _ => p) name

/-- Counts by two measures that agree away from one name differ by what they say of its value. -/
theorem countBy_eq_of_agree {q r : String → α → Bool} (name : String)
    (h : ∀ k x, k ≠ name → q k x = r k x) (m : NameMap α) :
    m.countBy q + ((m.get? name).any (r name)).toNat =
      m.countBy r + ((m.get? name).any (q name)).toNat := by
  have hrest : (m.erase name).countBy q = (m.erase name).countBy r := by
    apply List.countP_congr
    intro e he
    have hne : e.1 ≠ name := by
      have hkept := (List.mem_filter.1 he).2
      intro heq
      simp [heq] at hkept
    rw [h e.1 e.2 hne]
  have hq := m.countBy_erase q name
  have hr := m.countBy_erase r name
  omega

/-- A count splits into the counts of the kinds that make it up. -/
theorem count_eq_add {p q r s : α → Bool}
    (h : ∀ x, (p x).toNat = (q x).toNat + (r x).toNat + (s x).toNat) (m : NameMap α) :
    m.count p = m.count q + m.count r + m.count s := by
  show m.entries.countP (fun e => p e.2) = m.entries.countP (fun e => q e.2) +
    m.entries.countP (fun e => r e.2) + m.entries.countP fun e => s e.2
  induction m.entries with
  | nil => rfl
  | cons e rest ih =>
    have hsplit := h e.2
    have hone : ∀ p : α → Bool, ((e :: rest).countP fun e => p e.2) =
        (rest.countP fun e => p e.2) + (p e.2).toNat := by
      intro p
      rw [List.countP_cons]
      cases p e.2 <;> rfl
    rw [hone, hone, hone, hone]
    omega

end NameMap

/-- Whether a holder of at most one cursor has one after an event: it cannot open a second one, nor
close one that it does not have. -/
def Event.turn : Bool → Event → Option Bool
  | false, opened _ => some true
  | true, closed => some false
  | held, rowRead | held, logged _ => some held
  | true, opened _ | false, closed => none

namespace Traced

variable {α β : Type}

/-- The events of a computation open and close one cursor by turns: it opens a cursor only when its
holder has none, closes one only when the holder has it, and leaves the holder with a cursor or
without. -/
def Balanced (before : Bool) (t : Traced α) (after : Bool) : Prop :=
  t.events.foldlM Event.turn before = some after

theorem balanced_pure (held : Bool) (x : α) : (pure x : Traced α).Balanced held held := rfl

theorem balanced_log (held : Bool) (r : LogRecord) : (log r).Balanced held held := by
  cases held <;> rfl

theorem balanced_logAll (held : Bool) (rs : List LogRecord) :
    (logAll rs).Balanced held held := by
  induction rs with
  | nil => rfl
  | cons r rest ih => cases held <;> exact ih

theorem Balanced.bind {a b c : Bool} {t : Traced α} {f : α → Traced β} (h : t.Balanced a b)
    (hf : (f t.value).Balanced b c) : (t >>= f).Balanced a c := by
  unfold Balanced at h hf ⊢
  rw [events_bind, List.foldlM_append, h]
  exact hf

/-- Where openings and closings take turns, they are as many, but for the cursor held before and
the one held after. -/
theorem Balanced.count {before after : Bool} {t : Traced α} (h : t.Balanced before after) :
    before.toNat + t.count Event.isOpened = t.count Event.isClosed + after.toNat := by
  unfold Balanced at h
  unfold Traced.count
  generalize t.events = es at h
  induction es generalizing before with
  | nil =>
    obtain rfl : before = after := by simpa using h
    exact Nat.add_comm _ _
  | cons e es ih =>
    rw [List.foldlM_cons] at h
    obtain ⟨held, hturn, hrest⟩ := Option.bind_eq_some_iff.1 h
    have hcount := ih hrest
    rw [List.countP_cons, List.countP_cons]
    cases e <;> cases before <;> cases hturn <;>
      simp only [Event.isOpened, Event.isClosed, Bool.toNat_false, Bool.toNat_true, if_true,
        Bool.false_eq_true, if_false] at hcount ⊢ <;> omega

/-- What follows an opening begins with a cursor exactly when the opening did not fail. -/
theorem Balanced.bind_opening {ε : Type} {t : Traced (Except ε α)} {f : Except ε α → Traced β}
    (held : β → Bool) (h : t.Balanced false t.value.isOk)
    (hok : ∀ x, (f (.ok x)).Balanced true (held (f (.ok x)).value))
    (herror : ∀ e, (f (.error e)).Balanced false (held (f (.error e)).value)) :
    (t >>= f).Balanced false (held (t >>= f).value) := by
  apply h.bind
  rw [value_bind]
  cases t.value with
  | ok x => exact hok x
  | error e => exact herror e

end Traced

/-- Opening gives the one who asked a cursor to hold, unless it fails. -/
theorem Source.balanced_openFeed (src : Source) (s : Statement) :
    (src.openFeed s).Balanced false (src.openFeed s).value.isOk := by
  unfold Source.openFeed
  cases src.script? s with
  | none => exact Traced.balanced_pure false _
  | some script =>
    cases script with
    | refuse message => exact Traced.balanced_pure false _
    | rows feed => rfl

namespace Statement

theorem balanced_acquire (s : Statement) (src : Source) :
    (s.acquire src).Balanced false (s.acquire src).value.isOk := by
  apply Traced.Balanced.bind_opening Except.isOk (src.balanced_openFeed s)
  · intro feed
    exact (Traced.balanced_log true _).bind (Traced.balanced_pure true _)
  · intro message
    exact Traced.balanced_pure false _

theorem balanced_release (s : Statement) : s.release.Balanced true false := rfl

end Statement

theorem Feed.balanced_read (feed : Feed) (held : Bool) : feed.read.Balanced held held := by
  cases feed with
  | finished => exact Traced.balanced_pure held _
  | failing message => exact Traced.balanced_pure held _
  | row r rest => cases held <;> rfl

def Cursor.isLive : Cursor → Bool
  | live _ => true
  | closed => false

namespace Cursor

theorem balanced_create (src : Source) (s : Statement) :
    (create src s).Balanced false ((create src s).value.toOption.any isLive) := by
  refine Traced.Balanced.bind_opening (fun r : Except String Cursor => r.toOption.any isLive)
    (src.balanced_openFeed s) ?_ ?_
  · intro feed
    exact Traced.balanced_pure true _
  · intro message
    exact Traced.balanced_pure false _

theorem balanced_next (c : Cursor) : c.next.Balanced c.isLive c.next.value.2.isLive := by
  cases c with
  | live feed => exact (feed.balanced_read true).bind (Traced.balanced_pure true _)
  | closed => exact Traced.balanced_pure false _

/-- Closing a cursor a second time closes nothing. -/
theorem balanced_close (c : Cursor) : c.close.Balanced c.isLive c.close.value.isLive := by
  cases c <;> rfl

end Cursor

namespace Reader

theorem balanced_create (src : Source) (s : Statement) :
    (create src s).Balanced false ((create src s).value.toOption.any fun r => !r.isClosed) := by
  refine Traced.Balanced.bind_opening
    (fun r : Except Failure Reader => r.toOption.any fun r => !r.isClosed)
    (s.balanced_acquire src) ?_ ?_
  · intro feed
    exact Traced.balanced_pure true _
  · intro e
    exact Traced.balanced_pure false _

theorem balanced_read (r : Reader) :
    r.read.Balanced (!r.isClosed) (!r.read.value.2.isClosed) := by
  obtain ⟨s, cursor⟩ := r
  cases cursor with
  | live feed => exact (feed.balanced_read true).bind (Traced.balanced_pure true _)
  | closed => exact Traced.balanced_pure false _

theorem balanced_close (r : Reader) : r.close.Balanced (!r.isClosed) false := by
  obtain ⟨s, cursor⟩ := r
  cases cursor with
  | live feed => exact s.balanced_release.bind (Traced.balanced_pure false _)
  | closed => exact Traced.balanced_pure false _

theorem isClosed_close (r : Reader) : r.close.value.isClosed = true := by
  obtain ⟨s, cursor⟩ := r
  cases cursor <;> rfl

end Reader

namespace RecordStream

variable {M : Model}

def isReading (st : RecordStream M) : Bool := st.phase = .reading

theorem balanced_create (src : Source) (s : Statement) (onMismatch : OnMismatch) :
    (create src s onMismatch : Traced (RecordStream M)).Balanced false false :=
  Traced.Balanced.bind (Traced.balanced_logAll false _) (Traced.balanced_pure false _)

/-- Going anywhere closes the cursor that was open before. -/
theorem balanced_moveTo (st : RecordStream M) (next : Progress M) :
    (st.moveTo next).Balanced st.isReading false := by
  obtain ⟨src, s, onMismatch, progress⟩ := st
  cases progress <;> rfl

theorem balanced_seek (s : Statement) (onMismatch : OnMismatch) (feed : Feed) (held : Bool) :
    (seek M s onMismatch feed).Balanced held held := by
  induction feed with
  | finished => exact Traced.balanced_pure held _
  | failing message => exact Traced.balanced_pure held _
  | row row rest ih =>
    have hread : (Traced.emit .rowRead).Balanced held held := by cases held <;> rfl
    apply hread.bind
    cases M.mapping.decode row with
    | ok r => exact Traced.balanced_pure held _
    | error e =>
      cases onMismatch with
      | fail => exact Traced.balanced_pure held _
      | skipRow => exact (Traced.balanced_log held _).bind ih

/-- An advance of an open stream keeps its cursor exactly when it finds a record. -/
theorem balanced_advanceOn (st : RecordStream M) (feed : Feed) (h : st.isReading = true) :
    (st.advanceOn feed).Balanced true (st.advanceOn feed).value.2.isReading := by
  have hseek := balanced_seek (M := M) st.statement st.onMismatch feed true
  have hmove := st.balanced_moveTo
  rw [h] at hmove
  unfold advanceOn
  rw [Traced.value_bind]
  apply hseek.bind
  cases (seek M st.statement st.onMismatch feed).value with
  | ok found =>
    cases found with
    | some found => exact Traced.balanced_pure true _
    | none =>
      have hheld : (st.moveTo .exhausted).value.isReading = false := by
        rw [value_moveTo]
        rfl
      simp only [Traced.value_bind, Traced.value_pure, hheld]
      exact (hmove .exhausted).bind (Traced.balanced_pure false _)
  | error e =>
    have hheld : (st.moveTo .disposed).value.isReading = false := by
      rw [value_moveTo]
      rfl
    simp only [Traced.value_bind, Traced.value_pure, hheld]
    exact (hmove .disposed).bind (Traced.balanced_pure false _)

theorem balanced_advance (st : RecordStream M) :
    st.advance.Balanced st.isReading st.advance.value.2.isReading := by
  obtain ⟨src, s, onMismatch, progress⟩ := st
  cases progress with
  | reading feed current => exact balanced_advanceOn _ feed rfl
  | exhausted => exact Traced.balanced_pure false _
  | disposed => exact Traced.balanced_pure false _
  | idle =>
    let st : RecordStream M := ⟨src, s, onMismatch, .idle⟩
    have hmove : ∀ next held, (st.moveTo next).Balanced held held := by
      intro next held
      cases held <;> rfl
    refine Traced.Balanced.bind_opening
      (fun r : Except Failure Bool × RecordStream M => r.2.isReading) (s.balanced_acquire src) ?_ ?_
    · intro feed
      apply (hmove (.reading feed none) true).bind
      exact balanced_advanceOn _ feed (by rw [value_moveTo]; rfl)
    · intro e
      show (st.moveTo .disposed >>= fun moved => pure (Except.error e, moved)).Balanced false false
      exact (hmove .disposed false).bind (Traced.balanced_pure false _)

theorem isReading_clearCurrent (st : RecordStream M) :
    st.clearCurrent.isReading = st.isReading := by
  obtain ⟨src, s, onMismatch, progress⟩ := st
  cases progress <;> rfl

theorem balanced_next (st : RecordStream M) :
    st.next.Balanced st.isReading st.next.value.2.isReading := by
  apply st.balanced_advance.bind
  unfold next
  rw [Traced.value_bind]
  obtain ⟨found, moved⟩ := st.advance.value
  cases found with
  | ok found =>
    cases found with
    | true =>
      simp only [Traced.value_pure, isReading_clearCurrent]
      exact Traced.balanced_pure _ _
    | false => exact Traced.balanced_pure _ _
  | error e => exact Traced.balanced_pure _ _

theorem balanced_take (st : RecordStream M) (n : Nat) :
    (st.take n).Balanced st.isReading (st.take n).value.2.isReading := by
  induction n generalizing st with
  | zero => exact Traced.balanced_pure _ _
  | succ n ih =>
    apply st.balanced_next.bind
    rw [take, Traced.value_bind]
    obtain ⟨item, moved⟩ := st.next.value
    cases item with
    | none => exact Traced.balanced_pure _ _
    | some x => exact (ih moved).bind (Traced.balanced_pure _ _)

theorem balanced_collect (st : RecordStream M) :
    st.collect.Balanced st.isReading st.collect.value.2.isReading :=
  (st.balanced_take _).bind (Traced.balanced_pure _ _)

/-- However a stream stands, it holds no cursor once it is disposed. -/
theorem balanced_dispose (st : RecordStream M) : st.dispose.Balanced st.isReading false := by
  obtain ⟨src, s, onMismatch, progress⟩ := st
  cases progress with
  | disposed => exact Traced.balanced_pure false _
  | _ => exact balanced_moveTo _ _

theorem isReading_dispose (st : RecordStream M) : st.dispose.value.isReading = false := by
  obtain ⟨src, s, onMismatch, progress⟩ := st
  cases progress <;> rfl

theorem balanced_reset (st : RecordStream M) : st.reset.Balanced st.isReading false := by
  obtain ⟨src, s, onMismatch, progress⟩ := st
  cases progress with
  | disposed => exact Traced.balanced_pure false _
  | _ => exact balanced_moveTo _ _

theorem isReading_reset (st : RecordStream M) : st.reset.value.isReading = false := by
  obtain ⟨src, s, onMismatch, progress⟩ := st
  cases progress <;> rfl

end RecordStream

namespace Query

theorem balanced_statement (q : Query) : q.statement.Balanced false false := by
  unfold statement
  cases q.clause.statement q.table.settings.methods q.table.name with
  | ok s => exact (Traced.balanced_log false _).bind (Traced.balanced_pure false _)
  | error e => exact Traced.balanced_pure false _

/-- The stream of a query has not opened its cursor yet. -/
theorem balanced_stream (q : Query) (src : Source) :
    (q.stream src).Balanced false ((q.stream src).value.toOption.any fun st => st.isReading) := by
  apply q.balanced_statement.bind
  unfold stream
  rw [Traced.value_bind]
  cases q.statement.value with
  | ok s => exact (RecordStream.balanced_create src s _).bind (Traced.balanced_pure false _)
  | error e => exact Traced.balanced_pure false _

/-- Listing the records closes every cursor that it opens, also when it fails half way. -/
theorem balanced_toList (q : Query) (src : Source) : (q.toList src).Balanced false false := by
  apply (q.balanced_stream src).bind
  cases (q.stream src).value with
  | ok st =>
    apply st.balanced_collect.bind
    obtain ⟨records, final⟩ := st.collect.value
    exact final.balanced_dispose.bind (Traced.balanced_pure false _)
  | error e => exact Traced.balanced_pure false _

end Query

namespace Object

def isOpenStream : Object → Bool
  | stream _ st => st.isReading
  | cursor _ | reader _ | table _ | query _ => false

def isOpenReader : Object → Bool
  | reader r => !r.isClosed
  | cursor _ | table _ | query _ | stream _ _ => false

def isOpenCursor : Object → Bool
  | cursor c => c.isLive
  | reader _ | table _ | query _ | stream _ _ => false

/-- The object holds an open cursor. -/
def holds (o : Object) : Bool := o.isOpenStream || o.isOpenReader || o.isOpenCursor

/-- An object is of one kind, so it holds no more than one cursor. -/
theorem toNat_holds (o : Object) :
    o.holds.toNat = o.isOpenStream.toNat + o.isOpenReader.toNat + o.isOpenCursor.toNat := by
  cases o with
  | cursor c => simp [holds, isOpenStream, isOpenReader]
  | reader r => simp [holds, isOpenStream, isOpenCursor]
  | table t => rfl
  | query q => rfl
  | stream M st => simp [holds, isOpenReader, isOpenCursor]

theorem holds_cursor (c : Cursor) : (cursor c).holds = c.isLive := by
  simp [holds, isOpenStream, isOpenReader, isOpenCursor]

theorem holds_reader (r : Reader) : (reader r).holds = !r.isClosed := by
  simp [holds, isOpenStream, isOpenReader, isOpenCursor]

theorem holds_stream {M : Model} (st : RecordStream M) : (stream M st).holds = st.isReading := by
  simp [holds, isOpenStream, isOpenReader, isOpenCursor]

theorem balanced_useCursor (c : Cursor) (what : Action) :
    (useCursor c what).Balanced c.isLive (useCursor c what).value.2.holds := by
  cases what with
  | cursorNext =>
    apply c.balanced_next.bind
    rw [useCursor, Traced.value_bind]
    obtain ⟨row, moved⟩ := c.next.value
    cases row <;> exact holds_cursor moved ▸ Traced.balanced_pure _ _
  | cursorClose =>
    apply c.balanced_close.bind
    rw [useCursor, Traced.value_bind, Traced.value_pure, holds_cursor]
    exact Traced.balanced_pure _ _
  | _ => exact holds_cursor c ▸ Traced.balanced_pure _ _

theorem balanced_useReader (r : Reader) (what : Action) :
    (useReader r what).Balanced (!r.isClosed) (useReader r what).value.2.holds := by
  cases what with
  | readerRead =>
    apply r.balanced_read.bind
    rw [useReader, Traced.value_bind]
    obtain ⟨row, moved⟩ := r.read.value
    cases row <;> exact holds_reader moved ▸ Traced.balanced_pure _ _
  | readerClose =>
    apply r.balanced_close.bind
    rw [useReader, Traced.value_bind, Traced.value_pure, holds_reader, r.isClosed_close]
    exact Traced.balanced_pure _ _
  | _ => exact holds_reader r ▸ Traced.balanced_pure _ _

theorem balanced_useQuery (src : Source) (q : Query) (what : Action) :
    (useQuery src q what).Balanced false (useQuery src q what).value.2.holds := by
  cases what with
  | queryStatement =>
    apply q.balanced_statement.bind
    rw [useQuery, Traced.value_bind]
    cases q.statement.value <;> exact Traced.balanced_pure false _
  | queryToList =>
    apply (q.balanced_toList src).bind
    rw [useQuery, Traced.value_bind]
    cases (q.toList src).value <;> exact Traced.balanced_pure false _
  | _ => exact Traced.balanced_pure false _

theorem balanced_useStream {M : Model} (st : RecordStream M) (what : Action) :
    (useStream M st what).Balanced st.isReading (useStream M st what).value.2.holds := by
  cases what with
  | advance =>
    apply st.balanced_advance.bind
    rw [useStream, Traced.value_bind]
    obtain ⟨found, moved⟩ := st.advance.value
    cases found <;> exact holds_stream moved ▸ Traced.balanced_pure _ _
  | takeCurrent =>
    rw [useStream, Traced.value_pure, holds_stream, RecordStream.takeCurrent,
      RecordStream.isReading_clearCurrent]
    exact Traced.balanced_pure _ _
  | next =>
    apply st.balanced_next.bind
    rw [useStream, Traced.value_bind, Traced.value_pure, holds_stream]
    exact Traced.balanced_pure _ _
  | take n =>
    apply (st.balanced_take n).bind
    rw [useStream, Traced.value_bind, Traced.value_pure, holds_stream]
    exact Traced.balanced_pure _ _
  | drain =>
    apply (st.balanced_take _).bind
    rw [useStream, Traced.value_bind, Traced.value_pure, holds_stream]
    exact Traced.balanced_pure _ _
  | collect =>
    apply st.balanced_collect.bind
    rw [useStream, Traced.value_bind]
    obtain ⟨records, moved⟩ := st.collect.value
    cases records <;> exact holds_stream moved ▸ Traced.balanced_pure _ _
  | reset =>
    apply st.balanced_reset.bind
    rw [useStream, Traced.value_bind, Traced.value_pure, holds_stream, st.isReading_reset]
    exact Traced.balanced_pure _ _
  | dispose =>
    apply st.balanced_dispose.bind
    rw [useStream, Traced.value_bind, Traced.value_pure, holds_stream, st.isReading_dispose]
    exact Traced.balanced_pure _ _
  | _ => exact holds_stream st ▸ Traced.balanced_pure _ _

/-- Whatever an object is used for, its account balances. -/
theorem balanced_use (src : Source) (o : Object) (what : Action) :
    (o.use src what).Balanced o.holds (o.use src what).value.2.holds := by
  cases o with
  | cursor c => exact holds_cursor c ▸ balanced_useCursor c what
  | reader r => exact holds_reader r ▸ balanced_useReader r what
  | table t => cases what <;> exact Traced.balanced_pure false _
  | query q => exact balanced_useQuery src q what
  | stream M st => exact holds_stream st ▸ balanced_useStream st what

/-- An object that is let go of closes its cursor, unless it is a bare one. -/
theorem balanced_drop (o : Object) : o.drop.Balanced o.holds o.isOpenCursor := by
  cases o with
  | cursor c => exact holds_cursor c ▸ Traced.balanced_pure _ _
  | reader r => exact holds_reader r ▸ r.balanced_close.bind (Traced.balanced_pure false _)
  | table t => exact Traced.balanced_pure false _
  | query q => exact Traced.balanced_pure false _
  | stream M st => exact holds_stream st ▸ st.balanced_dispose.bind (Traced.balanced_pure false _)

theorem balanced_dropAny (o : Option Object) :
    (dropAny o).Balanced (o.any holds) (o.any isOpenCursor) := by
  cases o with
  | none => exact Traced.balanced_pure false _
  | some o => exact o.balanced_drop

def useAll (src : Source) (o : Object) : List Action → Traced Object
  | [] => return o
  | what :: rest => do
    let (_, moved) ← o.use src what
    moved.useAll src rest

theorem balanced_useAll (src : Source) (o : Object) (whats : List Action) :
    (o.useAll src whats).Balanced o.holds (o.useAll src whats).value.holds := by
  induction whats generalizing o with
  | nil => exact Traced.balanced_pure _ _
  | cons what rest ih =>
    apply (o.balanced_use src what).bind
    rw [useAll, Traced.value_bind]
    exact ih _

end Object

namespace Session

/-- An object that was just made holds the cursor that its making opened. -/
theorem balanced_build (ses : Session) (how : Making) :
    (ses.build how).Balanced false ((ses.build how).value.toOption.any Object.holds) := by
  cases how with
  | cursor s =>
    apply (Cursor.balanced_create ses.source s).bind
    rw [build, Traced.value_bind]
    cases (Cursor.create ses.source s).value with
    | ok c =>
      show Traced.Balanced c.isLive _ (Object.cursor c).holds
      rw [Object.holds_cursor]
      exact Traced.balanced_pure _ _
    | error message => exact Traced.balanced_pure false _
  | reader s =>
    apply (Reader.balanced_create ses.source s).bind
    rw [build, Traced.value_bind]
    cases (Reader.create ses.source s).value with
    | ok r =>
      show Traced.Balanced (!r.isClosed) _ (Object.reader r).holds
      rw [Object.holds_reader]
      exact Traced.balanced_pure _ _
    | error e => exact Traced.balanced_pure false _
  | table model name choice =>
    simp only [build]
    cases choice.settings? <;> exact Traced.balanced_pure false _
  | copy table =>
    simp only [build]
    cases ses.table? table <;> exact Traced.balanced_pure false _
  | retuned table choice =>
    simp only [build]
    cases ses.table? table with
    | none => exact Traced.balanced_pure false _
    | some t => cases choice.settings? <;> exact Traced.balanced_pure false _
  | query table clause =>
    simp only [build]
    cases ses.table? table <;> exact Traced.balanced_pure false _
  | streamOf query =>
    simp only [build]
    cases ses.query? query with
    | none => exact Traced.balanced_pure false _
    | some q =>
      apply (q.balanced_stream ses.source).bind
      rw [Traced.value_bind]
      cases (q.stream ses.source).value with
      | ok st =>
        show Traced.Balanced st.isReading _ (Object.stream q.table.model st).holds
        rw [Object.holds_stream]
        exact Traced.balanced_pure _ _
      | error e => exact Traced.balanced_pure false _
  | stream model s onMismatch =>
    exact (RecordStream.balanced_create ses.source s onMismatch).bind
      (Traced.balanced_pure false _)

/-- The object that a command lets go of. -/
def letGo (ses : Session) : Command → Option Object
  | .make name how =>
    match (ses.build how).value with
    | .ok _ => ses.objects.get? name
    | .error _ => none
  | .use _ _ => none
  | .drop name => ses.objects.get? name

/-- How many objects that satisfy `p` a run of commands lets go of. -/
def strays (p : Object → Bool) (ses : Session) : List Command → Nat
  | [] => 0
  | c :: rest => ((ses.letGo c).any p).toNat + (ses.step c).2.strays p rest

/-- One command keeps the account of the objects: what it opens is closed, or is held after it, or
strays. -/
theorem count_holds_answer (ses : Session) (c : Command) :
    ses.objects.count Object.holds + (ses.answer c).count Event.isOpened =
      (ses.answer c).count Event.isClosed + (ses.answer c).value.2.count Object.holds +
        ((ses.letGo c).any Object.isOpenCursor).toNat := by
  cases c with
  | make name how =>
    have hbuild := (ses.balanced_build how).count
    simp only [answer, letGo, Traced.count_bind, Traced.value_bind]
    cases hvalue : (ses.build how).value with
    | error reply =>
      rw [hvalue] at hbuild
      simp only [Except.toOption, Option.any_none, Bool.toNat_false] at hbuild
      simp only [Traced.count_pure, Traced.value_pure, Option.any_none, Bool.toNat_false]
      omega
    | ok o =>
      have hdrop := (Object.balanced_dropAny (ses.objects.get? name)).count
      have hinsert := ses.objects.count_insert Object.holds name o
      rw [hvalue] at hbuild
      simp only [Except.toOption, Option.any_some, Bool.toNat_false] at hbuild
      simp only [Traced.count_bind, Traced.value_bind, Traced.count_pure, Traced.value_pure]
      omega
  | use name what =>
    simp only [answer, letGo]
    cases hname : ses.objects.get? name with
    | none =>
      simp only [Traced.count_pure, Traced.value_pure, Option.any_none, Bool.toNat_false]
      omega
    | some o =>
      have huse := (o.balanced_use ses.source what).count
      have hinsert := ses.objects.count_insert Object.holds name (o.use ses.source what).value.2
      rw [hname] at hinsert
      rw [Option.any_some] at hinsert
      simp only [Traced.count_bind, Traced.value_bind, Traced.count_pure, Traced.value_pure,
        Option.any_none, Bool.toNat_false]
      omega
  | drop name =>
    have herase := ses.objects.count_erase Object.holds name
    simp only [answer, letGo]
    cases hname : ses.objects.get? name with
    | none =>
      simp only [Traced.count_pure, Traced.value_pure, Option.any_none, Bool.toNat_false]
      omega
    | some o =>
      have hdrop := o.balanced_drop.count
      rw [hname] at herase
      rw [Option.any_some] at herase
      simp only [Traced.count_bind, Traced.value_bind, Traced.count_pure, Traced.value_pure,
        Option.any_some]
      omega

/-- The cursors that a source has opened are those that it has closed, those that objects hold, and
`lost` others. -/
def Settled (ses : Session) (lost : Nat) : Prop :=
  ses.tally.opened = ses.tally.closed + ses.objects.count Object.holds + lost

theorem settled_startKnowing (known : List Nat) (src : Source) :
    (startKnowing known src).Settled 0 := rfl

theorem Settled.step {ses : Session} {lost : Nat} (h : ses.Settled lost) (c : Command) :
    (ses.step c).2.Settled (lost + ((ses.letGo c).any Object.isOpenCursor).toNat) := by
  have hanswer := ses.count_holds_answer c
  unfold Settled at h ⊢
  simp only [Traced.count] at hanswer
  simp only [Session.step, Tally.opened_addAll, Tally.closed_addAll]
  omega

theorem Settled.run {ses : Session} {lost : Nat} (h : ses.Settled lost) (cmds : List Command) :
    (ses.run cmds).2.Settled (lost + ses.strays Object.isOpenCursor cmds) := by
  induction cmds generalizing ses lost with
  | nil => exact h
  | cons c rest ih =>
    have hrest := ih (h.step c)
    rw [Nat.add_assoc] at hrest
    exact hrest

/-- Dropping every object closes every cursor that is held, but for the bare ones. -/
theorem balance_dropAll (es : List (String × Object)) :
    (es.countP fun e => e.2.holds) + (dropAll es).count Event.isOpened =
      (dropAll es).count Event.isClosed + es.countP fun e => e.2.isOpenCursor := by
  induction es with
  | nil => rfl
  | cons e rest ih =>
    have hdrop := e.2.balanced_drop.count
    simp only [dropAll, Traced.count_bind, List.countP_cons]
    cases hh : e.2.holds <;> cases hc : e.2.isOpenCursor <;> simp [hh, hc] at hdrop ⊢ <;> omega

/-- Makes an object, uses it for one thing after another, and lets go of it: the object as it was
at the last, if it could be made. -/
def lifetime (ses : Session) (how : Making) (whats : List Action) : Traced (Option Object) := do
  match ← ses.build how with
  | .ok o => do
    let last ← o.useAll ses.source whats
    last.drop
    return some last
  | .error _ => return none

theorem balanced_lifetime (ses : Session) (how : Making) (whats : List Action) :
    (ses.lifetime how whats).Balanced false
      ((ses.lifetime how whats).value.any Object.isOpenCursor) := by
  apply (ses.balanced_build how).bind
  unfold lifetime
  rw [Traced.value_bind]
  cases (ses.build how).value with
  | ok o =>
    apply (o.balanced_useAll ses.source whats).bind
    exact (Object.balanced_drop _).bind (Traced.balanced_pure _ _)
  | error reply => exact Traced.balanced_pure false _

/-- Once the objects that are left have been dropped, the bare cursors that they hold are open still,
and so are the lost ones. -/
theorem Settled.finish {ses : Session} {lost : Nat} (h : ses.Settled lost) :
    ses.finish.opened = ses.finish.closed + (ses.objects.count Object.isOpenCursor + lost) := by
  have hdrop := balance_dropAll ses.objects.toList
  have hholds : ses.objects.count Object.holds =
      ses.objects.toList.countP fun e => e.2.holds := rfl
  have hbare : ses.objects.count Object.isOpenCursor =
      ses.objects.toList.countP fun e => e.2.isOpenCursor := rfl
  unfold Settled at h
  unfold Traced.count at hdrop
  simp only [Session.finish, Tally.opened_addAll, Tally.closed_addAll]
  omega

end Session

end Recordset
