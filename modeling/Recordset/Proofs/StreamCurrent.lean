import Mathlib.Data.List.Induction
import Recordset.Proofs.StreamUses
import Recordset.Record.Catalog

/-!
# The record at hand

A stream that reads has left what its statement has after the rows read so far, and a record at hand
is the last of these rows, decoded: `RecordStream.Tracks` says so, and every use of a stream keeps
it (`Object.tracks_useAll`). A record is at hand exactly if the last advance found it and nothing
has taken it away since (`Object.hasCurrent_useAll_iff`). `current_is_last_row` is the top theorem.
-/

set_option autoImplicit false

namespace Recordset

/-- How many rows were read from the cursor opened last, when `n` were before the event. -/
def Event.readsAfter (n : Nat) : Event → Nat
  | opened _ => 0
  | rowRead => n + 1
  | closed | logged _ => n

namespace Traced

variable {α β : Type}

/-- How many rows were read from the cursor opened last, when `n` were before. -/
def readsAfter (n : Nat) (t : Traced α) : Nat := t.events.foldl Event.readsAfter n

@[simp] theorem readsAfter_pure (n : Nat) (x : α) : (pure x : Traced α).readsAfter n = n := rfl

@[simp] theorem readsAfter_bind (n : Nat) (t : Traced α) (f : α → Traced β) :
    (t >>= f).readsAfter n = (f t.value).readsAfter (t.readsAfter n) := List.foldl_append

/-- A computation that opens no cursor reads on from the one that is open. -/
theorem readsAfter_of_executed {t : Traced α} (h : t.executed = []) (n : Nat) :
    t.readsAfter n = n + t.count Event.isRowRead := by
  unfold executed at h
  unfold readsAfter count
  generalize t.events = es at h
  induction es generalizing n with
  | nil => rfl
  | cons e rest ih =>
    cases e with
    | opened s => cases h
    | rowRead =>
      rw [List.foldl_cons, ih _ h, List.countP_cons_of_pos rfl]
      simp only [Event.readsAfter]
      omega
    | closed | logged _ => exact ih n h

end Traced

namespace RecordStream

variable {M : Model} {st : RecordStream M} {n : Nat}

/-- A record that seeking finds is the last row read, and the feed that is left has the rows
after it. -/
theorem seek_found {s : Statement} {onMismatch : OnMismatch} {feed rest : Feed} {r : M.Record}
    (h : (seek M s onMismatch feed).value = .ok (some (r, rest))) :
    ∃ k row, (seek M s onMismatch feed).count Event.isRowRead = k + 1 ∧
      feed.rows[k]? = some row ∧ M.mapping.decode row = .ok r ∧
      rest.rows = feed.rows.drop (k + 1) := by
  induction feed with
  | finished | failing message => cases h
  | row first feed ih =>
    cases hdecode : M.mapping.decode first with
    | ok r' =>
      simp only [seek, Traced.value_bind, hdecode, Traced.value_pure] at h
      cases h
      refine ⟨0, first, ?_, rfl, hdecode, rfl⟩
      simp [seek, hdecode, Event.isRowRead]
    | error e =>
      cases onMismatch with
      | fail =>
        simp only [seek, Traced.value_bind, hdecode, Traced.value_pure] at h
        cases h
      | skipRow =>
        have hskip : (seek M s .skipRow (.row first feed)).value =
            (seek M s .skipRow feed).value := by
          simp [seek, hdecode]
        obtain ⟨k, row, hcount, hrow, hrecord, hrest⟩ := ih (hskip ▸ h)
        refine ⟨k + 1, row, ?_, hrow, hrecord, hrest⟩
        have hmore : (seek M s .skipRow (.row first feed)).count Event.isRowRead =
            1 + (seek M s .skipRow feed).count Event.isRowRead := by
          simp [seek, hdecode, Event.isRowRead]
        omega

/-- With `n` rows read from an open cursor, the rows that are left are those that the statement has
after them, and a record at hand is the last of the rows read. -/
def Tracks (st : RecordStream M) (n : Nat) : Prop :=
  ∀ feed current, st.progress = .reading feed current →
    ∃ all, st.source.script? st.statement = some (.rows all) ∧ feed.rows = all.rows.drop n ∧
      ∀ r, current = some r →
        ∃ k row, n = k + 1 ∧ all.rows[k]? = some row ∧ M.mapping.decode row = .ok r

theorem tracks_of_phase_ne (h : st.phase ≠ .reading) (n : Nat) : st.Tracks n := by
  intro feed current hprogress
  rw [phase, hprogress] at h
  exact absurd rfl h

theorem Tracks.clearCurrent (h : st.Tracks n) : st.clearCurrent.Tracks n := by
  obtain ⟨src, s, onMismatch, progress⟩ := st
  cases progress with
  | idle | exhausted | disposed => exact h
  | reading feed current =>
    intro feed' current' hprogress
    cases hprogress
    obtain ⟨all, hscript, hrows, -⟩ := h feed current rfl
    exact ⟨all, hscript, hrows, fun r hr => nomatch hr⟩

/-- Reading on from a feed with `n` rows before it. -/
theorem tracks_advanceOn {feed all : Feed}
    (hscript : st.source.script? st.statement = some (.rows all))
    (hfeed : feed.rows = all.rows.drop n) :
    (st.advanceOn feed).value.2.Tracks ((st.advanceOn feed).readsAfter n) := by
  rw [Traced.readsAfter_of_executed (st.executed_advanceOn feed), reads_advanceOn,
    value_advanceOn]
  cases hfound : (seek M st.statement st.onMismatch feed).value with
  | error e => exact tracks_of_phase_ne (by simp [phase, Progress.phase]) _
  | ok found =>
    cases found with
    | none => exact tracks_of_phase_ne (by simp [phase, Progress.phase]) _
    | some found =>
      obtain ⟨k, row, hcount, hrow, hdecode, hrest⟩ := seek_found hfound
      intro feed' current hprogress
      cases hprogress
      refine ⟨all, hscript, ?_, ?_⟩
      · rw [hrest, hfeed, hcount, List.drop_drop]
      · intro r hr
        cases hr
        refine ⟨n + k, row, by omega, ?_, hdecode⟩
        rw [← hrow, hfeed, List.getElem?_drop]

theorem Tracks.advance (h : st.Tracks n) :
    st.advance.value.2.Tracks (st.advance.readsAfter n) := by
  obtain ⟨src, s, onMismatch, progress⟩ := st
  cases progress with
  | exhausted | disposed => exact h
  | reading feed current =>
    obtain ⟨all, hscript, hrows, -⟩ := h feed current rfl
    exact tracks_advanceOn hscript hrows
  | idle =>
    cases hscript : src.script? s with
    | none =>
      apply tracks_of_phase_ne
      simp [RecordStream.advance, Statement.acquire, Source.openFeed, hscript, phase,
        Progress.phase]
    | some script =>
      cases script with
      | refuse message =>
        apply tracks_of_phase_ne
        simp [RecordStream.advance, Statement.acquire, Source.openFeed, hscript, phase,
          Progress.phase]
      | rows feed =>
        -- The cursor that is opened has all rows of the statement left.
        let opened : RecordStream M := ⟨src, s, onMismatch, .reading feed none⟩
        let st : RecordStream M := ⟨src, s, onMismatch, .idle⟩
        have hvalue : st.advance.value = (opened.advanceOn feed).value := by
          simp [st, opened, RecordStream.advance, Statement.acquire, Source.openFeed, hscript]
        have hreads : st.advance.readsAfter n = (opened.advanceOn feed).readsAfter 0 := by
          simp only [st, opened, RecordStream.advance, Statement.acquire, Source.openFeed,
            hscript, Traced.readsAfter_bind, Traced.value_bind, Traced.value_pure, value_moveTo]
          rfl
        show st.advance.value.2.Tracks (st.advance.readsAfter n)
        rw [hvalue, hreads]
        exact tracks_advanceOn hscript rfl

theorem Tracks.next (h : st.Tracks n) : st.next.value.2.Tracks (st.next.readsAfter n) := by
  have hmoved := h.advance
  unfold RecordStream.next
  rw [Traced.value_bind, Traced.readsAfter_bind]
  generalize st.advance.value = advanced at hmoved ⊢
  obtain ⟨found, moved⟩ := advanced
  match found with
  | .ok true => exact hmoved.clearCurrent
  | .ok false => exact hmoved
  | .error e => exact hmoved

theorem Tracks.take (h : st.Tracks n) (k : Nat) :
    (st.take k).value.2.Tracks ((st.take k).readsAfter n) := by
  induction k generalizing st n with
  | zero => exact h
  | succ k ih =>
    have hmoved := h.next
    rw [RecordStream.take, Traced.value_bind, Traced.readsAfter_bind]
    generalize st.next.value = pulled at hmoved ⊢
    obtain ⟨item, moved⟩ := pulled
    cases item with
    | none => exact hmoved
    | some x =>
      simp only [Traced.value_bind, Traced.readsAfter_bind, Traced.value_pure,
        Traced.readsAfter_pure]
      exact ih hmoved

/-- An advance leaves a record at hand exactly if it tells that it found one. -/
theorem isSome_current_advance (st : RecordStream M) :
    st.advance.value.2.current.isSome = true ↔ st.advance.value.1 = .ok true := by
  cases st.asked with
  | found r rest advanced value => simp [advanced, current]
  | ended p closed advanced value => rcases closed with rfl | rfl <;> simp [advanced, current]
  | failed e advanced value => simp [advanced, current]

theorem current_clearCurrent (st : RecordStream M) : st.clearCurrent.current = none := by
  obtain ⟨src, s, onMismatch, progress⟩ := st
  cases progress with
  | idle | reading _ _ | exhausted | disposed => rfl

theorem current_reset (st : RecordStream M) : st.reset.value.current = none := by
  obtain ⟨src, s, onMismatch, progress⟩ := st
  cases progress with
  | idle | reading _ _ | exhausted | disposed => rfl

theorem current_dispose (st : RecordStream M) : st.dispose.value.current = none := by
  obtain ⟨src, s, onMismatch, progress⟩ := st
  cases progress with
  | idle | reading _ _ | exhausted | disposed => rfl

theorem current_next (st : RecordStream M) : st.next.value.2.current = none := by
  cases st.asked with
  | found r rest advanced value => rw [value]; rfl
  | ended p closed advanced value =>
    rw [value]
    rcases closed with rfl | rfl <;> rfl
  | failed e advanced value => rw [value]; rfl

theorem exists_reading_of_current {r : M.Record} (h : st.current = some r) :
    ∃ feed, st.progress = .reading feed (some r) := by
  obtain ⟨src, s, onMismatch, progress⟩ := st
  cases progress with
  | idle | exhausted | disposed => cases h
  | reading feed current =>
    cases h
    exact ⟨feed, rfl⟩

/-- Asking for the next item finds none exactly if an advance finds no record and does not fail. -/
theorem next_eq_none_iff (st : RecordStream M) :
    st.next.value.1 = none ↔ st.advance.value.1 = .ok false := by
  cases st.asked with
  | found r rest advanced value => simp [advanced, value]
  | ended p closed advanced value => simp [advanced, value]
  | failed e advanced value => simp [advanced, value]

theorem current_take (st : RecordStream M) (k : Nat) :
    (st.take k).value.2.current = if k = 0 then st.current else none := by
  induction k generalizing st with
  | zero => rfl
  | succ k ih =>
    have hmoved := st.current_next
    rw [take, Traced.value_bind]
    generalize st.next.value = pulled at hmoved ⊢
    obtain ⟨item, moved⟩ := pulled
    cases item with
    | none => exact hmoved
    | some x =>
      have hrest := ih moved
      rw [hmoved, ite_self] at hrest
      exact hrest

end RecordStream

/-- The actions that leave no record at hand. Taking no items is not one of them. -/
def Action.clears : Action → Bool
  | takeCurrent | next | drain | collect | reset | dispose => true
  | take n => n ≠ 0
  | cursorNext | cursorClose | readerRead | readerClose | readerIsClosed | readerStatement
  | tableInfo | queryInfo | queryStatement | queryToList | advance | current | phase
  | streamStatement => false

namespace Object

variable {M : Model}

/-- A record is at hand. -/
def hasCurrent : Object → Bool
  | stream _ st => st.current.isSome
  | cursor _ | reader _ | table _ | query _ => false

theorem reply_advance_iff (st : RecordStream M) (b : Bool) :
    (useStream M st .advance).value.1 = .advanced b ↔ st.advance.value.1 = .ok b := by
  rw [useStream_advance]
  simp only [Traced.value_bind, Traced.value_pure]
  cases st.advance.value.1 <;> simp [Reply.ofAdvance]

/-- What a use does to the rows that a stream has coming and to its record at hand. -/
theorem tracks_useStream {st : RecordStream M} {n : Nat} (h : st.Tracks n) (what : Action) :
    ∃ moved : RecordStream M, (useStream M st what).value.2 = stream M moved ∧
      moved.Tracks ((useStream M st what).readsAfter n) := by
  cases what with
  | advance =>
    rw [useStream_advance]
    exact ⟨st.advance.value.2, rfl, by simpa using h.advance⟩
  | takeCurrent => exact ⟨st.clearCurrent, rfl, h.clearCurrent⟩
  | next => exact ⟨st.next.value.2, rfl, by simpa [useStream] using h.next⟩
  | take k => exact ⟨(st.take k).value.2, rfl, by simpa [useStream] using h.take k⟩
  | drain =>
    refine ⟨st.drain.value.2, rfl, ?_⟩
    simpa [useStream, RecordStream.drain] using h.take (st.supply + 1)
  | collect =>
    rw [useStream_collect]
    refine ⟨st.collect.value.2, rfl, ?_⟩
    simpa [RecordStream.collect, RecordStream.drain] using h.take (st.supply + 1)
  | reset =>
    refine ⟨st.reset.value, rfl, RecordStream.tracks_of_phase_ne ?_ _⟩
    have hreset := st.isReading_reset
    simpa [RecordStream.isReading] using hreset
  | dispose =>
    refine ⟨st.dispose.value, rfl, RecordStream.tracks_of_phase_ne ?_ _⟩
    have hdispose := st.isReading_dispose
    simpa [RecordStream.isReading] using hdispose
  | _ => exact ⟨st, rfl, h⟩

theorem tracks_useAll {st last : RecordStream M} {n : Nat} {src : Source} {whats : List Action}
    (h : st.Tracks n) (hlast : ((stream M st).useAll src whats).value = stream M last) :
    last.Tracks (((stream M st).useAll src whats).readsAfter n) := by
  induction whats generalizing st n with
  | nil =>
    cases hlast
    exact h
  | cons what rest ih =>
    obtain ⟨moved, hvalue, hmoved⟩ := tracks_useStream h what
    have huse : ((stream M st).use src what).value.2 = stream M moved := hvalue
    rw [useAll_cons, Traced.value_bind, huse] at hlast
    rw [useAll_cons, Traced.readsAfter_bind, huse]
    exact ih hmoved hlast

theorem hasCurrent_advance (st : RecordStream M) :
    (useStream M st .advance).value.2.hasCurrent = true ↔
      (useStream M st .advance).value.1 = .advanced true := by
  rw [reply_advance_iff, ← st.isSome_current_advance, useStream_advance]
  rfl

theorem hasCurrent_of_clears (st : RecordStream M) {what : Action} (h : what.clears = true) :
    (useStream M st what).value.2.hasCurrent = false := by
  have hgone : ∀ {o : Object} {moved : RecordStream M}, o = stream M moved →
      moved.current = none → o.hasCurrent = false := by
    intro o moved ho hnone
    rw [ho, hasCurrent, hnone]
    rfl
  cases what with
  | takeCurrent => exact hgone rfl st.current_clearCurrent
  | next => exact hgone rfl st.current_next
  | take k =>
    have hk : k ≠ 0 := by simpa [Action.clears] using h
    exact hgone rfl ((st.current_take k).trans (if_neg hk))
  | drain => exact hgone rfl (st.current_take (st.supply + 1))
  | collect =>
    rw [useStream_collect]
    exact hgone rfl (st.current_take (st.supply + 1))
  | reset => exact hgone rfl st.current_reset
  | dispose => exact hgone rfl st.current_dispose
  | _ => cases h

/-- An action that neither advances a stream nor clears its record leaves it as it is. -/
theorem useStream_of_keeps (st : RecordStream M) {what : Action} (hwhat : what ≠ .advance)
    (h : what.clears = false) : (useStream M st what).value.2 = stream M st := by
  cases what with
  | advance => contradiction
  | take k =>
    have hk : k = 0 := by simpa [Action.clears] using h
    rw [hk]
    rfl
  | takeCurrent | next | drain | collect | reset | dispose => cases h
  | _ => rfl

/-- A record is at hand after a use exactly if the use is an advance that finds it, or if it was at
hand before and the use leaves it there. -/
theorem hasCurrent_useStream (st : RecordStream M) (what : Action) :
    (useStream M st what).value.2.hasCurrent = true ↔
      (what = .advance ∧ (useStream M st .advance).value.1 = .advanced true) ∨
        (what ≠ .advance ∧ what.clears = false ∧ st.current.isSome = true) := by
  by_cases hwhat : what = .advance
  · rw [hwhat, hasCurrent_advance]
    simp
  · cases hclears : what.clears with
    | true => simp [hasCurrent_of_clears st hclears, hwhat]
    | false => simp [useStream_of_keeps st hwhat hclears, hwhat, hasCurrent]

/-- The last advance among the uses of an object found a record, and none of the uses after it takes
the record away. -/
def LastFound (src : Source) (o : Object) (whats : List Action) : Prop :=
  ∃ past later, whats = past ++ .advance :: later ∧
    ((o.useAll src past).value.use src .advance).value.1 = .advanced true ∧
    ∀ what ∈ later, what ≠ .advance ∧ what.clears = false

theorem lastFound_concat (src : Source) (o : Object) (whats : List Action) (what : Action) :
    o.LastFound src (whats ++ [what]) ↔
      (what = .advance ∧
        ((o.useAll src whats).value.use src .advance).value.1 = .advanced true) ∨
        (what ≠ .advance ∧ what.clears = false ∧ o.LastFound src whats) := by
  constructor
  · rintro ⟨past, later, hwhats, hfound, hlater⟩
    rcases List.eq_nil_or_concat later with rfl | ⟨before, last, rfl⟩
    · obtain ⟨rfl, hwhat⟩ := List.append_inj' hwhats rfl
      exact .inl ⟨List.singleton_inj.1 hwhat, hfound⟩
    · rw [List.concat_eq_append] at hlater
      rw [List.concat_eq_append, ← List.cons_append, ← List.append_assoc] at hwhats
      obtain ⟨rfl, hwhat⟩ := List.append_inj' hwhats rfl
      obtain rfl := List.singleton_inj.1 hwhat
      obtain ⟨hbefore, hlast⟩ := List.forall_mem_append.1 hlater
      obtain ⟨hwhat, hclears⟩ := hlast what List.mem_cons_self
      exact .inr ⟨hwhat, hclears, past, before, rfl, hfound, hbefore⟩
  · rintro (⟨rfl, hfound⟩ | ⟨hwhat, hclears, past, later, rfl, hfound, hlater⟩)
    · exact ⟨whats, [], rfl, hfound, fun what hwhat => nomatch hwhat⟩
    · refine ⟨past, later ++ [what], by simp, hfound, ?_⟩
      exact List.forall_mem_append.2 ⟨hlater, by simp [hwhat, hclears]⟩

/-- By induction on the uses from the last one backwards. -/
theorem hasCurrent_useAll_iff (src : Source) (s : Statement) (onMismatch : OnMismatch)
    (whats : List Action) :
    let made := stream M (.unread src s onMismatch)
    (made.useAll src whats).value.hasCurrent = true ↔ made.LastFound src whats := by
  intro made
  induction whats using List.reverseRecOn with
  | nil =>
    refine ⟨(fun h => nomatch h), ?_⟩
    rintro ⟨past, later, hwhats, -⟩
    simp at hwhats
  | append_singleton whats what ih =>
    obtain ⟨progress, hused⟩ := exists_progress_useAll src (.unread src s onMismatch) whats
    rw [hused] at ih
    rw [useAll_concat, lastFound_concat, ← ih, Traced.value_bind, hused]
    exact hasCurrent_useStream _ what

/-- Over everything that a stream is used for, a record is at hand only while the stream reads, and
then it is the row read last from the open cursor, decoded. There is one exactly if the last
advance told that it found one and nothing has taken it away since, so it is there after each
advance that tells so, and it is gone after any other advance and after everything that takes
records or starts over. Asking for the next item finds none only where an advance finds none. -/
theorem current_is_last_row (M : Model) (src : Source) (s : Statement)
    (onMismatch : OnMismatch) (whats : List Action) :
    let made := stream M (RecordStream.create src s onMismatch).value
    let used := made.useAll src whats
    let after := used.value.use src
    ∃ st : RecordStream M, used.value = stream M st ∧
      (∀ r, st.current = some r → st.phase = .reading ∧
        ∃ feed k row, src.script? s = some (.rows feed) ∧ used.readsAfter 0 = k + 1 ∧
          feed.rows[k]? = some row ∧ M.mapping.decode row = .ok r) ∧
      (st.current.isSome = true ↔ made.LastFound src whats) ∧
      ((after .advance).value.2.hasCurrent = true ↔ (after .advance).value.1 = .advanced true) ∧
      (∀ what, what.clears = true → (after what).value.2.hasCurrent = false) ∧
      ((after .next).value.1 = .item M none ↔ (after .advance).value.1 = .advanced false) := by
  intro made used after
  let start : RecordStream M := .unread src s onMismatch
  obtain ⟨progress, hused⟩ := exists_progress_useAll src start whats
  let st : RecordStream M := { start with progress := progress }
  have hafter : after = useStream M st := congrArg (use src) hused
  have hst : used.value.hasCurrent = st.current.isSome := congrArg hasCurrent hused
  have hstart : start.Tracks 0 := fun feed current h => nomatch h
  refine ⟨st, hused, ?_, ?_, ?_, ?_, ?_⟩
  · intro r hr
    obtain ⟨feed, hreading⟩ := RecordStream.exists_reading_of_current hr
    obtain ⟨all, hscript, -, hlast⟩ := tracks_useAll hstart hused feed (some r) hreading
    obtain ⟨k, row, hreads, hrow, hdecode⟩ := hlast r rfl
    refine ⟨?_, all, k, row, hscript, hreads, hrow, hdecode⟩
    rw [RecordStream.phase, hreading]
    rfl
  · rw [← hst]
    exact hasCurrent_useAll_iff src s onMismatch whats
  · rw [hafter]
    exact hasCurrent_advance st
  · intro what hclears
    rw [hafter]
    exact hasCurrent_of_clears st hclears
  · rw [hafter, reply_advance_iff, ← st.next_eq_none_iff]
    simp [useStream]

-- The row that is no record is read and left out, and the row after it is at hand.
example :
    let s : Statement := ⟨"SELECT * FROM T"⟩
    let bad := Row.empty.insert "ID" (.varchar "x")
    let src := Source.empty.register s (.rows (.row bad (.row .empty (.failing "timeout"))))
    let used := (stream .customer (.unread src s .skipRow)).useAll src [.advance, .phase]
    used.value.hasCurrent = true ∧ used.readsAfter 0 = 2 := by
  decide +kernel

end Object

end Recordset
