import Recordset.Proofs.StreamCourse
import Recordset.Session

/-!
# Pulling at a stream

A stream is pulled at in several ways: by one advance, by an advance that takes the record, by
taking some items or all of them, and by collecting the records. `Course.answers` says what a mix
of pulls must answer when the items are read off the course of the stream by position, one
position for each single advance. `replies_of_pulls` is the top theorem: a stream of a session
answers every mix of pulls so, and the rows read at each point are those the course names.
-/

set_option autoImplicit false

namespace Recordset

/-- One way of pulling at a stream, or of looking at it. -/
inductive Pull where
  | advance | next
  | take (n : Nat)
  | drain | collect
  | current | takeCurrent | phase

/-- The action of a session that pulls so. -/
def Pull.action : Pull → Action
  | advance => .advance
  | next => .next
  | take n => .take n
  | drain => .drain
  | collect => .collect
  | current => .current
  | takeCurrent => .takeCurrent
  | phase => .phase

namespace Course

variable {M : Model}

def results (c : Course M) : List (Except Failure M.Record) := c.items.map Prod.fst

/-- The phase of a stream after `k` single advances, with the rows read by then. -/
def after (c : Course M) : Nat → Phase × Nat
  | 0 => (.idle, 0)
  | k + 1 =>
    match c.items[k]? with
    | some (.ok _, n) => (.reading, n)
    | some (.error _, n) => (.disposed, n)
    | none => c.stop

/-- The record that the single advance numbered `k` finds. -/
def record? (c : Course M) (k : Nat) : Option M.Record :=
  match c.items[k]? with
  | some (.ok r, _) => some r
  | some (.error _, _) | none => none

/-- What the single advance numbered `k` tells. -/
def outcome (c : Course M) (k : Nat) : Except Failure Bool :=
  match c.items[k]? with
  | some (.ok _, _) => .ok true
  | some (.error e, _) => .error e
  | none => .ok false

/-- The single advances that find every item from position `k` on, and the end after them. -/
def advancesToEnd (c : Course M) (k : Nat) : Nat := c.items.length - k + 1

/-- The failure that an item is, if it is one. -/
def failure? : Except Failure M.Record → Option Failure
  | .ok _ => none
  | .error e => some e

/-- What collecting some items answers: the first failure among them, or else the records. -/
def collected (xs : List (Except Failure M.Record)) : Reply :=
  match xs.findSome? failure? with
  | some e => .failed e
  | none => .records M (xs.filterMap Except.toOption)

theorem collected_eq_gather (xs : List (Except Failure M.Record)) :
    collected xs =
      match RecordStream.gather xs with
      | .ok rs => .records M rs
      | .error e => .failed e := by
  induction xs with
  | nil => rfl
  | cons x rest ih =>
    cases x with
    | error e => rfl
    | ok r =>
      have hfirst : (Except.ok r :: rest).findSome? failure? = rest.findSome? failure? := rfl
      have hrecords : (Except.ok r :: rest).filterMap Except.toOption =
          r :: rest.filterMap (Except.toOption : Except Failure M.Record → _) := rfl
      simp only [collected, hfirst, hrecords, RecordStream.gather] at ih ⊢
      cases hfailure : rest.findSome? failure? <;>
        cases hgather : RecordStream.gather rest <;> simp_all

/-- How far a mix of pulls has come. -/
structure Place (M : Model) where
  advances : Nat
  atHand : Option M.Record

def Place.start : Place M := ⟨0, none⟩

/-- What a pull at a place answers, and the place after it. -/
def pull (c : Course M) (here : Place M) : Pull → Reply × Place M
  | .advance =>
    match c.outcome here.advances with
    | .ok found => (.advanced found, ⟨here.advances + 1, c.record? here.advances⟩)
    | .error e => (.failed e, ⟨here.advances + 1, none⟩)
  | .next => (.item M c.results[here.advances]?, ⟨here.advances + 1, none⟩)
  | .take n =>
    (.items M ((c.results.drop here.advances).take n),
      ⟨here.advances + min n (c.advancesToEnd here.advances),
        if n = 0 then here.atHand else none⟩)
  | .drain =>
    (.items M (c.results.drop here.advances),
      ⟨here.advances + c.advancesToEnd here.advances, none⟩)
  | .collect =>
    (collected (c.results.drop here.advances),
      ⟨here.advances + c.advancesToEnd here.advances, none⟩)
  | .current => (.current M here.atHand, here)
  | .takeCurrent => (.current M here.atHand, { here with atHand := none })
  | .phase => (.phase (c.after here.advances).1, here)

/-- What a mix of pulls answers from a place on, each answer with the rows read after it. -/
def answers (c : Course M) : Place M → List Pull → List (Reply × Nat)
  | _, [] => []
  | here, p :: rest =>
    ((c.pull here p).1, (c.after (c.pull here p).2.advances).2) ::
      c.answers (c.pull here p).2 rest

theorem drop_eq_cons {c d : Course M} {k : Nat} {x : Except Failure M.Record × Nat}
    (h : c.drop k = .cons x d) : c.items[k]? = some x ∧ c.drop (k + 1) = d := by
  have hitems : c.items.drop k = x :: d.items := congrArg Course.items h
  have hstop : (c.drop k).stop = d.stop := by rw [h]; rfl
  constructor
  · rw [← List.head?_drop, hitems]
    rfl
  · unfold drop
    rw [← List.tail_drop, hitems, show c.stop = _ from hstop]
    rfl

theorem drop_eq_nil {c : Course M} {k : Nat} {stop : Phase × Nat}
    (h : c.drop k = ⟨[], stop⟩) : c.items[k]? = none ∧ c.drop (k + 1) = ⟨[], stop⟩ := by
  have hitems : c.items.drop k = [] := congrArg Course.items h
  have hstop : (c.drop k).stop = stop := by rw [h]
  constructor
  · rw [← List.head?_drop, hitems]
    rfl
  · unfold drop
    rw [← List.tail_drop, hitems, show c.stop = _ from hstop]
    rfl

theorem length_ofFeed_le (s : Statement) (onMismatch : OnMismatch) (n : Nat) (feed : Feed) :
    (ofFeed M s onMismatch n feed).items.length ≤ feed.size := by
  induction feed generalizing n with
  | finished => exact Nat.le_refl 0
  | failing message => exact Nat.le_refl 1
  | row row rest ih =>
    have hrest := ih (n + 1)
    rw [ofFeed_row, Feed.size]
    split
    · simp only [cons, List.length_cons]
      omega
    · simp only [failed, List.length_singleton]
      omega
    · omega

end Course

namespace RecordStream

variable {M : Model}

/-- No course ahead is longer than the supply of its stream. -/
theorem length_ahead_le_supply (st : RecordStream M) (n : Nat) :
    (st.ahead n).items.length ≤ st.supply := by
  obtain ⟨src, s, onMismatch, progress⟩ := st
  cases progress with
  | reading feed current => exact Course.length_ofFeed_le s onMismatch n feed
  | exhausted => exact Nat.le_refl 0
  | disposed => exact Nat.le_refl 0
  | idle =>
    simp only [ahead, supply, Source.supply, Course.ofStatement]
    cases src.script? s with
    | none => exact Nat.le_refl 1
    | some script =>
      cases script with
      | refuse message => exact Nat.le_refl 1
      | rows feed => exact Course.length_ofFeed_le s onMismatch n feed

/-- A stream stands at a place of a course: its phase and its record at hand are those of the
place, and what lies ahead of it is what the course has left. -/
structure At (st : RecordStream M) (c : Course M) (here : Course.Place M) : Prop where
  phase : st.phase = (c.after here.advances).1
  current : st.current = here.atHand
  ahead : st.ahead (c.after here.advances).2 = c.drop here.advances

/-- A stream that was just made stands at the start of its course. -/
theorem at_start (src : Source) (s : Statement) (onMismatch : OnMismatch) :
    (unread src s onMismatch : RecordStream M).At (.ofStatement M src s onMismatch 0) .start :=
  ⟨rfl, rfl, rfl⟩

/-- A single advance moves a stream on by one position, tells what the course has there, and reads
the rows up to it. -/
theorem At.advance {st : RecordStream M} {c : Course M} {here : Course.Place M}
    (h : st.At c here) :
    st.advance.value.2.At c ⟨here.advances + 1, c.record? here.advances⟩ ∧
      st.advance.value.1 = c.outcome here.advances ∧
      (c.after here.advances).2 + st.advance.count Event.isRowRead =
        (c.after (here.advances + 1)).2 := by
  obtain ⟨k, atHand⟩ := here
  have hcourse : st.ahead (c.after k).2 = c.drop k := h.ahead
  cases st.advanced_advance (c.after k).2 with
  | found r rest value ahead =>
    obtain ⟨hitem, hdrop⟩ := Course.drop_eq_cons (hcourse.symm.trans ahead)
    have hafter : c.after (k + 1) =
        (.reading, (c.after k).2 + st.advance.count Event.isRowRead) := by
      simp only [Course.after, hitem]
    refine ⟨⟨?_, ?_, ?_⟩, ?_, ?_⟩
    · rw [value, hafter]
      rfl
    · simp only [value, Course.record?, hitem]
      rfl
    · rw [value, hafter]
      exact hdrop.symm
    · simp only [value, Course.outcome, hitem]
    · rw [hafter]
  | ended p closed value ahead =>
    obtain ⟨hitem, hdrop⟩ := Course.drop_eq_nil (hcourse.symm.trans ahead)
    have hafter : c.after (k + 1) = c.stop := by
      simp only [Course.after, hitem]
    have hstop : c.stop = (p.phase, (c.after k).2 + st.advance.count Event.isRowRead) :=
      congrArg Course.stop hdrop
    refine ⟨⟨?_, ?_, ?_⟩, ?_, ?_⟩
    · rw [value, hafter, hstop]
      rfl
    · simp only [value, Course.record?, hitem]
      rcases closed with rfl | rfl <;> rfl
    · rw [value, hafter, hstop, hdrop]
      rcases closed with rfl | rfl <;> rfl
    · simp only [value, Course.outcome, hitem]
    · rw [hafter, hstop]
  | failed e value ahead =>
    rw [Course.failed_eq_cons] at ahead
    obtain ⟨hitem, hdrop⟩ := Course.drop_eq_cons (hcourse.symm.trans ahead)
    have hafter : c.after (k + 1) =
        (.disposed, (c.after k).2 + st.advance.count Event.isRowRead) := by
      simp only [Course.after, hitem]
    refine ⟨⟨?_, ?_, ?_⟩, ?_, ?_⟩
    · rw [value, hafter]
      rfl
    · simp only [value, Course.record?, hitem]
      rfl
    · rw [value, hafter]
      exact hdrop.symm
    · simp only [value, Course.outcome, hitem]
    · rw [hafter]

theorem At.clearCurrent {st : RecordStream M} {c : Course M} {here : Course.Place M}
    (h : st.At c here) : st.clearCurrent.At c { here with atHand := none } := by
  obtain ⟨src, s, onMismatch, progress⟩ := st
  cases progress with
  | reading feed current => exact ⟨h.phase, rfl, h.ahead⟩
  | idle => exact ⟨h.phase, rfl, h.ahead⟩
  | exhausted => exact ⟨h.phase, rfl, h.ahead⟩
  | disposed => exact ⟨h.phase, rfl, h.ahead⟩

/-- Asking for the next item is a single advance that yields the item of its position. -/
theorem At.next {st : RecordStream M} {c : Course M} {here : Course.Place M}
    (h : st.At c here) :
    st.next.value.2.At c ⟨here.advances + 1, none⟩ ∧
      st.next.value.1 = c.results[here.advances]? ∧
      (c.after here.advances).2 + st.next.count Event.isRowRead =
        (c.after (here.advances + 1)).2 := by
  obtain ⟨hmoved, houtcome, hrows⟩ := h.advance
  have hresult : c.results[here.advances]? = (c.items[here.advances]?).map Prod.fst := by
    rw [Course.results, List.getElem?_map]
  have hcurrent := hmoved.current
  simp only [Course.outcome] at houtcome
  simp only [Course.record?] at hmoved hcurrent
  unfold RecordStream.next
  simp only [Traced.value_bind, Traced.count_bind]
  cases hitem : c.items[here.advances]? with
  | none =>
    simp only [hitem] at houtcome hmoved
    rw [hresult, hitem, houtcome]
    exact ⟨hmoved, rfl, hrows⟩
  | some x =>
    obtain ⟨item, m⟩ := x
    cases item with
    | ok r =>
      simp only [hitem] at houtcome hmoved hcurrent
      rw [hresult, hitem, houtcome]
      refine ⟨hmoved.clearCurrent, ?_, hrows⟩
      simp only [Traced.value_pure, hcurrent, Option.map_some]
    | error e =>
      simp only [hitem] at houtcome hmoved
      rw [hresult, hitem, houtcome]
      exact ⟨hmoved, rfl, hrows⟩

/-- Taking items takes them off the course from the position of the stream on. The last of the
single advances finds the end if the course has fewer items left. -/
theorem At.take {st : RecordStream M} {c : Course M} {here : Course.Place M} (n : Nat)
    (h : st.At c here) :
    (st.take n).value.2.At c
        ⟨here.advances + min n (c.advancesToEnd here.advances),
          if n = 0 then here.atHand else none⟩ ∧
      (st.take n).value.1 = (c.results.drop here.advances).take n ∧
      (c.after here.advances).2 + (st.take n).count Event.isRowRead =
        (c.after (here.advances + min n (c.advancesToEnd here.advances))).2 := by
  induction n generalizing st here with
  | zero =>
    simp only [Nat.zero_min, Nat.add_zero, if_true, List.take_zero]
    exact ⟨h, rfl, rfl⟩
  | succ n ih =>
    obtain ⟨hmoved, hitem, hrows⟩ := h.next
    have hlength : c.results.length = c.items.length := List.length_map _
    simp only [RecordStream.take, Traced.value_bind, Traced.count_bind, hitem,
      Nat.succ_ne_zero, if_false]
    cases hresult : c.results[here.advances]? with
    | none =>
      have hend : c.items.length ≤ here.advances := by
        rw [← hlength]
        exact List.getElem?_eq_none_iff.1 hresult
      have hmin : min (n + 1) (c.advancesToEnd here.advances) = 1 := by
        unfold Course.advancesToEnd
        omega
      rw [hmin, List.drop_of_length_le (hlength ▸ hend)]
      exact ⟨hmoved, rfl, hrows⟩
    | some x =>
      have hlt : here.advances < c.items.length := by
        rw [← hlength]
        exact (List.getElem?_eq_some_iff.1 hresult).1
      have hmin : here.advances + min (n + 1) (c.advancesToEnd here.advances) =
          here.advances + 1 + min n (c.advancesToEnd (here.advances + 1)) := by
        unfold Course.advancesToEnd
        omega
      have hdrop : c.results.drop here.advances = x :: c.results.drop (here.advances + 1) := by
        rw [List.drop_eq_getElem_cons (hlength ▸ hlt)]
        congr 1
        exact (List.getElem?_eq_some_iff.1 hresult).2
      obtain ⟨hfinal, hrest, hmore⟩ := ih hmoved
      simp only [ite_self] at hfinal
      rw [hmin, hdrop, List.take_succ_cons]
      refine ⟨hfinal, ?_, ?_⟩
      · simp only [Traced.value_bind, Traced.value_pure, hrest]
      · simp only [Traced.count_bind, Traced.count_pure, Nat.add_zero]
        rw [← Nat.add_assoc, hrows]
        exact hmore

/-- Draining takes every item that the course has left, and finds the end. -/
theorem At.drain {st : RecordStream M} {c : Course M} {here : Course.Place M}
    (h : st.At c here) :
    st.drain.value.2.At c ⟨here.advances + c.advancesToEnd here.advances, none⟩ ∧
      st.drain.value.1 = c.results.drop here.advances ∧
      (c.after here.advances).2 + st.drain.count Event.isRowRead =
        (c.after (here.advances + c.advancesToEnd here.advances)).2 := by
  have hsupply : c.items.length - here.advances ≤ st.supply := by
    have hahead := st.length_ahead_le_supply (c.after here.advances).2
    rw [h.ahead] at hahead
    simpa only [Course.drop, List.length_drop] using hahead
  have hmin : min (st.supply + 1) (c.advancesToEnd here.advances) =
      c.advancesToEnd here.advances := by
    unfold Course.advancesToEnd
    omega
  have htake := h.take (st.supply + 1)
  rw [hmin, if_neg (Nat.succ_ne_zero _), List.take_of_length_le] at htake
  · exact htake
  · simp only [List.length_drop, Course.results, List.length_map]
    omega

end RecordStream

namespace Object

variable {M : Model}

/-- A stream at a place of a course answers a pull as the course does, and goes where it goes. -/
theorem useStream_pull {st : RecordStream M} {c : Course M} {here : Course.Place M} (p : Pull)
    (h : st.At c here) :
    (∃ moved : RecordStream M,
      (useStream M st p.action).value = ((c.pull here p).1, stream M moved) ∧
        moved.At c (c.pull here p).2) ∧
      (c.after here.advances).2 + (useStream M st p.action).count Event.isRowRead =
        (c.after (c.pull here p).2.advances).2 := by
  cases p with
  | advance =>
    obtain ⟨hmoved, houtcome, hrows⟩ := h.advance
    simp only [Pull.action, useStream, Course.pull, Traced.value_bind, Traced.count_bind, houtcome]
    cases hk : c.outcome here.advances with
    | ok found => exact ⟨⟨_, rfl, hmoved⟩, hrows⟩
    | error e =>
      have hnone : c.record? here.advances = none := by
        unfold Course.outcome at hk
        unfold Course.record?
        split at hk <;> simp_all
      rw [hnone] at hmoved
      exact ⟨⟨_, rfl, hmoved⟩, hrows⟩
  | next =>
    obtain ⟨hmoved, hitem, hrows⟩ := h.next
    simp only [Pull.action, useStream, Course.pull, Traced.value_bind, Traced.count_bind,
      Traced.value_pure, Traced.count_pure, hitem]
    exact ⟨⟨_, rfl, hmoved⟩, hrows⟩
  | take n =>
    obtain ⟨hmoved, hitems, hrows⟩ := h.take n
    simp only [Pull.action, useStream, Course.pull, Traced.value_bind, Traced.count_bind,
      Traced.value_pure, Traced.count_pure, hitems]
    exact ⟨⟨_, rfl, hmoved⟩, hrows⟩
  | drain =>
    obtain ⟨hmoved, hitems, hrows⟩ := h.drain
    simp only [Pull.action, useStream, Course.pull, Traced.value_bind, Traced.count_bind,
      Traced.value_pure, Traced.count_pure, hitems]
    exact ⟨⟨_, rfl, hmoved⟩, hrows⟩
  | collect =>
    obtain ⟨hmoved, hitems, hrows⟩ := h.drain
    simp only [Pull.action, useStream, Course.pull, RecordStream.collect, Traced.value_bind,
      Traced.count_bind, Traced.value_pure, Traced.count_pure, hitems, Course.collected_eq_gather]
    cases RecordStream.gather (c.results.drop here.advances) with
    | ok rs => exact ⟨⟨_, rfl, hmoved⟩, hrows⟩
    | error e => exact ⟨⟨_, rfl, hmoved⟩, hrows⟩
  | current =>
    refine ⟨⟨st, ?_, h⟩, rfl⟩
    simp only [Pull.action, useStream, Course.pull, Traced.value_pure, h.current]
  | takeCurrent =>
    refine ⟨⟨st.clearCurrent, ?_, h.clearCurrent⟩, rfl⟩
    simp only [Pull.action, useStream, Course.pull, Traced.value_pure, RecordStream.takeCurrent,
      h.current]
  | phase =>
    refine ⟨⟨st, ?_, h⟩, rfl⟩
    simp only [Pull.action, useStream, Course.pull, Traced.value_pure, h.phase]

end Object

namespace Session

variable {M : Model}

/-- A mix of pulls at a stream of a session that stands at a place of a course, with `n` rows read
by others before, is answered as the course answers it from that place on. -/
theorem run_pulls (ses : Session) (name : String) {st : RecordStream M} {c : Course M}
    {here : Course.Place M} (n : Nat) (pulls : List Pull)
    (hname : ses.objects.get? name = some (.stream M st)) (hst : st.At c here)
    (hrows : ses.tally.rowsRead = n + (c.after here.advances).2) :
    (ses.run (pulls.map fun p => .use name p.action)).1.map
        (fun o => (o.reply, o.tally.rowsRead)) =
      (c.answers here pulls).map fun a => (a.1, n + a.2) := by
  induction pulls generalizing ses st here with
  | nil => rfl
  | cons p pulls ih =>
    obtain ⟨⟨moved, hvalue, hmoved⟩, hread⟩ := Object.useStream_pull p hst
    have hanswer : (ses.answer (.use name p.action)).value =
        ((c.pull here p).1, ses.objects.insert name (.stream M moved)) := by
      simp only [answer, hname, Object.use, Traced.value_bind, Traced.value_pure, hvalue]
    have hcount : (ses.answer (.use name p.action)).events.countP Event.isRowRead =
        (Object.useStream M st p.action).count Event.isRowRead := by
      show (ses.answer (.use name p.action)).count Event.isRowRead = _
      simp only [answer, hname, Object.use, Traced.count_bind, Traced.count_pure, Nat.add_zero]
    have htally : (ses.step (.use name p.action)).2.tally.rowsRead =
        n + (c.after (c.pull here p).2.advances).2 := by
      simp only [step, Tally.rowsRead_addAll, hcount, hrows, ← hread]
      omega
    have hstep := ih (ses.step (.use name p.action)).2
      (by simp only [step, hanswer, NameMap.get?_insert, if_true]) hmoved htally
    simp only [List.map_cons, run, Course.answers, hstep]
    have hreply : (ses.step (.use name p.action)).1.reply = (c.pull here p).1 := by
      simp only [step, hanswer]
    rw [hreply, show (ses.step (.use name p.action)).1.tally.rowsRead = _ from htally]

/-- Making a stream under a name puts it there, as a stream that has not run. -/
theorem get?_step_make_stream (ses : Session) (name : String) (s : Statement)
    (onMismatch : OnMismatch) :
    (ses.step (.make name (.stream M s onMismatch))).2.objects.get? name =
      some (.stream M (.unread ses.source s onMismatch)) := by
  simp only [step, answer, build, Traced.value_bind, Traced.value_pure, RecordStream.value_create,
    NameMap.get?_insert, if_true]

/-- A stream answers every mix of pulls from the course of its statement: each single advance, by
whatever pull it is made, yields the item of its own position, and past the items it finds the
end. After each pull the rows read since the stream was made are those up to the last item found,
or up to the end once that is found. -/
theorem replies_of_pulls (M : Model) (ses : Session) (name : String) (s : Statement)
    (onMismatch : OnMismatch) (pulls : List Pull) :
    let made := (ses.step (.make name (.stream M s onMismatch))).2
    (made.run (pulls.map fun p => .use name p.action)).1.map
        (fun o => (o.reply, o.tally.rowsRead)) =
      ((Course.ofStatement M ses.source s onMismatch 0).answers .start pulls).map
        fun a => (a.1, made.tally.rowsRead + a.2) := by
  intro made
  exact run_pulls made name made.tally.rowsRead pulls
    (get?_step_make_stream ses name s onMismatch)
    (RecordStream.at_start ses.source s onMismatch) rfl

end Session

end Recordset
