import Recordset.Proofs.StreamReplay

/-!
# Reading a cursor, bare or through a reader

The rows of a script fix what a cursor hands out, read by read: each row once and in order, then the
failure once if there is one, then nothing (`readout`). A cursor that is read bare and a reader of
the same statement follow this alike until they are closed; they tell of the failure in different
words, and a read that comes too late is refused by the one and finds nothing in the other.
`answers_by_position` is the top theorem: for any reads and closes it gives what either of them
answers and what the source has counted, each by its position alone.
-/

set_option autoImplicit false

namespace Recordset

/-- What can be done with a cursor that was opened. -/
inductive Handling where
  | read | close
  deriving DecidableEq

/-- How a cursor is held: by itself, or by a reader of its statement. -/
inductive Holder where
  | bare | reader

/-- What the read numbered `k` brings when there are these rows, and then this failure. -/
def readout (failure : Option String) (rows : List Row) (k : Nat) : Except String (Option Row) :=
  match rows[k]?, failure with
  | some r, _ => .ok (some r)
  | none, some message => if k = rows.length then .error message else .ok none
  | none, none => .ok none

/-- How a read is told of, if failures are told as `fails` says. -/
def Reply.ofRead (fails : String → Reply) : Except String (Option Row) → Reply
  | .ok r => .row r
  | .error message => fails message

namespace Handling

/-- What is answered at position `k` when the first close is at position `closing`: failures are
told as `fails` says, and a read after the close is answered by `late`. -/
def answer (fails : String → Reply) (late : Reply) (failure : Option String) (rows : List Row)
    (closing k : Nat) : Handling → Reply
  | close => .done
  | read =>
    if k < closing then .ofRead fails (readout failure rows k) else late

/-- What the source has counted by position `k`, from a count on, when the first close is at
position `closing`. -/
def counts (t : Tally) (rows : List Row) (closing k : Nat) : Tally :=
  { t with
    closed := t.closed + if closing ≤ k then 1 else 0
    rowsRead := t.rowsRead + min (min (k + 1) closing) rows.length }

/-- The position of the first close, or the number of all handlings if there is none. -/
def closing (whats : List Handling) : Nat := whats.findIdx (· = close)

theorem closing_read (whats : List Handling) : closing (read :: whats) = closing whats + 1 := by
  simp [closing, List.findIdx_cons]

theorem closing_close (whats : List Handling) : closing (close :: whats) = 0 := by
  simp [closing, List.findIdx_cons]

end Handling

open Handling (answer counts closing closing_read closing_close)

theorem map_mapIdx {α β γ : Type} (f : Nat → α → β) (g : β → γ) (xs : List α) :
    (xs.mapIdx f).map g = xs.mapIdx fun k x => g (f k x) := by
  apply List.ext_getElem?
  intro k
  simp only [List.getElem?_map, List.getElem?_mapIdx, Option.map_map, Function.comp_def]

namespace Feed

theorem rows_ofRows (failure : Option String) (rows : List Row) :
    (ofRows failure rows).rows = rows := by
  induction rows with
  | nil => cases failure <;> rfl
  | cons r rest ih => exact congrArg (r :: ·) ih

theorem failure?_ofRows (failure : Option String) (rows : List Row) :
    (ofRows failure rows).failure? = failure := by
  induction rows with
  | nil => cases failure <;> rfl
  | cons r rest ih => exact ih

/-- A read brings what the script has at the position of the feed. -/
theorem readout_zero (feed : Feed) :
    readout feed.failure? feed.rows 0 = feed.read.value.1 := by
  cases feed <;> rfl

/-- After a read the feed is one position on. -/
theorem readout_succ (feed : Feed) (k : Nat) :
    readout feed.failure? feed.rows (k + 1) =
      readout feed.read.value.2.failure? feed.read.value.2.rows k := by
  cases feed with
  | finished => rfl
  | failing message => rfl
  | row r rest =>
    simp only [readout, rows, failure?, List.getElem?_cons_succ, List.length_cons,
      Nat.add_right_cancel_iff]
    rfl

/-- What is answered from the next position on is what the feed that is left answers. -/
theorem answer_succ (feed : Feed) (fails : String → Reply) (late : Reply) (n k : Nat) :
    answer fails late feed.failure? feed.rows (n + 1) (k + 1) =
      answer fails late feed.read.value.2.failure? feed.read.value.2.rows n k := by
  funext what
  cases what with
  | close => rfl
  | read => simp only [answer, Nat.add_lt_add_iff_right, readout_succ]

/-- A read counts the row that it hands out. -/
theorem counts_read (feed : Feed) (t : Tally) (n : Nat) :
    (∀ k, counts t feed.rows (n + 1) (k + 1) =
        counts (t.addAll feed.read.events) feed.read.value.2.rows n k) ∧
      counts t feed.rows (n + 1) 0 = t.addAll feed.read.events := by
  cases feed with
  | finished => simp [counts, rows, read, Tally.addAll]
  | failing message => simp [counts, rows, read, Tally.addAll]
  | row r rest =>
    have hread : t.addAll (row r rest).read.events = { t with rowsRead := t.rowsRead + 1 } := rfl
    constructor
    · intro k
      rw [hread]
      simp only [counts, rows, read, Traced.value_bind, Traced.value_pure, List.length_cons,
        Nat.add_le_add_iff_right, Tally.mk.injEq, true_and]
      omega
    · rw [hread]
      simp only [counts, rows, List.length_cons, Tally.mk.injEq, true_and]
      exact ⟨by simp, by omega⟩

end Feed

namespace Holder

def making : Holder → Statement → Making
  | bare => .cursor
  | reader => .reader

def object (s : Statement) : Holder → Cursor → Object
  | bare, c => .cursor c
  | reader, c => .reader ⟨s, c⟩

def action : Holder → Handling → Action
  | bare, .read => .cursorNext
  | bare, .close => .cursorClose
  | reader, .read => .readerRead
  | reader, .close => .readerClose

/-- How a failure to read is told. -/
def fails (s : Statement) : Holder → String → Reply
  | bare, message => .sourceFailed message
  | reader, message => .failed (s.readingFailure message)

/-- The answer to a read after the close. -/
def late : Holder → Reply
  | bare => .sourceFailed "Cursor is closed"
  | reader => .row none

variable (holder : Holder) (src : Source) (s : Statement) (t : Tally)

theorem use_read (feed : Feed) :
    let used := (holder.object s (.live feed)).use src (holder.action .read)
    used.value.1 = .ofRead (holder.fails s) feed.read.value.1 ∧
      used.value.2 = holder.object s (.live feed.read.value.2) ∧
      t.addAll used.events = t.addAll feed.read.events := by
  cases holder <;> cases feed <;> exact ⟨rfl, rfl, rfl⟩

theorem use_close (feed : Feed) :
    let used := (holder.object s (.live feed)).use src (holder.action .close)
    used.value.1 = .done ∧ used.value.2 = holder.object s .closed ∧
      t.addAll used.events = { t with closed := t.closed + 1 } := by
  cases holder <;> exact ⟨rfl, rfl, rfl⟩

/-- Nothing comes of handling a closed cursor. -/
theorem use_closed (what : Handling) :
    (holder.object s .closed).use src (holder.action what) =
      pure (match what with
        | .read => holder.late
        | .close => .done, holder.object s .closed) := by
  cases holder <;> cases what <;> rfl

/-- Every read of a closed cursor comes too late, and nothing is counted. -/
theorem tell_closed (known : List Nat) (failure : Option String) (rows : List Row)
    (whats : List Handling) :
    ((holder.object s .closed).tell src known t (whats.map holder.action)).map
        (fun o => (o.reply, o.tally)) =
      whats.mapIdx fun k what =>
        (answer (holder.fails s) holder.late failure rows 0 k what, t) := by
  induction whats generalizing known with
  | nil => rfl
  | cons what rest ih =>
    have hzero : ∀ k, answer (holder.fails s) holder.late failure rows 0 (k + 1) =
        answer (holder.fails s) holder.late failure rows 0 k := by
      intro k
      funext what
      cases what <;> rfl
    rw [List.map_cons, List.mapIdx_cons, Object.tell, holder.use_closed src s]
    simp only [hzero, ← ih (known ++ [])]
    cases what <;> rfl

/-- From any feed on, a cursor answers and counts by position, by induction on what is done with it:
a read moves on by one position, and nothing comes of what follows the first close. -/
theorem tell_live (known : List Nat) (feed : Feed) (whats : List Handling) :
    ((holder.object s (.live feed)).tell src known t (whats.map holder.action)).map
        (fun o => (o.reply, o.tally)) =
      whats.mapIdx fun k what =>
        (answer (holder.fails s) holder.late feed.failure? feed.rows (closing whats) k what,
          counts t feed.rows (closing whats) k) := by
  induction whats generalizing known feed t with
  | nil => rfl
  | cons what rest ih =>
    rw [List.map_cons, Object.tell, List.map_cons, List.mapIdx_cons]
    cases what with
    | read =>
      obtain ⟨hreply, hmoved, hevents⟩ := holder.use_read src s t feed
      obtain ⟨hcounts, hcount⟩ := feed.counts_read t (closing rest)
      have hfirst : answer (holder.fails s) holder.late feed.failure? feed.rows
          (closing rest + 1) 0 .read = .ofRead (holder.fails s) feed.read.value.1 := by
        rw [answer, if_pos (Nat.zero_lt_succ _), feed.readout_zero]
      rw [hreply, hmoved, hevents, ih, closing_read, hfirst, hcount]
      simp only [feed.answer_succ, hcounts]
    | close =>
      obtain ⟨hreply, hmoved, hevents⟩ := holder.use_close src s t feed
      -- With the close at position 0, every later position is past it.
      rw [hreply, hmoved, hevents, holder.tell_closed src s _ _ feed.failure? feed.rows,
        closing_close]
      rfl

/-- A cursor that was handled is still open exactly if there was no close. -/
theorem useAll_live (feed : Feed) (whats : List Handling) :
    ∃ c : Cursor, ((holder.object s (.live feed)).useAll src (whats.map holder.action)).value =
        holder.object s c ∧ c.isLive = !decide (.close ∈ whats) := by
  have hclosed : ∀ whats : List Handling,
      ((holder.object s .closed).useAll src (whats.map holder.action)).value =
        holder.object s .closed := by
    intro whats
    induction whats with
    | nil => rfl
    | cons what rest ih =>
      rw [List.map_cons, Object.useAll_cons, Traced.value_bind, holder.use_closed src s]
      exact ih
  induction whats generalizing feed with
  | nil => exact ⟨.live feed, rfl, rfl⟩
  | cons what rest ih =>
    rw [List.map_cons, Object.useAll_cons, Traced.value_bind]
    cases what with
    | read =>
      obtain ⟨-, hmoved, -⟩ := holder.use_read src s Tally.zero feed
      rw [hmoved]
      obtain ⟨c, hvalue, hlive⟩ := ih feed.read.value.2
      exact ⟨c, hvalue, by simpa using hlive⟩
    | close =>
      obtain ⟨-, hmoved, -⟩ := holder.use_close src s Tally.zero feed
      rw [hmoved]
      exact ⟨.closed, hclosed rest, by simp [Cursor.isLive]⟩

end Holder

namespace Session

variable {ses : Session} {s : Statement} {feed : Feed}

/-- Either way of holding a cursor opens it on the feed of its statement and counts it, and the
object that had the name is let go of. -/
theorem step_make_holder (h : ses.source.script? s = some (.rows feed)) (name : String)
    (holder : Holder) :
    let made := ses.step (.make name (holder.making s))
    made.1.reply = .done ∧
      made.2.objects = ses.objects.insert name (holder.object s (.live feed)) ∧
      made.2.tally =
        (ses.tally.add (.opened s)).addAll (Object.dropAny (ses.objects.get? name)).events := by
  have hbuild : ∃ logged : List LogRecord, ses.build (holder.making s) =
      ⟨.ok (holder.object s (.live feed)), .opened s :: logged.map .logged⟩ := by
    cases holder with
    | bare =>
      refine ⟨[], ?_⟩
      simp only [Holder.making, build, Cursor.create, Source.openFeed, h]
      rfl
    | reader =>
      refine ⟨[.opened s], ?_⟩
      simp only [Holder.making, build, Reader.create, Statement.acquire, Source.openFeed, h]
      rfl
  obtain ⟨logged, hbuild⟩ := hbuild
  simp only [step, answer, hbuild, Traced.value_bind, Traced.events_bind, Traced.value_pure,
    Traced.events_pure, List.append_nil, List.cons_append, true_and]
  rw [← Tally.addAll_logged (ses.tally.add (.opened s)) logged, ← Tally.addAll_append]
  rfl

theorem reply_isClosed {name : String} {c : Cursor}
    (h : ses.objects.get? name = some (.reader ⟨s, c⟩)) :
    (ses.step (.use name .readerIsClosed)).1.reply = .isClosed (!c.isLive) := by
  rw [step_use h]
  cases c <;> rfl

/-- A bare cursor that is let go of is left as it is. -/
theorem tally_drop_cursor {name : String} {c : Cursor}
    (h : ses.objects.get? name = some (.cursor c)) :
    (ses.step (.drop name)).2.tally = ses.tally := by
  simp only [step, answer, h]
  rfl

/-- A reader that is let go of closes its cursor if nobody did before. -/
theorem tally_drop_reader {name : String} {c : Cursor}
    (h : ses.objects.get? name = some (.reader ⟨s, c⟩)) :
    (ses.step (.drop name)).2.tally =
      { ses.tally with closed := ses.tally.closed + c.isLive.toNat } := by
  simp only [step, answer, h]
  cases c <;> rfl

/-- Either way of holding a cursor answers and counts by position from its opening on. -/
theorem run_holder (h : ses.source.script? s = some (.rows feed)) (name : String)
    (holder : Holder) (whats : List Handling) :
    let made := (ses.step (.make name (holder.making s))).2
    let ran := made.run (Command.uses name (whats.map holder.action))
    ran.1.map (fun o => o.reply) = whats.mapIdx
        (Handling.answer (holder.fails s) holder.late feed.failure? feed.rows (closing whats)) ∧
      (ran.1.map (fun o => o.tally) =
        whats.mapIdx fun k _ => counts made.tally feed.rows (closing whats) k) ∧
      ∃ c : Cursor, ran.2.objects.get? name = some (holder.object s c) ∧
        c.isLive = !decide (.close ∈ whats) := by
  intro made ran
  have hmade : made.objects.get? name = some (holder.object s (.live feed)) := by
    rw [show made.objects = _ from (step_make_holder h name holder).2.1, NameMap.get?_insert,
      if_pos rfl]
  have htell := holder.tell_live made.source s made.tally made.known feed whats
  rw [← run_uses_eq_tell hmade] at htell
  obtain ⟨c, hlast, hlive⟩ := holder.useAll_live made.source s feed whats
  refine ⟨?_, ?_, c, (get?_run_uses hmade _).trans (congrArg some hlast), hlive⟩
  · have hreplies := congrArg (List.map Prod.fst) htell
    rwa [List.map_map, map_mapIdx] at hreplies
  · have htallies := congrArg (List.map Prod.snd) htell
    rwa [List.map_map, map_mapIdx] at htallies

/-- For any reads and closes, a cursor that is read bare and a reader of the same statement answer
by position alike. Up to the first close the rows come in order, each once, then the failure once,
if there is one, and nothing from then on; the reader says in the failure what it was doing. After
the first close the bare cursor refuses to be read, and the reader finds nothing. Either way the
source has counted each row that was handed out and one close, and the reader closes its cursor
when it is let go of only if nobody did before. -/
theorem answers_by_position (ses : Session) (name : String) (s : Statement) (rows : List Row)
    (failure : Option String)
    (h : ses.source.script? s = some (.rows (Feed.ofRows failure rows)))
    (whats : List Handling) :
    let bare := ses.step (.make name (.cursor s))
    let held := ses.step (.make name (.reader s))
    let bareRan := bare.2.run (Command.uses name (whats.map (Holder.action .bare)))
    let heldRan := held.2.run (Command.uses name (whats.map (Holder.action .reader)))
    let first := closing whats
    (bare.1.reply = .done ∧ held.1.reply = .done ∧ held.2.tally = bare.2.tally) ∧
      bareRan.1.map (fun o => o.reply) = whats.mapIdx
        (Handling.answer .sourceFailed (.sourceFailed "Cursor is closed") failure rows first) ∧
      heldRan.1.map (fun o => o.reply) = whats.mapIdx
        (Handling.answer
          (fun message => .failed (.execution ("reading `" ++ s.text ++ "`") (.root message)))
          (.row none) failure rows first) ∧
      (bareRan.1.map (fun o => o.tally) =
          whats.mapIdx fun k _ => counts bare.2.tally rows first k) ∧
      heldRan.1.map (fun o => o.tally) = bareRan.1.map (fun o => o.tally) ∧
      (heldRan.2.step (.use name .readerIsClosed)).1.reply = .isClosed (.close ∈ whats) ∧
      (bareRan.2.step (.drop name)).2.tally = bareRan.2.tally ∧
      (heldRan.2.step (.drop name)).2.tally =
        { heldRan.2.tally with
          closed := heldRan.2.tally.closed + if .close ∈ whats then 0 else 1 } := by
  intro bare held bareRan heldRan first
  have hbare := step_make_holder h name .bare
  have hheld := step_make_holder h name .reader
  obtain ⟨hbareReplies, hbareTallies, c, hbareLast, -⟩ := run_holder h name .bare whats
  obtain ⟨hheldReplies, hheldTallies, d, hheldLast, hlive⟩ := run_holder h name .reader whats
  have htally : held.2.tally = bare.2.tally := by
    rw [show bare.2.tally = _ from hbare.2.2, show held.2.tally = _ from hheld.2.2]
  rw [Feed.rows_ofRows] at hbareReplies hbareTallies hheldReplies hheldTallies
  rw [Feed.failure?_ofRows] at hbareReplies hheldReplies
  refine ⟨⟨hbare.1, hheld.1, htally⟩, hbareReplies, hheldReplies, hbareTallies, ?_, ?_,
    tally_drop_cursor hbareLast, ?_⟩
  · calc
      heldRan.1.map (fun o => o.tally) = whats.mapIdx fun k _ => counts held.2.tally rows first k :=
        hheldTallies
      _ = whats.mapIdx fun k _ => counts bare.2.tally rows first k := by rw [htally]
      _ = bareRan.1.map fun o => o.tally := hbareTallies.symm
  · have hreply : (heldRan.2.step (.use name .readerIsClosed)).1.reply = .isClosed (!d.isLive) :=
      reply_isClosed hheldLast
    rw [hreply, hlive, Bool.not_not]
  · have hcount : (!decide (Handling.close ∈ whats)).toNat = if .close ∈ whats then 0 else 1 := by
      by_cases hclose : Handling.close ∈ whats <;> simp [hclose]
    rw [← hcount, ← hlive]
    exact tally_drop_reader hheldLast

/-- One row and then a failure, read on past the failure, closed, and read and closed again. -/
theorem answers_by_position_past_failure :
    let s : Statement := ⟨"SELECT * FROM T"⟩
    let row := Row.empty.insert "ID" (.int32 1)
    let script := Feed.ofRows (some "timeout") [row]
    let ses := start (Source.empty.register s (.rows script))
    let whats : List Handling := [.read, .read, .read, .close, .read, .close]
    let bare := (ses.step (.make "c" (.cursor s))).2
    let held := (ses.step (.make "c" (.reader s))).2
    ses.source.script? s = some (.rows script) ∧
      (bare.run (Command.uses "c" (whats.map (Holder.action .bare)))).1.map (fun o => o.reply) =
        [.row (some row), .sourceFailed "timeout", .row none, .done,
          .sourceFailed "Cursor is closed", .done] ∧
      (held.run (Command.uses "c" (whats.map (Holder.action .reader)))).1.map (fun o => o.reply) =
        [.row (some row), .failed (.execution "reading `SELECT * FROM T`" (.root "timeout")),
          .row none, .done, .row none, .done] := by
  intro s row script ses whats bare held
  have hscript : ses.source.script? s = some (.rows script) := rfl
  obtain ⟨-, hbare, hheld, -⟩ :=
    answers_by_position ses "c" s [row] (some "timeout") hscript whats
  exact ⟨hscript, hbare, hheld⟩

end Session

end Recordset
