import Recordset.Proofs.ObjectAnswers
import Recordset.Proofs.StreamLog
import Recordset.Record.Catalog

/-!
# The log of a session

In a session that makes no bare cursors every cursor is opened and closed through a statement, and
that leaves a record behind. So the records of the session so far agree with what its source has
counted (`recorded_run`). `log_of_uses` is the top theorem: it puts this beside the log of a single
stream, whatever the stream is used for and whether it is dropped in the end or not.
-/

set_option autoImplicit false

namespace Recordset

open LogRecord (isOpening isClosing)

theorem Recorded.nil : Recorded [] := ⟨rfl, rfl⟩

theorem Recorded.bind {α β : Type} {t : Traced α} {f : α → Traced β} (h : Recorded t.events)
    (hf : Recorded (f t.value).events) : Recorded (t >>= f).events := by
  rw [Traced.events_bind]
  exact h.append hf

namespace Statement

theorem recorded_acquire (s : Statement) (src : Source) : Recorded (s.acquire src).events := by
  unfold acquire Source.openFeed
  cases src.script? s with
  | none => exact .nil
  | some script =>
    cases script with
    | refuse message => exact .nil
    | rows feed => exact ⟨rfl, rfl⟩

theorem recorded_release (s : Statement) : Recorded s.release.events := ⟨rfl, rfl⟩

end Statement

theorem Feed.recorded_read (feed : Feed) : Recorded feed.read.events := by
  cases feed with
  | row r rest => exact ⟨rfl, rfl⟩
  | _ => exact .nil

namespace Reader

theorem recorded_create (src : Source) (s : Statement) : Recorded (create src s).events := by
  apply (s.recorded_acquire src).bind
  cases (s.acquire src).value <;> exact .nil

theorem recorded_read (r : Reader) : Recorded r.read.events := by
  obtain ⟨s, cursor⟩ := r
  cases cursor with
  | live feed => exact feed.recorded_read.bind .nil
  | closed => exact .nil

theorem recorded_close (r : Reader) : Recorded r.close.events := by
  obtain ⟨s, cursor⟩ := r
  cases cursor with
  | live feed => exact s.recorded_release.bind .nil
  | closed => exact .nil

end Reader

/-- The description of a record type tells of no cursor. -/
theorem RecordStream.recorded_create {M : Model} (src : Source) (s : Statement)
    (onMismatch : OnMismatch) :
    Recorded (create src s onMismatch : Traced (RecordStream M)).events := by
  refine Recorded.bind ?_ .nil
  induction M.headings with
  | nil => exact .nil
  | cons h rest ih => exact ih

namespace Query

theorem recorded_statement (q : Query) : Recorded q.statement.events := by
  unfold statement
  cases q.clause.statement q.table.settings.methods q.table.name with
  | ok s => exact ⟨rfl, rfl⟩
  | error e => exact .nil

theorem recorded_stream (q : Query) (src : Source) : Recorded (q.stream src).events := by
  apply q.recorded_statement.bind
  cases q.statement.value with
  | ok s => exact (RecordStream.recorded_create src s _).bind .nil
  | error e => exact .nil

theorem recorded_toList (q : Query) (src : Source) : Recorded (q.toList src).events := by
  apply (q.recorded_stream src).bind
  cases (q.stream src).value with
  | ok st =>
    apply st.pulled_collect.logs.recorded.bind
    obtain ⟨records, final⟩ := st.collect.value
    exact final.logs_dispose.recorded.bind .nil
  | error e => exact .nil

end Query

namespace Object

def isBare : Object → Bool
  | cursor _ => true
  | reader _ | table _ | query _ | stream _ _ => false

theorem isBare_eq_false {o : Object} (h : ∀ c, o ≠ .cursor c) : o.isBare = false := by
  cases o with
  | cursor c => exact absurd rfl (h c)
  | _ => rfl

/-- A use of anything but a bare cursor is recorded, and leaves it anything but a bare cursor. -/
theorem recorded_use (src : Source) (o : Object) (what : Action) (h : o.isBare = false) :
    Recorded (o.use src what).events ∧ (o.use src what).value.2.isBare = false := by
  cases o with
  | cursor c => cases h
  | reader r =>
    cases what with
    | readerRead =>
      simp only [use, useReader, Traced.value_bind]
      refine ⟨r.recorded_read.bind ?_, ?_⟩
      · obtain ⟨row, moved⟩ := r.read.value
        cases row <;> exact .nil
      · obtain ⟨row, moved⟩ := r.read.value
        cases row <;> rfl
    | readerClose => exact ⟨r.recorded_close.bind .nil, rfl⟩
    | _ => exact ⟨.nil, rfl⟩
  | table t => cases what <;> exact ⟨.nil, rfl⟩
  | query q =>
    cases what with
    | queryStatement =>
      simp only [use, useQuery, Traced.value_bind]
      refine ⟨q.recorded_statement.bind ?_, ?_⟩
      · cases q.statement.value <;> exact .nil
      · cases q.statement.value <;> rfl
    | queryToList =>
      simp only [use, useQuery, Traced.value_bind]
      refine ⟨(q.recorded_toList src).bind ?_, ?_⟩
      · cases (q.toList src).value <;> exact .nil
      · cases (q.toList src).value <;> rfl
    | _ => exact ⟨.nil, rfl⟩
  | stream M st =>
    obtain ⟨progress, hmoved, hlogs⟩ := logged_useStream st what
    have hstream : ((stream M st).use src what).value.2 =
        stream M { st with progress := progress } := hmoved
    rw [hstream]
    exact ⟨hlogs.recorded, rfl⟩

theorem recorded_drop (o : Object) (h : o.isBare = false) : Recorded o.drop.events := by
  cases o with
  | cursor c => cases h
  | reader r => exact r.recorded_close.bind .nil
  | table t => exact .nil
  | query q => exact .nil
  | stream M st => exact st.logs_dispose.recorded.bind .nil

end Object

/-- The command makes a bare cursor. -/
def Command.makesBare : Command → Bool
  | .make _ (.cursor _) => true
  | .make _ _ | .use _ _ | .drop _ => false

namespace Session

/-- A making that is recorded and makes no bare cursor. -/
def Orderly (made : Traced (Except Reply Object)) : Prop :=
  Recorded made.events ∧ ∀ o, made.value = .ok o → o.isBare = false

theorem Orderly.ok {o : Object} (h : o.isBare = false) : Orderly (pure (.ok o)) := by
  refine ⟨.nil, ?_⟩
  intro o' ho
  cases ho
  exact h

theorem Orderly.error (reply : Reply) : Orderly (pure (.error reply)) := by
  refine ⟨.nil, ?_⟩
  intro o ho
  cases ho

theorem Orderly.bind {α : Type} {t : Traced α} {f : α → Traced (Except Reply Object)}
    (h : Recorded t.events) (hf : Orderly (f t.value)) : Orderly (t >>= f) :=
  ⟨h.bind hf.1, hf.2⟩

theorem orderly_build (ses : Session) (how : Making) (h : ∀ s, how ≠ .cursor s) :
    Orderly (ses.build how) := by
  cases ses.built how with
  | cursor s made => exact absurd made (h s)
  | reader s made =>
    subst made
    apply Orderly.bind (Reader.recorded_create ses.source s)
    cases (Reader.create ses.source s).value with
    | ok r => exact .ok rfl
    | error e => exact .error _
  | asked q made =>
    rw [made]
    apply Orderly.bind (q.recorded_stream ses.source)
    cases (q.stream ses.source).value with
    | ok st => exact .ok rfl
    | error e => exact .error _
  | stream M s onMismatch made =>
    rw [made]
    exact Orderly.bind (RecordStream.recorded_create _ s onMismatch) (.ok rfl)
  | still o made kind =>
    rw [made]
    exact .ok (Object.isBare_eq_false kind)
  | refused reply made =>
    rw [made]
    exact .error reply

/-- No object is a bare cursor. -/
def NoneBare (objects : NameMap Object) : Prop :=
  ∀ name o, objects.get? name = some o → o.isBare = false

theorem NoneBare.insert {objects : NameMap Object} (h : NoneBare objects) (name : String)
    {o : Object} (ho : o.isBare = false) : NoneBare (objects.insert name o) := by
  intro k o' hk
  rw [NameMap.get?_insert] at hk
  split at hk
  · cases hk
    exact ho
  · exact h k o' hk

theorem NoneBare.erase {objects : NameMap Object} (h : NoneBare objects) (name : String) :
    NoneBare (objects.erase name) := by
  intro k o hk
  rw [NameMap.get?_erase] at hk
  split at hk
  · cases hk
  · exact h k o hk

/-- The answer to a command that makes no bare cursor is recorded, where there was none before. -/
theorem recorded_answer (ses : Session) (c : Command) (hses : NoneBare ses.objects)
    (hc : c.makesBare = false) :
    Recorded (ses.answer c).events ∧ NoneBare (ses.answer c).value.2 := by
  cases c with
  | make name how =>
    have hhow : ∀ s, how ≠ .cursor s := by
      intro s hs
      rw [hs] at hc
      cases hc
    obtain ⟨hbuild, hbare⟩ := ses.orderly_build how hhow
    simp only [answer, Traced.value_bind]
    cases hvalue : (ses.build how).value with
    | error reply =>
      refine ⟨hbuild.bind ?_, hses⟩
      rw [hvalue]
      exact .nil
    | ok o =>
      refine ⟨hbuild.bind ?_, hses.insert name (hbare o hvalue)⟩
      rw [hvalue]
      cases hold : ses.objects.get? name with
      | none => exact .nil
      | some old => exact (old.recorded_drop (hses name old hold)).bind .nil
  | use name what =>
    simp only [answer]
    cases hname : ses.objects.get? name with
    | none => exact ⟨.nil, hses⟩
    | some o =>
      obtain ⟨huse, hmoved⟩ := o.recorded_use ses.source what (hses name o hname)
      exact ⟨huse.bind .nil, hses.insert name hmoved⟩
  | drop name =>
    simp only [answer]
    cases hname : ses.objects.get? name with
    | none => exact ⟨.nil, hses⟩
    | some o => exact ⟨(o.recorded_drop (hses name o hname)).bind .nil, hses.erase name⟩

/-- The log records of a run of commands. -/
def recordsOf (ses : Session) (cmds : List Command) : List LogRecord :=
  (ses.run cmds).1.flatMap Outcome.records

/-- A run that makes no bare cursor has a record for all that its source counts on the way, by
induction on the commands. -/
theorem recorded_run (ses : Session) (cmds : List Command) (hses : NoneBare ses.objects)
    (hcmds : ∀ c ∈ cmds, c.makesBare = false) :
    ses.tally.opened + (ses.recordsOf cmds).countP isOpening = (ses.run cmds).2.tally.opened ∧
      ses.tally.closed + (ses.recordsOf cmds).countP isClosing =
        (ses.run cmds).2.tally.closed := by
  induction cmds generalizing ses with
  | nil => exact ⟨rfl, rfl⟩
  | cons c rest ih =>
    obtain ⟨⟨hopened, hclosed⟩, hmoved⟩ :=
      ses.recorded_answer c hses (hcmds c List.mem_cons_self)
    have hleft : ∀ p : LogRecord → Bool, (∀ heading, p (.described heading) = false) →
        (ses.step c).1.records.countP p =
          ((ses.answer c).events.filterMap Event.record?).countP p :=
      fun p hp => LogRecord.countP_once hp ses.known _
    obtain ⟨hopenedRest, hclosedRest⟩ := ih (ses.step c).2 hmoved
      fun d hd => hcmds d (List.mem_cons_of_mem c hd)
    have hrecords : ses.recordsOf (c :: rest) =
        (ses.step c).1.records ++ (ses.step c).2.recordsOf rest := rfl
    have hstepOpened : (ses.step c).2.tally.opened =
        ses.tally.opened + (ses.answer c).events.countP Event.isOpened :=
      Tally.opened_addAll _ _
    have hstepClosed : (ses.step c).2.tally.closed =
        ses.tally.closed + (ses.answer c).events.countP Event.isClosed :=
      Tally.closed_addAll _ _
    have hfinal : (ses.run (c :: rest)).2 = ((ses.step c).2.run rest).2 := rfl
    rw [hrecords, hfinal, List.countP_append, List.countP_append, hleft _ fun _ => rfl,
      hleft _ fun _ => rfl]
    omega

/-- However a stream is used, its records tell of a walk of its own from the start to the phase
that it reports, which takes none but the steps that there are. The opening of a cursor is told
right before each step into reading and the closing right after each step out of it, and neither
anywhere else. There is one warning for every row read that was left out, in order and with its
failure, and none under the other policy. All this holds to the end when the stream is dropped. In
a session that makes no bare cursors the records so far tell of as many openings and closings as
the source has counted, after every command. -/
theorem log_of_uses (known : List Nat) (M : Model) (src : Source) (s : Statement)
    (onMismatch : OnMismatch) (whats : List Action) (cmds : List Command)
    (h : ∀ c ∈ cmds, c.makesBare = false) :
    let made := Object.stream M (RecordStream.create src s onMismatch).value
    let used := made.useAll src whats
    let dropped := used >>= Object.drop
    let rows := made.history src whats
    (∃ last : RecordStream M, used.value = .stream M last ∧
        StreamLog M s onMismatch .idle (used.records known) last.phase rows) ∧
      StreamLog M s onMismatch .idle (dropped.records known) .disposed rows ∧
      used.count Event.isRowRead = rows.length ∧
      ∀ n, let past := cmds.take n
        ((startKnowing known src).recordsOf past).countP isOpening =
            ((startKnowing known src).run past).2.tally.opened ∧
          ((startKnowing known src).recordsOf past).countP isClosing =
            ((startKnowing known src).run past).2.tally.closed := by
  intro made used dropped rows
  obtain ⟨last, hlast, hstatement, hpolicy, hlogs⟩ :=
    Object.logs_useAll src (RecordStream.unread src s onMismatch : RecordStream M) whats
  have hused : StreamLog M s onMismatch .idle used.allRecords last.phase rows := hlogs.log
  refine ⟨⟨last, hlast, ?_⟩, ?_, hlogs.reads, ?_⟩
  · rw [Traced.records, hused.once_eq]
    exact hused
  · have hdispose := last.logs_dispose
    rw [last.phase_dispose, hstatement, hpolicy] at hdispose
    have hevents : dropped.events = used.events ++ last.dispose.events := by
      have hdrop : dropped.events = used.events ++ used.value.drop.events := rfl
      rw [hdrop, show used.value = .stream M last from hlast]
      exact congrArg _ (List.append_nil _)
    have hall : StreamLog M s onMismatch .idle dropped.allRecords .disposed rows := by
      have hboth := (hlogs.append hdispose).log
      rw [List.append_nil] at hboth
      rw [Traced.allRecords, hevents]
      exact hboth
    rw [Traced.records, hall.once_eq]
    exact hall
  · intro n past
    let ses := startKnowing known src
    have hnone : NoneBare ses.objects := by
      intro name o ho
      cases ho
    have hpast : ∀ c ∈ past, c.makesBare = false := fun c hc => h c (List.mem_of_mem_take hc)
    obtain ⟨hopened, hclosed⟩ := ses.recorded_run past hnone hpast
    have hzero : ses.tally = Tally.zero := rfl
    simp only [hzero, Tally.zero, Nat.zero_add] at hopened hclosed
    exact ⟨hopened, hclosed⟩

/-- A stream that skips a row, starts over and is disposed beside a reader that is never closed. -/
theorem log_of_uses_beside_reader :
    let s : Statement := ⟨"SELECT * FROM T"⟩
    let bad := Row.empty.insert "ID" (.varchar "x")
    let src := Source.empty.register s (.rows (.row bad (.row .empty (.failing "timeout"))))
    let cmds : List Command := [.make "e" (.stream .customer s .skipRow), .use "e" .advance,
      .make "r" (.reader s), .use "r" .readerRead, .use "e" .reset, .use "e" .drain, .drop "e"]
    (∀ c ∈ cmds, c.makesBare = false) ∧
      ((startKnowing [] src).recordsOf cmds).countP isOpening =
        ((startKnowing [] src).run cmds).2.tally.opened ∧
      ((startKnowing [] src).run cmds).2.tally.opened = 3 ∧
      ((startKnowing [] src).recordsOf cmds).countP isClosing =
        ((startKnowing [] src).run cmds).2.tally.closed ∧
      ((startKnowing [] src).run cmds).2.tally.closed = 2 := by
  intro s bad src cmds
  have hcmds : ∀ c ∈ cmds, c.makesBare = false := by decide
  obtain ⟨-, -, -, hcounts⟩ := log_of_uses [] .customer src s .skipRow
    [.advance, .reset, .drain] cmds hcmds
  obtain ⟨hopened, hclosed⟩ := hcounts 7
  exact ⟨hcmds, hopened, by decide +kernel, hclosed, by decide +kernel⟩

end Session

end Recordset
