import Recordset.Proofs.SourceCounts
import Recordset.Record.Catalog

/-!
# Commands that come to nothing

A command that opens nothing, delivers no row and closes nothing leaves every count of a source as
it was. `Session.Fruitless` lists these commands, by what failed, what had ended before and what is
only built or looked at. A stream closes its cursor once when it does not read on, and nothing else
is counted for that (`tally_step_pull`). `tally_of_run` is the top theorem and puts this beside what
is counted.
-/

set_option autoImplicit false

namespace Recordset

namespace Traced

variable {α β : Type} {t : Traced α}

/-- Nothing comes about that a source counts. -/
structure Uncounted (t : Traced α) : Prop where
  opened : t.executed = []
  closed : t.count Event.isClosed = 0
  read : t.count Event.isRowRead = 0

theorem Uncounted.addAll (h : t.Uncounted) (tally : Tally) : tally.addAll t.events = tally := by
  have hopened := t.length_executed
  rw [h.opened, List.length_nil] at hopened
  rw [Tally.addAll_events, h.opened, h.closed, h.read, ← hopened, List.append_nil]
  rfl

theorem Uncounted.bind {f : α → Traced β} (h : t.Uncounted) (hf : (f t.value).Uncounted) :
    (t >>= f).Uncounted := by
  refine ⟨?_, ?_, ?_⟩
  · rw [executed_bind, h.opened, hf.opened, List.append_nil]
  · rw [count_bind, h.closed, hf.closed]
  · rw [count_bind, h.read, hf.read]

theorem uncounted_pure (x : α) : (pure x : Traced α).Uncounted := ⟨rfl, rfl, rfl⟩

/-- Where no cursor was held and none is opened, none is closed. -/
theorem Balanced.uncounted {after : Bool} (h : t.Balanced false after) (hopened : t.executed = [])
    (hread : t.count Event.isRowRead = 0) : t.Uncounted := by
  have hcount := h.count
  have hnone := t.length_executed
  rw [hopened, List.length_nil] at hnone
  rw [← hnone, Bool.toNat_false] at hcount
  exact ⟨hopened, by omega, hread⟩

end Traced

/-- A source refuses a statement if it has no rows for it: none were ever registered, or opening a
cursor for it was registered to fail. -/
def Source.Refuses (src : Source) (s : Statement) : Prop :=
  ∀ feed, src.script? s ≠ some (.rows feed)

theorem Source.Refuses.opens {src : Source} {s : Statement} (h : src.Refuses s) :
    s.opens src = [] := by
  unfold Statement.opens
  split
  · rename_i feed hscript
    exact absurd hscript (h feed)
  · rfl
  · rfl

namespace Course

variable {M : Model}

/-- The course of a statement that is refused reads no row. -/
theorem reads_of_refuses {src : Source} {s : Statement} (h : src.Refuses s)
    (onMismatch : OnMismatch) (k : Nat) :
    ((ofStatement M src s onMismatch 0).after k).2 = 0 ∧
      (ofStatement M src s onMismatch 0).stop.2 = 0 := by
  have hfailed : ∃ e, ofStatement M src s onMismatch 0 = failed e 0 := by
    unfold ofStatement
    split
    · exact ⟨_, rfl⟩
    · exact ⟨_, rfl⟩
    · rename_i feed hscript
      exact absurd hscript (h feed)
  obtain ⟨e, hcourse⟩ := hfailed
  rw [hcourse]
  refine ⟨?_, rfl⟩
  cases k with
  | zero => rfl
  | succ k => cases k <;> rfl

end Course

namespace Object

theorem uncounted_use_of_looks (src : Source) (o : Object) {what : Action}
    (h : what.looks = true) : (o.use src what).Uncounted := by
  cases what with
  | queryStatement =>
    cases o with
    | query q =>
      show (useQuery src q .queryStatement).Uncounted
      rw [useQuery, Query.statement]
      cases q.clause.statement q.table.settings.methods q.table.name <;> exact ⟨rfl, rfl, rfl⟩
    | _ => exact Traced.uncounted_pure _
  | readerIsClosed | readerStatement | tableInfo | queryInfo | current | takeCurrent | phase
  | streamStatement => cases o <;> exact Traced.uncounted_pure _
  | _ => cases h

/-- A read that hands out no row finds none: it fails, or finds the end, or comes too late. -/
theorem uncounted_use_of_unread (src : Source) (o : Object) {what : Action}
    (hwhat : what = .cursorNext ∨ what = .readerRead)
    (h : ∀ r, (o.use src what).value.1 ≠ .row (some r)) : (o.use src what).Uncounted := by
  rcases hwhat with rfl | rfl
  · cases o with
    | cursor c =>
      cases c with
      | closed => exact ⟨rfl, rfl, rfl⟩
      | live feed =>
        cases feed with
        | row r rest => exact absurd rfl (h r)
        | finished | failing message => exact ⟨rfl, rfl, rfl⟩
    | _ => exact Traced.uncounted_pure _
  · cases o with
    | reader r =>
      obtain ⟨s, c⟩ := r
      cases c with
      | closed => exact ⟨rfl, rfl, rfl⟩
      | live feed =>
        cases feed with
        | row r rest => exact absurd rfl (h r)
        | finished | failing message => exact ⟨rfl, rfl, rfl⟩
    | _ => exact Traced.uncounted_pure _

/-- A stream that has no cursor, and will not get one, reads nothing. -/
theorem uncounted_useStream {M : Model} {st : RecordStream M} (hphase : st.phase ≠ .reading)
    (hidle : st.phase = .idle → st.source.Refuses st.statement) (what : Action) :
    (useStream M st what).Uncounted := by
  obtain ⟨src, s, onMismatch, progress⟩ := st
  have hbalanced := balanced_useStream ⟨src, s, onMismatch, progress⟩ what
  have hexecuted := executed_useStream ⟨src, s, onMismatch, progress⟩ what
  have hreads := reads_useStream ⟨src, s, onMismatch, progress⟩ what
  cases progress with
  | reading feed current => exact absurd rfl hphase
  | idle =>
    have hopens : RecordStream.opens (M := M) ⟨src, s, onMismatch, .idle⟩ = [] := (hidle rfl).opens
    rw [hopens, ite_self] at hexecuted
    exact hbalanced.uncounted hexecuted
      (hreads.trans (Course.reads_of_refuses (hidle rfl) onMismatch _).1)
  | exhausted =>
    refine hbalanced.uncounted (hexecuted.trans (ite_self [])) (hreads.trans ?_)
    cases what.advances (RecordStream.toEnd _) <;> rfl
  | disposed =>
    refine hbalanced.uncounted (hexecuted.trans (ite_self [])) (hreads.trans ?_)
    cases what.advances (RecordStream.toEnd _) <;> rfl

/-- A query whose clause has no statement, or one that is refused, lists nothing. -/
theorem uncounted_toList {src : Source} {q : Query}
    (h : ∀ s, q.clause.statement q.table.settings.methods q.table.name = .ok s → src.Refuses s) :
    (useQuery src q .queryToList).Uncounted := by
  obtain ⟨hexecuted, hreads⟩ := counts_useQuery src q .queryToList
  refine (balanced_useQuery src q .queryToList).uncounted (hexecuted.trans ?_) (hreads.trans ?_)
  · simp only [opens]
    split
    · rename_i s hs
      exact (h s hs).opens
    · rfl
  · simp only [delivers]
    split
    · rename_i s hs
      exact (Course.reads_of_refuses (h s hs) _ 0).2
    · rfl

/-- Letting go of an object closes nothing unless it is a stream that is reading or a reader that
is open. -/
theorem uncounted_dropAny {old : Option Object}
    (h : ∀ o, old = some o → o.isOpenStream = false ∧ o.isOpenReader = false) :
    (dropAny old).Uncounted := by
  obtain ⟨hexecuted, hreads⟩ := counts_dropAny old
  have hclosed := (balanced_dropAny old).count
  have hopened := (dropAny old).length_executed
  have hholds : (old.any holds).toNat = (old.any isOpenCursor).toNat := by
    cases old with
    | none => rfl
    | some o =>
      have hkinds := o.toNat_holds
      rw [(h o rfl).1, (h o rfl).2] at hkinds
      simpa using hkinds
  rw [hexecuted, List.length_nil] at hopened
  exact ⟨hexecuted, by omega, hreads⟩

end Object

namespace Session

theorem uncounted_build (ses : Session) {how : Making} (h : how.opens ses.source = []) :
    (ses.build how).Uncounted :=
  (ses.balanced_build how).uncounted ((ses.counts_build how).1.trans h) (ses.counts_build how).2

/-- A making that comes to nothing has opened nothing. -/
theorem opens_of_build_error (ses : Session) {how : Making} {reply : Reply}
    (h : (ses.build how).value = .error reply) : how.opens ses.source = [] := by
  have hrefuses : ∀ s, how = .cursor s ∨ how = .reader s → ses.source.Refuses s := by
    intro s hhow feed hscript
    rcases hhow with rfl | rfl
    · simp only [build, Cursor.create, Source.openFeed, hscript] at h
      cases h
    · simp only [build, Reader.create, Statement.acquire, Source.openFeed, hscript] at h
      cases h
  cases how with
  | cursor s => exact (hrefuses s (.inl rfl)).opens
  | reader s => exact (hrefuses s (.inr rfl)).opens
  | _ => rfl

/-- The commands that come to nothing as far as a source is concerned. -/
inductive Fruitless (ses : Session) : Command → Prop
  /-- Nothing is made: no cursor can be opened, or a clause has no statement, or something that is
  needed is missing. -/
  | unmade {name : String} {how : Making} (h : (ses.step (.make name how)).1.reply ≠ .done) :
      Fruitless ses (.make name how)
  /-- A table, a query or a stream is made, and nothing that holds a cursor is let go of for it. -/
  | built {name : String} {how : Making} (hhow : ∀ s, how ≠ .cursor s ∧ how ≠ .reader s)
      (hold : ∀ o, ses.objects.get? name = some o →
        o.isOpenStream = false ∧ o.isOpenReader = false) :
      Fruitless ses (.make name how)
  | looked {name : String} {what : Action} (h : what.looks = true) : Fruitless ses (.use name what)
  /-- A bare cursor or a reader is read and hands out no row: the read fails, or finds the end of
  the rows, or comes after the close. -/
  | unread {name : String} {what : Action} (hwhat : what = .cursorNext ∨ what = .readerRead)
      (h : ∀ r, (ses.step (.use name what)).1.reply ≠ .row (some r)) :
      Fruitless ses (.use name what)
  /-- A query is listed whose clause has no statement, or has one that no cursor can be opened
  for. -/
  | unlisted {name : String} {q : Query} (hq : ses.objects.get? name = some (.query q))
      (h : ∀ s, q.clause.statement q.table.settings.methods q.table.name = .ok s →
        ses.source.Refuses s) :
      Fruitless ses (.use name .queryToList)
  /-- Anything is done with a stream that is at its end, or given up, or has yet to open a cursor
  that cannot be opened. -/
  | spent {name : String} {M : Model} {st : RecordStream M} {what : Action}
      (hst : ses.objects.get? name = some (.stream M st)) (hphase : st.phase ≠ .reading)
      (hidle : st.phase = .idle → st.source.Refuses st.statement) :
      Fruitless ses (.use name what)

variable {ses : Session} {name : String}

/-- Unless nothing is under the name, a use counts what the use of the object counts. -/
theorem tally_step_use {what : Action}
    (h : ∀ o, ses.objects.get? name = some o → (o.use ses.source what).Uncounted) :
    (ses.step (.use name what)).2.tally = ses.tally := by
  cases hname : ses.objects.get? name with
  | none =>
    simp only [step, answer, hname]
    rfl
  | some o =>
    rw [step_use hname]
    exact (h o hname).addAll ses.tally

/-- A making that opens nothing and lets go of nothing open leaves the tally as it is. -/
theorem tally_step_make {how : Making} (hbuild : (ses.build how).Uncounted)
    (hold : ∀ o, (ses.build how).value = .ok o →
      (Object.dropAny (ses.objects.get? name)).Uncounted) :
    (ses.step (.make name how)).2.tally = ses.tally := by
  have hanswer : (ses.answer (.make name how)).Uncounted := by
    refine hbuild.bind ?_
    cases hvalue : (ses.build how).value with
    | error reply => exact Traced.uncounted_pure _
    | ok o => exact (hold o hvalue).bind (Traced.uncounted_pure _)
  exact hanswer.addAll ses.tally

theorem Fruitless.tally_step {c : Command} (h : ses.Fruitless c) :
    (ses.step c).2.tally = ses.tally := by
  cases h with
  | @unmade name how h =>
    cases hvalue : (ses.build how).value with
    | error reply =>
      refine tally_step_make (ses.uncounted_build (ses.opens_of_build_error hvalue)) ?_
      intro o ho
      rw [hvalue] at ho
      cases ho
    | ok o =>
      refine absurd ?_ h
      simp only [step, answer, Traced.value_bind, hvalue, Traced.value_pure]
  | @built name how hhow hold =>
    have hopens : how.opens ses.source = [] := by
      cases how with
      | cursor s => exact absurd rfl (hhow s).1
      | reader s => exact absurd rfl (hhow s).2
      | _ => rfl
    exact tally_step_make (ses.uncounted_build hopens) fun _ _ => Object.uncounted_dropAny hold
  | looked h => exact tally_step_use fun o _ => o.uncounted_use_of_looks ses.source h
  | unread hwhat h =>
    refine tally_step_use fun o ho => o.uncounted_use_of_unread ses.source hwhat fun r hr => ?_
    refine h r ?_
    rw [step_use ho]
    exact hr
  | unlisted hq h =>
    refine tally_step_use fun o ho => ?_
    obtain rfl := Option.some.inj (hq.symm.trans ho)
    exact Object.uncounted_toList h
  | spent hst hphase hidle =>
    refine tally_step_use fun o ho => ?_
    obtain rfl := Option.some.inj (hst.symm.trans ho)
    exact Object.uncounted_useStream hphase hidle _

/-- A pull at a stream opens the cursor of its statement if it has yet to be opened, counts the rows
up to where it ends on the course ahead, and counts one close if the stream had a cursor, or was
given one, and does not read on from there. -/
theorem tally_step_pull {M : Model} {st : RecordStream M} {what : Action}
    (hst : ses.objects.get? name = some (.stream M st)) (hpulls : what.pulls = true) :
    (ses.step (.use name what)).2.tally = ses.tally.plusCounts st.opens
      (st.isReading.toNat + st.opens.length -
        (((st.ahead 0).after (what.advances st.toEnd)).1 = .reading : Bool).toNat)
      ((st.ahead 0).after (what.advances st.toEnd)).2 := by
  have hadvances : 0 < what.advances st.toEnd := Action.advances_pos hpulls (Nat.succ_pos _)
  have hexecuted := Object.executed_useStream st what
  rw [if_pos hpulls] at hexecuted
  obtain ⟨p, rfl⟩ := Action.exists_pull hpulls
  obtain ⟨hreads, moved, hmoved, hstop⟩ := Object.reads_pull st p
  have hopened := (Object.useStream M st p.action).length_executed
  have hclosed := (Object.balanced_useStream st p.action).count
  rw [← hopened, hexecuted, hmoved, Object.holds_stream, RecordStream.isReading,
    RecordStream.isReading, hstop hadvances] at hclosed
  rw [step_use hst]
  show ses.tally.addAll (Object.useStream M st p.action).events = _
  rw [Tally.addAll_events, Tally.plusCounts, ← hopened, hexecuted, hreads, RecordStream.isReading,
    hclosed, Nat.add_sub_cancel]

/-- A stream that is reading, but has no rows left, releases its cursor at the next pull: whether it
finds the end or a failure, nothing else is counted. -/
theorem tally_step_last_pull {M : Model} {st : RecordStream M} {what : Action}
    (hst : ses.objects.get? name = some (.stream M st)) (hphase : st.phase = .reading)
    (hrows : st.upcoming = []) (hpulls : what.pulls = true) :
    (ses.step (.use name what)).2.tally = { ses.tally with closed := ses.tally.closed + 1 } := by
  have hopens : st.opens = [] := by
    obtain ⟨src, s, onMismatch, progress⟩ := st
    cases progress with
    | reading feed current => rfl
    | _ => cases hphase
  have hstop : ∀ k, ((st.ahead 0).after (k + 1)).1 ≠ .reading ∧
      ((st.ahead 0).after (k + 1)).2 = 0 := by
    intro k
    obtain ⟨src, s, onMismatch, progress⟩ := st
    cases progress with
    | reading feed current =>
      cases feed with
      | row r rest => cases hrows
      | finished => exact ⟨Phase.noConfusion, rfl⟩
      | failing message => cases k <;> exact ⟨Phase.noConfusion, rfl⟩
    | _ => cases hphase
  have hadvances : 0 < what.advances st.toEnd := Action.advances_pos hpulls (Nat.succ_pos _)
  have hreading : st.isReading = true := decide_eq_true hphase
  obtain ⟨k, hk⟩ := Nat.exists_eq_succ_of_ne_zero (Nat.ne_zero_of_lt hadvances)
  rw [tally_step_pull hst hpulls, hk, decide_eq_false (hstop k).1, (hstop k).2, hopens,
    hreading, Tally.plusCounts, List.append_nil]
  rfl

/-- After any commands a source has executed the statements whose cursors it opened, in order and
each as often, and has read the rows that cursors delivered, those of streams too, which all read
from it. No count ever goes back. Commands that come to nothing leave the tally as it is, and so
does a pull at a stream that has no rows left, but for the close of the cursor that it had. A
statement that was registered more than once is answered by what was registered last. -/
theorem tally_of_run (src : Source) (cmds : List Command) :
    let ses := ((start src).run cmds).2
    (ses.tally.executed = (start src).openings cmds ∧
        ses.tally.opened = ses.tally.executed.length ∧
        ses.tally.rowsRead = (start src).deliveries cmds) ∧
      (∀ (M : Model) (st : RecordStream M) name,
        ses.objects.get? name = some (.stream M st) → st.source = src) ∧
      (∀ more, ses.tally.GrowsTo (ses.run more).2.tally) ∧
      (∀ c, ses.Fruitless c → (ses.step c).2.tally = ses.tally) ∧
      (∀ (M : Model) (st : RecordStream M) name what,
        ses.objects.get? name = some (.stream M st) → what.pulls = true →
          let stop := (st.ahead 0).after (what.advances st.toEnd)
          let pulled := (ses.step (.use name what)).2.tally
          pulled = ses.tally.plusCounts st.opens (st.isReading.toNat + st.opens.length -
              (stop.1 = .reading : Bool).toNat) stop.2 ∧
            (st.phase = .reading → st.upcoming = [] →
              pulled = { ses.tally with closed := ses.tally.closed + 1 })) ∧
      ∀ (before after : List (Statement × Script)) s script, (∀ r ∈ after, r.1.text ≠ s.text) →
        ((src.registerAll (before ++ (s, script) :: after)).openFeed s).value = script.answer := by
  intro ses
  obtain ⟨closes, htally⟩ := (start src).tally_run cmds
  obtain ⟨hshares, hsource⟩ := (shares_start src).run cmds
  refine ⟨⟨?_, ?_, ?_⟩, ?_, ses.growsTo_run, fun c hc => hc.tally_step, ?_, ?_⟩
  · rw [show ses.tally = _ from htally]
    exact List.nil_append _
  · rw [show ses.tally = _ from htally]
    simp only [Tally.plusCounts, start, startKnowing, Tally.zero, List.nil_append, Nat.zero_add]
  · rw [show ses.tally = _ from htally]
    exact Nat.zero_add _
  · intro M st name hst
    exact (show st.source = ses.source from hshares name _ hst).trans hsource
  · intro M st name what hst hpulls
    exact ⟨tally_step_pull hst hpulls,
      fun hphase hrows => tally_step_last_pull hst hphase hrows hpulls⟩
  · intro before after s script hafter
    exact src.openFeed_registerAll before s script hafter

/-- A statement that was registered to be refused and then with a row and a failure after it: a
reader and a stream both take the row, and then the failure costs the reader nothing and the stream
its cursor. -/
theorem tally_of_run_past_failure :
    let s : Statement := ⟨"SELECT * FROM T"⟩
    let rows := Script.rows (.row .empty (.failing "timeout"))
    let src := Source.empty.registerAll [(s, .refuse "down"), (s, rows)]
    let ses := ((start src).run [.make "r" (.reader s), .use "r" .readerRead,
      .make "e" (.stream .empty s .fail), .use "e" .advance]).2
    (src.openFeed s).value = rows.answer ∧ ses.tally = ⟨[s, s], 2, 0, 2⟩ ∧
      (ses.step (.use "r" .readerRead)).2.tally = ses.tally ∧
      (ses.step (.use "e" .advance)).2.tally = { ses.tally with closed := 1 } := by
  intro s rows src ses
  obtain ⟨-, -, -, hfruitless, hpull, -⟩ := tally_of_run src [.make "r" (.reader s),
    .use "r" .readerRead, .make "e" (.stream .empty s .fail), .use "e" .advance]
  obtain ⟨-, -, -, -, -, hregistered⟩ := tally_of_run Source.empty []
  have hnone : (ses.step (.use "r" .readerRead)).1.reply.handed = 0 := by decide +kernel
  have hunread : ses.Fruitless (.use "r" .readerRead) := by
    refine .unread (.inr rfl) fun r hr => ?_
    rw [hr] at hnone
    cases hnone
  have hspent : (ses.objects.get? "e").any (fun o => match o with
      | .stream _ st => st.phase = .reading && st.upcoming.isEmpty
      | _ => false) = true := by decide +kernel
  obtain ⟨M, st, hstream, hphase, hrows⟩ : ∃ M, ∃ st : RecordStream M,
      ses.objects.get? "e" = some (.stream M st) ∧ st.phase = .reading ∧ st.upcoming = [] := by
    obtain ⟨o, ho, hspent⟩ := (Option.any_eq_true _ _).1 hspent
    cases o with
    | stream M st => exact ⟨M, st, ho, by simpa using hspent⟩
    | _ => cases hspent
  have hlast := (hpull M st "e" .advance hstream rfl).2 hphase hrows
  have htally : ses.tally = ⟨[s, s], 2, 0, 2⟩ := by decide +kernel
  have hanswer : (src.openFeed s).value = rows.answer :=
    hregistered [(s, .refuse "down")] [] s rows (fun r hr => absurd hr List.not_mem_nil)
  refine ⟨hanswer, htally, hfruitless _ hunread, ?_⟩
  rw [htally] at hlast ⊢
  exact hlast

end Session

end Recordset
