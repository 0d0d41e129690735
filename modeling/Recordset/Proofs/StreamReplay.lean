import Recordset.Proofs.ObjectIndependence
import Recordset.Proofs.StreamUses

/-!
# Starting over

What the uses of an object tell is its own affair: a session that has counted something before
adds that to the counts and to nothing else (`Session.run_uses_eq_map`), and what a stream tells
does not depend on the types that are known either (`Object.tell_stream`). A stream that is reset
is the stream that was made (`RecordStream.value_reset`), so what it tells from then on is what a
new one tells. `reset_replays` is the top theorem.
-/

set_option autoImplicit false

namespace Recordset

namespace Tally

/-- The counts of two runs, one after the other. -/
def plus (t t' : Tally) : Tally :=
  ⟨t.executed ++ t'.executed, t.opened + t'.opened, t.closed + t'.closed,
    t.rowsRead + t'.rowsRead⟩

@[simp] theorem plus_zero (t : Tally) : t.plus zero = t := by
  simp only [plus, zero, List.append_nil, Nat.add_zero]

theorem plus_add (t t' : Tally) (e : Event) : (t.plus t').add e = t.plus (t'.add e) := by
  cases e with
  | opened s => simp only [plus, add, List.append_assoc, Nat.add_assoc]
  | closed | rowRead => simp only [plus, add, Nat.add_assoc]
  | logged r => rfl

theorem plus_addAll (t t' : Tally) (es : List Event) :
    (t.plus t').addAll es = t.plus (t'.addAll es) := by
  induction es generalizing t' with
  | nil => rfl
  | cons e rest ih =>
    show ((t.plus t').add e).addAll rest = _
    rw [plus_add, ih]
    rfl

end Tally

open Session (Outcome)

/-- What a command brings in a session that has counted this much more before. -/
def Session.Outcome.after (before : Tally) (o : Outcome) : Outcome :=
  { o with tally := before.plus o.tally }

namespace Object

/-- What an object tells when it is used for one thing after another, from a count on, in a process
that knows some types. -/
def tell (src : Source) (o : Object) (known : List Nat) (t : Tally) : List Action → List Outcome
  | [] => []
  | what :: rest =>
    let used := o.use src what
    let t' := t.addAll used.events
    ⟨used.value.1, t', used.records known⟩ ::
      tell src used.value.2 (known ++ used.lookedUp) t' rest

/-- Nothing that is told depends on what was counted before. -/
theorem tell_plus (src : Source) (o : Object) (known : List Nat) (t t' : Tally)
    (whats : List Action) :
    o.tell src known (t.plus t') whats = (o.tell src known t' whats).map (Outcome.after t) := by
  induction whats generalizing o known t' with
  | nil => rfl
  | cons what rest ih =>
    simp only [tell, List.map_cons, Tally.plus_addAll, ih]
    rfl

/-- A stream that is in use looks no type up, so it tells the same in all processes. -/
theorem tell_stream {M : Model} (src : Source) (st : RecordStream M) (known known' : List Nat)
    (t : Tally) (whats : List Action) :
    (stream M st).tell src known t whats = (stream M st).tell src known' t whats := by
  induction whats generalizing st known known' t with
  | nil => rfl
  | cons what rest ih =>
    obtain ⟨progress, hmoved, hlogs⟩ := logged_useStream st what
    have huse : ((stream M st).use src what).value.2 =
        stream M { st with progress := progress } := hmoved
    have hrecords : ∀ known, ((stream M st).use src what).records known =
        ((stream M st).use src what).allRecords := hlogs.log.once_eq
    simp only [tell, huse, hrecords]
    rw [ih _ (known ++ _) (known' ++ ((stream M st).use src what).lookedUp)]

end Object

namespace RecordStream

variable {M : Model}

/-- A stream that starts over is as it was made. -/
theorem value_reset (st : RecordStream M) (h : st.phase ≠ .disposed) :
    st.reset.value = unread st.source st.statement st.onMismatch := by
  obtain ⟨src, s, onMismatch, progress⟩ := st
  cases progress with
  | idle | exhausted | reading _ _ => rfl
  | disposed => exact absurd rfl h

/-- Starting over closes the cursor that is open, and there is nothing else to count. -/
theorem addAll_reset (st : RecordStream M) (t : Tally) :
    t.addAll st.reset.events =
      { t with closed := t.closed + if st.phase = .reading then 1 else 0 } := by
  obtain ⟨src, s, onMismatch, progress⟩ := st
  cases progress with
  | idle | exhausted | reading _ _ | disposed => rfl

end RecordStream

namespace Session

variable {ses : Session} {name : String}

/-- In a run of uses a session tells what the object tells from the session's count on. -/
theorem run_uses_eq_tell {o : Object} (h : ses.objects.get? name = some o)
    (whats : List Action) :
    (ses.run (Command.uses name whats)).1 = o.tell ses.source ses.known ses.tally whats := by
  induction whats generalizing ses o with
  | nil => rfl
  | cons what rest ih =>
    show (ses.step (.use name what)).1 ::
      ((ses.step (.use name what)).2.run (Command.uses name rest)).1 = _
    rw [step_use h, ih (o := (o.use ses.source what).value.2) (by simp)]
    rfl

/-- A session that has counted something before adds that to what the object tells by itself. -/
theorem run_uses_eq_map {o : Object} (h : ses.objects.get? name = some o) (whats : List Action) :
    (ses.run (Command.uses name whats)).1 =
      (o.tell ses.source ses.known Tally.zero whats).map (Outcome.after ses.tally) := by
  rw [run_uses_eq_tell h, ← Object.tell_plus, Tally.plus_zero]

/-- A stream that is not disposed is made anew when it is reset. -/
theorem step_reset {M : Model} {st : RecordStream M}
    (h : ses.objects.get? name = some (.stream M st)) (hphase : st.phase ≠ .disposed) :
    (ses.step (.use name .reset)).2 =
      ⟨ses.source,
        ses.objects.insert name (.stream M (.unread st.source st.statement st.onMismatch)),
        ses.tally.addAll st.reset.events, ses.known ++ st.reset.lookedUp⟩ := by
  have huse : (Object.stream M st).use ses.source .reset =
      st.reset >>= fun moved => pure (.done, .stream M moved) := rfl
  rw [step_use h, huse, Traced.value_bind, Traced.events_bind, st.value_reset hphase]
  simp only [Traced.value_pure, Traced.events_pure, Traced.lookedUp, Traced.allRecords_bind,
    Traced.allRecords_pure, List.append_nil]

/-- A stream that is not disposed goes back to its start when it is reset: it has no record at hand,
its cursor is closed if one was open, and nothing else is counted. Whatever it is used for after
that, it tells what a new stream of the statement tells in any session on the source, with the
same replies, log records and counts from there on. No commands change the source, so there is
no end to this. -/
theorem reset_replays (M : Model) (ses : Session) (name : String) (s : Statement)
    (onMismatch : OnMismatch) (past later : List Action) :
    let made := (ses.step (.make name (.stream M s onMismatch))).2
    let used := (made.run (Command.uses name past)).2
    let again := (used.step (.use name .reset)).2
    ∃ st : RecordStream M, used.objects.get? name = some (.stream M st) ∧
      (st.phase ≠ .disposed →
        (∃ anew : RecordStream M, again.objects.get? name = some (.stream M anew) ∧
          anew.current = none ∧ anew.phase = .idle) ∧
        again.tally =
          { used.tally with
            closed := used.tally.closed + if st.phase = .reading then 1 else 0 } ∧
        (∀ cmds, (again.run cmds).2.source = ses.source) ∧
        ∃ told : List Outcome,
          (again.run (Command.uses name later)).1 = told.map (Outcome.after again.tally) ∧
          ∀ (other : Session) (name' : String), other.source = ses.source →
            let fresh := (other.step (.make name' (.stream M s onMismatch))).2
            (fresh.run (Command.uses name' later)).1 =
              told.map (Outcome.after fresh.tally)) := by
  intro made used again
  let start : RecordStream M := .unread ses.source s onMismatch
  have hmade : made.objects.get? name = some (.stream M start) :=
    get?_step_make_stream ses name s onMismatch
  obtain ⟨progress, hlast⟩ := Object.exists_progress_useAll made.source start past
  let st : RecordStream M := { start with progress := progress }
  have hused : used.objects.get? name = some (.stream M st) :=
    (get?_run_uses hmade past).trans (congrArg some hlast)
  refine ⟨st, hused, ?_⟩
  intro hphase
  have hagain : again = ⟨used.source, used.objects.insert name (.stream M start),
      used.tally.addAll st.reset.events, used.known ++ st.reset.lookedUp⟩ :=
    step_reset hused hphase
  have hname : again.objects.get? name = some (.stream M start) := by
    rw [hagain, NameMap.get?_insert, if_pos rfl]
  have hsource : again.source = ses.source := by
    rw [hagain]
    exact source_run made _
  refine ⟨⟨start, hname, rfl, rfl⟩, ?_, ?_, ?_⟩
  · rw [hagain]
    exact st.addAll_reset used.tally
  · intro cmds
    rw [source_run, hsource]
  · -- What the new stream tells by itself is told in both sessions.
    refine ⟨_, run_uses_eq_map hname later, ?_⟩
    intro other name' hother fresh
    have hfresh : fresh.objects.get? name' = some (.stream M (.unread other.source s onMismatch)) :=
      get?_step_make_stream other name' s onMismatch
    have hfreshSource : fresh.source = ses.source := hother
    rw [hother] at hfresh
    rw [run_uses_eq_map hfresh later, hfreshSource, hsource,
      Object.tell_stream _ _ fresh.known again.known]

end Session

end Recordset
