import Mathlib.Algebra.Ring.Nat
import Recordset.Proofs.StreamUses

/-!
# Failures and silence of a stream

A stream that fails is disposed by then, and a stream that is over has nothing to tell: no pull
changes it or brings anything about (`Object.silent_useStream`). So over everything that a stream
is used for there is one failure at most (`Session.failures_run_uses`), and what comes after it, or
after the end of the rows, is silence. `failure_then_silence` is the top theorem.
-/

set_option autoImplicit false

namespace Recordset

/-- Of nothing there is one at most, and whatever one of it would bring. -/
theorem one_at_most_of_zero {n : Nat} {p : Prop} (h : n = 0) : n ≤ 1 ∧ (0 < n → p) :=
  ⟨by omega, fun hpos => absurd h (Nat.ne_of_gt hpos)⟩

namespace Reply

/-- How many failures a reply tells of. -/
def failures : Reply → Nat
  | failed _ | sourceFailed _ => 1
  | item _ x => x.toList.countP fun x => !x.isOk
  | items _ xs => xs.countP fun x => !x.isOk
  | done | noObject | badSettings | row _ | isClosed _ | statement _ | table _ _ | clause _
  | stated _ | advanced _ | current _ _ | records _ _ | phase _ => 0

/-- How many records a reply hands out, or tells to be at hand. -/
def found : Reply → Nat
  | advanced b => b.toNat
  | current _ r => r.toList.length
  | item _ x => x.toList.countP Except.isOk
  | items _ xs => xs.countP Except.isOk
  | records _ rs => rs.length
  | done | noObject | badSettings | failed _ | sourceFailed _ | row _ | isClosed _ | statement _
  | table _ _ | clause _ | stated _ | phase _ => 0

/-- The reply brings neither a record nor a failure. -/
def IsSilent (reply : Reply) : Prop := reply.failures = 0 ∧ reply.found = 0

end Reply

namespace RecordStream

variable {M : Model}

/-- Nothing is left to pull at. -/
def IsOver (st : RecordStream M) : Prop := st.phase = .exhausted ∨ st.phase = .disposed

variable {st : RecordStream M}

theorem advance_of_isOver (h : st.IsOver) : st.advance = pure (.ok false, st) := by
  obtain ⟨src, s, onMismatch, progress⟩ := st
  cases progress with
  | idle | reading _ _ => rcases h with h | h <;> cases h
  | exhausted | disposed => rfl

theorem clearCurrent_of_isOver (h : st.IsOver) : st.clearCurrent = st := by
  obtain ⟨src, s, onMismatch, progress⟩ := st
  cases progress with
  | idle | reading _ _ => rcases h with h | h <;> cases h
  | exhausted | disposed => rfl

theorem current_of_isOver (h : st.IsOver) : st.current = none := by
  obtain ⟨src, s, onMismatch, progress⟩ := st
  cases progress with
  | idle | reading _ _ => rcases h with h | h <;> cases h
  | exhausted | disposed => rfl

theorem take_of_isOver (h : st.IsOver) (n : Nat) : st.take n = pure ([], st) := by
  cases n with
  | zero => rfl
  | succ n =>
    unfold take next
    rw [advance_of_isOver h]
    rfl

/-- An advance that fails leaves the stream disposed. -/
theorem phase_advance_of_error {e : Failure} (h : st.advance.value.1 = .error e) :
    st.advance.value.2.phase = .disposed := by
  cases st.advanced_advance 0 with
  | found r rest value ahead =>
    rw [value] at h
    cases h
  | ended p closed value ahead =>
    rw [value] at h
    cases h
  | failed e' value ahead =>
    rw [value]
    rfl

theorem phase_next_of_error {e : Failure} (h : st.next.value.1 = some (.error e)) :
    st.next.value.2.phase = .disposed := by
  cases st.asked with
  | found r rest advanced value =>
    rw [value] at h
    cases h
  | ended p closed advanced value =>
    rw [value] at h
    cases h
  | failed e' advanced value =>
    rw [value]
    rfl

/-- Among the items taken there is one failure at most, and it leaves the stream disposed. -/
theorem failures_take (st : RecordStream M) (n : Nat) :
    (st.take n).value.1.countP (fun x => !x.isOk) ≤ 1 ∧
      (0 < (st.take n).value.1.countP (fun x => !x.isOk) →
        (st.take n).value.2.phase = .disposed) := by
  induction n generalizing st with
  | zero => exact one_at_most_of_zero rfl
  | succ n ih =>
    have hnext := fun e => st.phase_next_of_error (e := e)
    rw [take, Traced.value_bind]
    generalize st.next.value = pulled at hnext ⊢
    obtain ⟨item, moved⟩ := pulled
    cases item with
    | none => exact one_at_most_of_zero rfl
    | some x =>
      simp only [Traced.value_bind, Traced.value_pure, List.countP_cons]
      cases x with
      | ok r =>
        simpa [Except.isOk, Except.toBool] using ih moved
      | error e =>
        -- The stream is disposed by now, so nothing more is taken from it.
        have hmoved : moved.phase = .disposed := hnext e rfl
        rw [take_of_isOver (.inr hmoved)]
        exact ⟨Nat.le_refl 1, fun _ => hmoved⟩

/-- Records that cannot be put together have a failure among them. -/
theorem failures_of_gather {xs : List (Except Failure M.Record)} {e : Failure}
    (h : gather xs = .error e) : 0 < xs.countP fun x => !x.isOk := by
  induction xs with
  | nil => cases h
  | cons x rest ih =>
    cases x with
    | error e' => simp [Except.isOk, Except.toBool]
    | ok r =>
      cases hrest : gather rest with
      | ok rs =>
        rw [gather, hrest] at h
        cases h
      | error e' =>
        rw [gather, hrest] at h
        cases h
        simpa [Except.isOk, Except.toBool] using ih hrest

end RecordStream

namespace Object

variable {M : Model}

def phase? : Object → Option Phase
  | stream _ st => some st.phase
  | cursor _ | reader _ | table _ | query _ => none

/-- Whatever a disposed stream is used for, and whatever is pulled at an exhausted one, the stream
stays as it is, nothing comes about, and the reply is silent. -/
theorem silent_useStream {st : RecordStream M} {what : Action}
    (h : st.phase = .disposed ∨ st.phase = .exhausted ∧ what ≠ .reset ∧ what ≠ .dispose) :
    ∃ reply, useStream M st what = pure (reply, stream M st) ∧ reply.IsSilent := by
  have hover : st.IsOver := h.elim .inr fun h => .inl h.1
  cases what with
  | advance =>
    rw [useStream, RecordStream.advance_of_isOver hover]
    exact ⟨.advanced false, rfl, rfl, rfl⟩
  | current =>
    rw [useStream, RecordStream.current_of_isOver hover]
    exact ⟨.current M none, rfl, rfl, rfl⟩
  | takeCurrent =>
    rw [useStream, RecordStream.takeCurrent, RecordStream.current_of_isOver hover,
      RecordStream.clearCurrent_of_isOver hover]
    exact ⟨.current M none, rfl, rfl, rfl⟩
  | next =>
    rw [useStream, RecordStream.next, RecordStream.advance_of_isOver hover]
    exact ⟨.item M none, rfl, rfl, rfl⟩
  | take n =>
    rw [useStream, RecordStream.take_of_isOver hover]
    exact ⟨.items M [], rfl, rfl, rfl⟩
  | drain =>
    rw [useStream, RecordStream.drain, RecordStream.take_of_isOver hover]
    exact ⟨.items M [], rfl, rfl, rfl⟩
  | collect =>
    rw [useStream, RecordStream.collect, RecordStream.drain, RecordStream.take_of_isOver hover]
    exact ⟨.records M [], rfl, rfl, rfl⟩
  | reset | dispose =>
    rcases h with hdisposed | ⟨-, hreset, hdispose⟩
    · obtain ⟨src, s, onMismatch, progress⟩ := st
      cases progress with
      | disposed => exact ⟨.done, rfl, rfl, rfl⟩
      | _ => cases hdisposed
    · contradiction
  | _ => exact ⟨_, rfl, rfl, rfl⟩

/-- A use tells of one failure at most, and leaves the stream disposed if it tells of one. -/
theorem failures_useStream (st : RecordStream M) (what : Action) :
    (useStream M st what).value.1.failures ≤ 1 ∧
      (0 < (useStream M st what).value.1.failures →
        (useStream M st what).value.2.phase? = some .disposed) := by
  cases what with
  | advance =>
    have hadvance := fun e => st.phase_advance_of_error (e := e)
    rw [useStream_advance]
    simp only [Traced.value_bind, Traced.value_pure]
    cases hfound : st.advance.value.1 with
    | ok b => exact one_at_most_of_zero rfl
    | error e => exact ⟨Nat.le_refl 1, fun _ => congrArg some (hadvance e hfound)⟩
  | next =>
    have hnext := fun e => st.phase_next_of_error (e := e)
    simp only [useStream, Traced.value_bind, Traced.value_pure]
    cases hitem : st.next.value.1 with
    | none => exact one_at_most_of_zero rfl
    | some x =>
      cases x with
      | ok r => exact one_at_most_of_zero rfl
      | error e => exact ⟨Nat.le_refl 1, fun _ => congrArg some (hnext e hitem)⟩
  | take n =>
    obtain ⟨hone, hlast⟩ := st.failures_take n
    exact ⟨hone, fun h => congrArg some (hlast h)⟩
  | drain =>
    obtain ⟨hone, hlast⟩ := st.failures_take (st.supply + 1)
    exact ⟨hone, fun h => congrArg some (hlast h)⟩
  | collect =>
    obtain ⟨-, hlast⟩ := st.failures_take (st.supply + 1)
    rw [useStream_collect]
    simp only [RecordStream.collect, RecordStream.drain, Traced.value_bind, Traced.value_pure]
    cases hgather : RecordStream.gather (st.take (st.supply + 1)).value.1 with
    | ok rs => exact one_at_most_of_zero rfl
    | error e =>
      refine ⟨Nat.le_refl 1, fun _ => congrArg some ?_⟩
      exact hlast (RecordStream.failures_of_gather hgather)
  | _ => exact one_at_most_of_zero rfl

end Object

namespace Session

variable {M : Model} {ses : Session} {name : String}

/-- Nothing comes of the commands: the session stays as it is, no reply brings a record or a
failure, the source counts nothing, and no log record is written. -/
structure Idles (ses : Session) (cmds : List Command) : Prop where
  same : (ses.run cmds).2 = ses
  replies : ∀ o ∈ (ses.run cmds).1, o.reply.IsSilent
  tally : ∀ o ∈ (ses.run cmds).1, o.tally = ses.tally
  records : ∀ o ∈ (ses.run cmds).1, o.records = []

theorem Idles.cons {c : Command} {rest : List Command} {reply : Reply}
    (hstep : ses.step c = (⟨reply, ses.tally, []⟩, ses)) (hreply : reply.IsSilent)
    (h : ses.Idles rest) : ses.Idles (c :: rest) := by
  have hrun : ses.run (c :: rest) = (⟨reply, ses.tally, []⟩ :: (ses.run rest).1,
      (ses.run rest).2) := by
    rw [run, hstep]
  constructor
  · rw [hrun]
    exact h.same
  · rw [hrun]
    exact List.forall_mem_cons.2 ⟨hreply, h.replies⟩
  · rw [hrun]
    exact List.forall_mem_cons.2 ⟨rfl, h.tally⟩
  · rw [hrun]
    exact List.forall_mem_cons.2 ⟨rfl, h.records⟩

/-- Nothing comes of any uses of a disposed stream, nor of pulling at an exhausted one. -/
theorem idles_uses {st : RecordStream M} (hname : ses.objects.get? name = some (.stream M st))
    (whats : List Action)
    (h : ∀ what ∈ whats,
      st.phase = .disposed ∨ st.phase = .exhausted ∧ what ≠ .reset ∧ what ≠ .dispose) :
    ses.Idles (Command.uses name whats) := by
  induction whats with
  | nil =>
    have hnone : ∀ p : Outcome → Prop, ∀ o ∈ (ses.run []).1, p o := fun p o ho => nomatch ho
    exact ⟨rfl, hnone _, hnone _, hnone _⟩
  | cons what rest ih =>
    obtain ⟨hwhat, hrest⟩ := List.forall_mem_cons.1 h
    obtain ⟨reply, huse, hreply⟩ := Object.silent_useStream hwhat
    have huse : (Object.stream M st).use ses.source what = pure (reply, .stream M st) := huse
    refine Idles.cons ?_ hreply (ih hrest)
    rw [step_use hname, huse]
    simp only [Traced.value_pure, Traced.events_pure, Traced.records, Traced.lookedUp,
      Traced.allRecords_pure, List.filterMap_nil, List.append_nil, NameMap.insert_of_get? hname]
    rfl

/-- Over a run of uses a stream tells of one failure at most, by induction on the uses: the first
one leaves it disposed, and nothing comes of the rest. -/
theorem failures_run_uses {st : RecordStream M}
    (hname : ses.objects.get? name = some (.stream M st)) (whats : List Action) :
    let ran := ses.run (Command.uses name whats)
    (ran.1.map fun o => o.reply.failures).sum ≤ 1 ∧
      (0 < (ran.1.map fun o => o.reply.failures).sum →
        (ran.2.objects.get? name).bind Object.phase? = some .disposed) := by
  intro ran
  induction whats generalizing ses st with
  | nil => exact one_at_most_of_zero rfl
  | cons what rest ih =>
    obtain ⟨progress, hmoved, -⟩ := Object.logged_useStream st what
    obtain ⟨hone, hdisposed⟩ := Object.failures_useStream st what
    let after := (ses.step (.use name what)).2
    have hafter : after.objects.get? name =
        some (.stream M { st with progress := progress }) := by
      show (ses.step (.use name what)).2.objects.get? name = _
      rw [step_use hname, NameMap.get?_insert, if_pos rfl]
      exact congrArg some hmoved
    have hsum : (ran.1.map fun o => o.reply.failures).sum =
        (Object.useStream M st what).value.1.failures +
          ((after.run (Command.uses name rest)).1.map fun o => o.reply.failures).sum := by
      have hreply : (ses.step (.use name what)).1.reply =
          (Object.useStream M st what).value.1 := by
        rw [step_use hname]
        rfl
      rw [← hreply]
      rfl
    rcases Nat.eq_zero_or_pos (Object.useStream M st what).value.1.failures with hnone | hsome
    · rw [hsum, hnone, Nat.zero_add]
      exact ih hafter
    · have hphase : Progress.phase progress = .disposed := by
        have := hdisposed hsome
        rw [hmoved] at this
        exact Option.some.inj this
      have hidles := idles_uses hafter rest fun _ _ => .inl hphase
      have hrest :
          ((after.run (Command.uses name rest)).1.map fun o => o.reply.failures).sum = 0 := by
        rw [List.sum_eq_zero_iff_forall_eq_nat]
        intro n hn
        obtain ⟨o, ho, rfl⟩ := List.mem_map.1 hn
        exact (hidles.replies o ho).1
      have hlast : ran.2 = after := hidles.same
      rw [hsum, hrest, hlast, hafter]
      exact ⟨hone, fun _ => congrArg some hphase⟩

/-- From one point at which a stream holds no cursor to another, as many are closed as opened. -/
theorem opened_run_uses {st last : RecordStream M} {whats : List Action}
    (hname : ses.objects.get? name = some (.stream M st)) (hst : st.isReading = false)
    (hlast : ((Object.stream M st).useAll ses.source whats).value = .stream M last)
    (hclosed : last.isReading = false) :
    let ran := (ses.run (Command.uses name whats)).2
    ran.tally.opened + ses.tally.closed = ran.tally.closed + ses.tally.opened := by
  intro ran
  have hcount := (Object.balanced_useAll ses.source (.stream M st) whats).count
  rw [hlast, Object.holds_stream, Object.holds_stream, hst, hclosed] at hcount
  have hran : ran.tally = ses.tally.addAll _ := congrArg Session.tally (run_uses hname whats)
  simp only [Traced.count] at hcount
  rw [hran, Tally.opened_addAll, Tally.closed_addAll]
  omega

/-- A stream tells of one failure at most over all that it is used for. Once it has told of one it
is disposed, and every cursor that it opened is closed. Whatever a disposed stream is used for
after that, starting over included, nothing comes of it, and neither does anything of pulling at a
stream that has found the end of its rows, until it starts over or is disposed. -/
theorem failure_then_silence (M : Model) (ses : Session) (name : String) (s : Statement)
    (onMismatch : OnMismatch) (past later : List Action) :
    let made := (ses.step (.make name (.stream M s onMismatch))).2
    let ran := made.run (Command.uses name past)
    ∃ st : RecordStream M, ran.2.objects.get? name = some (.stream M st) ∧
      (ran.1.map fun o => o.reply.failures).sum ≤ 1 ∧
      ((∃ o ∈ ran.1, 0 < o.reply.failures) → st.phase = .disposed ∧
        ran.2.tally.opened + made.tally.closed = ran.2.tally.closed + made.tally.opened) ∧
      (st.phase = .disposed → ran.2.Idles (Command.uses name later)) ∧
      (st.phase = .exhausted → (∀ what ∈ later, what ≠ .reset ∧ what ≠ .dispose) →
        ran.2.Idles (Command.uses name later)) := by
  intro made ran
  let fresh : RecordStream M := .unread ses.source s onMismatch
  have hmade : made.objects.get? name = some (.stream M fresh) :=
    get?_step_make_stream ses name s onMismatch
  obtain ⟨progress, hlast⟩ := Object.exists_progress_useAll made.source fresh past
  have hname : ran.2.objects.get? name =
      some (.stream M { fresh with progress := progress }) :=
    (get?_run_uses hmade past).trans (congrArg some hlast)
  obtain ⟨hone, hdisposed⟩ := failures_run_uses hmade past
  refine ⟨{ fresh with progress := progress }, hname, hone, ?_, ?_, ?_⟩
  · rintro ⟨o, ho, hfailure⟩
    have hpos : 0 < (ran.1.map fun o => o.reply.failures).sum :=
      List.sum_pos_iff_exists_pos_nat.2 ⟨_, List.mem_map_of_mem ho, hfailure⟩
    have hphase : Progress.phase progress = .disposed := by
      have := hdisposed hpos
      rw [hname] at this
      exact Option.some.inj this
    -- Neither the new stream nor the disposed one holds a cursor.
    have hclosed : RecordStream.isReading { fresh with progress := progress } = false := by
      rw [RecordStream.isReading, RecordStream.phase, hphase]
      rfl
    exact ⟨hphase, opened_run_uses hmade rfl hlast hclosed⟩
  · intro hphase
    exact idles_uses hname later fun _ _ => .inl hphase
  · intro hphase hlater
    exact idles_uses hname later fun what hwhat => .inr ⟨hphase, hlater what hwhat⟩

end Session

end Recordset
