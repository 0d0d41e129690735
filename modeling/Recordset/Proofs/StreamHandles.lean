import Recordset.HandledStream
import Recordset.Proofs.StreamReplay

/-!
# Streams and their handles

The cursors, readers and streams of a session have merged into one value what is kept in several
fields: the rows of a cursor and its flag, the flags of a handle and of its cursor, the state of a
stream and its record at hand. Each `StandsFor` below lists the fields that stand for a merged
value, and there are no others: a handle and its cursor are open or closed together, the handle of
a reading stream is open, and only a reading stream has a record at hand. Whatever is done to the
fields matches what is done to the merged value and leads to fields that stand for what it leads to.
So it does in every run (`Session.run_kept`), for all three; `tell_handled` is the top theorem and
says what that means for a stream.
-/

set_option autoImplicit false

namespace Recordset

namespace Traced

variable {α β γ δ : Type}

theorem pure_bind (x : α) (f : α → Traced β) : pure x >>= f = f x := rfl

/-- Two computations bring the same about, and what they come to is related. -/
structure Matches (R : α → β → Prop) (t : Traced α) (u : Traced β) : Prop where
  value : R t.value u.value
  events : t.events = u.events

theorem matches_pure {R : α → β → Prop} {x : α} {y : β} (h : R x y) :
    Matches R (pure x) (pure y) := ⟨h, rfl⟩

/-- What follows matching computations matches if it does so for all related values. -/
theorem Matches.bind {R : α → β → Prop} {S : γ → δ → Prop} {t : Traced α} {u : Traced β}
    {f : α → Traced γ} {g : β → Traced δ} (h : Matches R t u)
    (hrest : ∀ x y, R x y → Matches S (f x) (g y)) : Matches S (t >>= f) (u >>= g) where
  value := (hrest t.value u.value h.value).value
  events := by
    rw [events_bind, events_bind, h.events, (hrest t.value u.value h.value).events]

theorem matches_after {S : γ → δ → Prop} (t : Traced α) {f : α → Traced γ} {g : α → Traced δ}
    (h : Matches S (f t.value) (g t.value)) : Matches S (t >>= f) (t >>= g) where
  value := h.value
  events := by rw [events_bind, events_bind, h.events]

end Traced

open Traced (Matches matches_pure matches_after)

/-- Two results are the same failure, or successes that are related. -/
inductive Results {ε α β : Type} (R : α → β → Prop) : Except ε α → Except ε β → Prop where
  | ok {x : α} {y : β} (h : R x y) : Results R (.ok x) (.ok y)
  | error (e : ε) : Results R (.error e) (.error e)

/-! ## Runs -/

/-- How something is kept that stands for objects of a session. -/
structure Keeping (α : Type) where
  use : α → Action → Traced (Reply × α)
  drop : α → Traced Unit
  StandsFor : α → Object → Prop

namespace Keeping

variable {α : Type}

/-- What is kept is used and let go of like the objects that it stands for. -/
structure Sound (K : Keeping α) : Prop where
  use : ∀ x o, K.StandsFor x o → ∀ (src : Source) (what : Action),
    Matches (fun a b => a.1 = b.1 ∧ K.StandsFor a.2 b.2) (K.use x what) (o.use src what)
  drop : ∀ x o, K.StandsFor x o → (K.drop x).events = o.drop.events

/-- What is told of something that is used for one thing after another, from a count on, in a
process that knows some types. -/
def tell (K : Keeping α) (x : α) (known : List Nat) (t : Tally) :
    List Action → List Session.Outcome
  | [] => []
  | what :: rest =>
    let used := K.use x what
    let t' := t.addAll used.events
    ⟨used.value.1, t', used.records known⟩ ::
      K.tell used.value.2 (known ++ used.lookedUp) t' rest

/-- What is left of something after its uses. -/
def after (K : Keeping α) (x : α) : List Action → α
  | [] => x
  | what :: rest => K.after (K.use x what).value.2 rest

variable {K : Keeping α} {x : α} {o : Object}

theorem Sound.tell_eq (hK : K.Sound) (h : K.StandsFor x o) (src : Source) (known : List Nat)
    (t : Tally) (whats : List Action) : K.tell x known t whats = o.tell src known t whats := by
  induction whats generalizing x o known t with
  | nil => rfl
  | cons what rest ih =>
    obtain ⟨⟨hreply, hmoved⟩, hevents⟩ := hK.use x o h src what
    have hrecords : (K.use x what).records known = (o.use src what).records known := by
      simp only [Traced.records, Traced.allRecords, hevents]
    have hlookedUp : (K.use x what).lookedUp = (o.use src what).lookedUp := by
      simp only [Traced.lookedUp, Traced.allRecords, hevents]
    simp only [tell, Object.tell, hreply, hevents, hrecords, hlookedUp, ih hmoved]

theorem Sound.standsFor_after (hK : K.Sound) (h : K.StandsFor x o) (src : Source)
    (whats : List Action) : K.StandsFor (K.after x whats) (o.useAll src whats).value := by
  induction whats generalizing x o with
  | nil => exact h
  | cons what rest ih =>
    rw [Object.useAll_cons, Traced.value_bind]
    exact ih (hK.use x o h src what).value.2

end Keeping

/-- A session tells of an object what is told of the fields that stand for it, whatever the object
is used for, and fields that stand for it are left. Letting go of the object closes what letting go
of the fields does. -/
theorem Session.run_kept {α : Type} {K : Keeping α} (hK : K.Sound) {ses : Session} {name : String}
    {x : α} {o : Object} (hname : ses.objects.get? name = some o) (h : K.StandsFor x o)
    (whats : List Action) :
    let used := ses.run (Command.uses name whats)
    used.1 = K.tell x ses.known ses.tally whats ∧
      (∃ last, used.2.objects.get? name = some last ∧ K.StandsFor (K.after x whats) last) ∧
      (used.2.step (.drop name)).2.tally =
        used.2.tally.addAll (K.drop (K.after x whats)).events := by
  intro used
  have hlast := get?_run_uses hname whats
  have hafter := hK.standsFor_after h ses.source whats
  refine ⟨?_, ⟨_, hlast, hafter⟩, ?_⟩
  · rw [hK.tell_eq h ses.source]
    exact run_uses_eq_tell hname whats
  · rw [hK.drop _ _ hafter]
    simp only [step, answer, used, hlast, Traced.events_bind, Traced.events_pure, List.append_nil]

/-! ## Cursors -/

namespace FlaggedCursor

inductive StandsFor : FlaggedCursor → Cursor → Prop where
  | live (feed : Feed) : StandsFor ⟨feed, false⟩ (.live feed)
  | closed (feed : Feed) : StandsFor ⟨feed, true⟩ .closed

theorem matches_create (src : Source) (s : Statement) :
    Matches (Results StandsFor) (create src s) (Cursor.create src s) := by
  apply matches_after
  cases (src.openFeed s).value with
  | ok feed => exact matches_pure (.ok (.live feed))
  | error message => exact matches_pure (.error message)

theorem matches_next {c : FlaggedCursor} {c' : Cursor} (h : c.StandsFor c') :
    Matches (fun x y => x.1 = y.1 ∧ x.2.StandsFor y.2) c.next c'.next := by
  cases h with
  | live feed => exact matches_after feed.read ⟨⟨rfl, .live feed.read.value.2⟩, rfl⟩
  | closed feed => exact ⟨⟨rfl, .closed feed⟩, rfl⟩

theorem matches_close {c : FlaggedCursor} {c' : Cursor} (h : c.StandsFor c') :
    Matches StandsFor c.close c'.close := by
  cases h with
  | live feed => exact ⟨.closed feed, rfl⟩
  | closed feed => exact ⟨.closed feed, rfl⟩

def keeping : Keeping FlaggedCursor where
  use := use
  drop := drop
  StandsFor c o := ∃ c', o = .cursor c' ∧ c.StandsFor c'

theorem sound : keeping.Sound where
  use := by
    rintro c o ⟨c', rfl, h⟩ src what
    cases what with
    | cursorNext =>
      apply (matches_next h).bind
      rintro ⟨row, moved⟩ ⟨-, moved'⟩ ⟨rfl, hmoved⟩
      cases row <;> exact matches_pure ⟨rfl, moved', rfl, hmoved⟩
    | cursorClose =>
      apply (matches_close h).bind
      intro moved moved' hmoved
      exact matches_pure ⟨rfl, moved', rfl, hmoved⟩
    | _ => exact matches_pure ⟨rfl, c', rfl, h⟩
  drop := by
    rintro c o ⟨c', rfl, h⟩
    rfl

end FlaggedCursor

/-! ## Handles -/

namespace Handle

inductive StandsFor : Handle → Reader → Prop where
  | live (s : Statement) (feed : Feed) : StandsFor ⟨s, ⟨feed, false⟩, false⟩ ⟨s, .live feed⟩
  | closed (s : Statement) (feed : Feed) : StandsFor ⟨s, ⟨feed, true⟩, true⟩ ⟨s, .closed⟩

theorem matches_create (src : Source) (s : Statement) :
    Matches (Results StandsFor) (create src s) (Reader.create src s) := by
  unfold create FlaggedCursor.create Reader.create Statement.acquire
  rw [Traced.bind_assoc, Traced.bind_assoc]
  apply matches_after
  cases (src.openFeed s).value with
  | ok feed => exact ⟨.ok (.live s feed), rfl⟩
  | error message => exact ⟨.error _, rfl⟩

theorem matches_read {h : Handle} {r : Reader} (hfor : h.StandsFor r) :
    Matches (fun x y => x.1 = y.1 ∧ x.2.StandsFor y.2) h.read r.read := by
  cases hfor with
  | live s feed =>
    refine ⟨⟨rfl, .live s feed.read.value.2⟩, ?_⟩
    cases feed <;> rfl
  | closed s feed => exact ⟨⟨rfl, .closed s feed⟩, rfl⟩

theorem matches_close {h : Handle} {r : Reader} (hfor : h.StandsFor r) :
    Matches StandsFor h.close r.close := by
  cases hfor with
  | live s feed => exact ⟨.closed s feed, rfl⟩
  | closed s feed => exact ⟨.closed s feed, rfl⟩

/-- The flag of a handle and that of its cursor are one and the same. -/
theorem StandsFor.isClosed_eq {h : Handle} {r : Reader} (hfor : h.StandsFor r) :
    h.isClosed = r.isClosed ∧ h.cursor.isClosed = r.isClosed := by
  cases hfor <;> exact ⟨rfl, rfl⟩

def keeping : Keeping Handle where
  use := use
  drop := drop
  StandsFor h o := ∃ r, o = .reader r ∧ h.StandsFor r

theorem sound : keeping.Sound where
  use := by
    rintro h o ⟨r, rfl, hfor⟩ src what
    cases what with
    | readerRead =>
      apply (matches_read hfor).bind
      rintro ⟨row, moved⟩ ⟨-, moved'⟩ ⟨rfl, hmoved⟩
      cases row <;> exact matches_pure ⟨rfl, moved', rfl, hmoved⟩
    | readerClose =>
      apply (matches_close hfor).bind
      intro moved moved' hmoved
      exact matches_pure ⟨rfl, moved', rfl, hmoved⟩
    | readerIsClosed =>
      exact matches_pure ⟨by rw [hfor.isClosed_eq.1], r, rfl, hfor⟩
    | readerStatement =>
      have hstatement : h.statement = r.statement := by cases hfor <;> rfl
      exact matches_pure ⟨by rw [hstatement], r, rfl, hfor⟩
    | _ => exact matches_pure ⟨rfl, r, rfl, hfor⟩
  drop := by
    rintro h o ⟨r, rfl, hfor⟩
    cases hfor <;> rfl

end Handle

/-- A stream that leaves the rows of a cursor closes a reader on them twice, and the second time
does nothing. -/
theorem RecordStream.moveTo_of_reading {M : Model} (src : Source) (s : Statement)
    (onMismatch : OnMismatch) (feed : Feed) (current : Option M.Record) (next : Progress M) :
    (⟨src, s, onMismatch, .reading feed current⟩ : RecordStream M).moveTo next = do
      Traced.log (.moved s .reading next.phase)
      let closed ← (⟨s, .live feed⟩ : Reader).close
      let _ ← closed.close
      return ⟨src, s, onMismatch, next⟩ := rfl

/-! ## Streams -/

namespace HandledStream

variable {M : Model}

inductive StandsFor : HandledStream M → RecordStream M → Prop where
  | idle (src : Source) (s : Statement) (onMismatch : OnMismatch) :
    StandsFor ⟨src, s, onMismatch, .idle, none⟩ ⟨src, s, onMismatch, .idle⟩
  | reading (src : Source) (s : Statement) (onMismatch : OnMismatch) (feed : Feed)
      (current : Option M.Record) :
    StandsFor ⟨src, s, onMismatch, .reading ⟨s, ⟨feed, false⟩, false⟩, current⟩
      ⟨src, s, onMismatch, .reading feed current⟩
  | exhausted (src : Source) (s : Statement) (onMismatch : OnMismatch) :
    StandsFor ⟨src, s, onMismatch, .exhausted, none⟩ ⟨src, s, onMismatch, .exhausted⟩
  | disposed (src : Source) (s : Statement) (onMismatch : OnMismatch) :
    StandsFor ⟨src, s, onMismatch, .disposed, none⟩ ⟨src, s, onMismatch, .disposed⟩

/-- Two streams are left with the same answer, and one stands for the other. -/
def Answers {α : Type} (x : α × HandledStream M) (y : α × RecordStream M) : Prop :=
  x.1 = y.1 ∧ x.2.StandsFor y.2

/-- Turn after turn, a search reads the rows that seeking through the feed reads. It clears no
record, so the record must have been cleared before. -/
theorem matches_search (src : Source) (s : Statement) (onMismatch : OnMismatch) (old feed : Feed)
    (current : Option M.Record) {n : Nat} (h : feed.size < n) :
    Matches Answers
      (search n (⟨src, s, onMismatch, .reading ⟨s, ⟨feed, false⟩, false⟩, none⟩ : HandledStream M))
      (RecordStream.advanceOn ⟨src, s, onMismatch, .reading old current⟩ feed) := by
  induction feed generalizing n with
  | finished =>
    obtain _ | n := n
    · cases h
    · exact ⟨⟨rfl, .exhausted src s onMismatch⟩, rfl⟩
  | failing message =>
    obtain _ | n := n
    · cases h
    · exact ⟨⟨rfl, .disposed src s onMismatch⟩, rfl⟩
  | row row rest ih =>
    obtain _ | n := n
    · cases h
    · have hrest := ih (n := n) (Nat.lt_of_succ_lt_succ h)
      simp only [search, turn, Handle.read, FlaggedCursor.next, Feed.read, Except.mapError,
        RecordStream.advanceOn, RecordStream.seek, Bool.false_eq_true, if_false, Traced.bind_assoc,
        Traced.pure_bind]
      apply matches_after
      cases hdecode : M.mapping.decode row with
      | ok r => exact ⟨⟨rfl, .reading src s onMismatch rest (some r)⟩, rfl⟩
      | error e =>
        cases onMismatch with
        | fail => exact ⟨⟨rfl, .disposed src s .fail⟩, rfl⟩
        | skipRow =>
          simp only [Traced.bind_assoc, Traced.pure_bind]
          exact matches_after (Traced.log (.skipped s e)) hrest

variable {st : HandledStream M} {st' : RecordStream M}

theorem matches_advance (h : st.StandsFor st') : Matches Answers st.advance st'.advance := by
  cases h with
  | idle src s onMismatch =>
    simp only [advance, Handle.create, FlaggedCursor.create, RecordStream.advance,
      Statement.acquire, Traced.bind_assoc]
    apply matches_after
    cases (src.openFeed s).value with
    | error message => exact ⟨⟨rfl, .disposed src s onMismatch⟩, rfl⟩
    | ok feed =>
      have hsearch := matches_search (M := M) src s onMismatch feed feed none
        (Nat.lt_succ_self feed.size)
      simp only [transition, RecordStream.moveTo, Traced.bind_assoc, Traced.pure_bind]
      apply matches_after
      apply matches_after
      exact hsearch
  | reading src s onMismatch feed current =>
    exact matches_search src s onMismatch feed feed current (Nat.lt_succ_self feed.size)
  | exhausted src s onMismatch => exact ⟨⟨rfl, .exhausted src s onMismatch⟩, rfl⟩
  | disposed src s onMismatch => exact ⟨⟨rfl, .disposed src s onMismatch⟩, rfl⟩

theorem answers_takeCurrent (h : st.StandsFor st') : Answers st.takeCurrent st'.takeCurrent := by
  cases h with
  | idle src s onMismatch => exact ⟨rfl, .idle src s onMismatch⟩
  | reading src s onMismatch feed current => exact ⟨rfl, .reading src s onMismatch feed none⟩
  | exhausted src s onMismatch => exact ⟨rfl, .exhausted src s onMismatch⟩
  | disposed src s onMismatch => exact ⟨rfl, .disposed src s onMismatch⟩

theorem matches_next (h : st.StandsFor st') : Matches Answers st.next st'.next := by
  apply (matches_advance h).bind
  rintro ⟨found, moved⟩ ⟨-, moved'⟩ ⟨rfl, hmoved⟩
  cases found with
  | error e => exact matches_pure ⟨rfl, hmoved⟩
  | ok found =>
    cases found with
    | false => exact matches_pure ⟨rfl, hmoved⟩
    | true =>
      obtain ⟨hcurrent, hcleared⟩ := answers_takeCurrent hmoved
      exact matches_pure ⟨congrArg (Option.map Except.ok) hcurrent, hcleared⟩

theorem matches_take (n : Nat) (h : st.StandsFor st') :
    Matches Answers (st.take n) (st'.take n) := by
  induction n generalizing st st' with
  | zero => exact matches_pure ⟨rfl, h⟩
  | succ n ih =>
    apply (matches_next h).bind
    rintro ⟨item, moved⟩ ⟨-, moved'⟩ ⟨rfl, hmoved⟩
    cases item with
    | none => exact matches_pure ⟨rfl, hmoved⟩
    | some x =>
      apply (ih hmoved).bind
      rintro ⟨rest, final⟩ ⟨-, final'⟩ ⟨rfl, hfinal⟩
      exact matches_pure ⟨rfl, hfinal⟩

theorem StandsFor.supply_eq (h : st.StandsFor st') : st.supply = st'.supply := by
  cases h <;> rfl

theorem matches_drain (h : st.StandsFor st') :
    Matches Answers (st.take (st.supply + 1)) st'.drain := by
  rw [h.supply_eq]
  exact matches_take (st'.supply + 1) h

theorem matches_reset (h : st.StandsFor st') : Matches StandsFor st.reset st'.reset := by
  cases h with
  | disposed src s onMismatch => exact ⟨.disposed src s onMismatch, rfl⟩
  | idle src s onMismatch => exact ⟨.idle src s onMismatch, rfl⟩
  | reading src s onMismatch feed current => exact ⟨.idle src s onMismatch, rfl⟩
  | exhausted src s onMismatch => exact ⟨.idle src s onMismatch, rfl⟩

theorem matches_dispose (h : st.StandsFor st') : Matches StandsFor st.dispose st'.dispose := by
  cases h with
  | disposed src s onMismatch => exact ⟨.disposed src s onMismatch, rfl⟩
  | idle src s onMismatch => exact ⟨.disposed src s onMismatch, rfl⟩
  | reading src s onMismatch feed current => exact ⟨.disposed src s onMismatch, rfl⟩
  | exhausted src s onMismatch => exact ⟨.disposed src s onMismatch, rfl⟩

def keeping (M : Model) : Keeping (HandledStream M) where
  use := use
  drop := drop
  StandsFor st o := ∃ st', o = .stream M st' ∧ st.StandsFor st'

theorem sound (M : Model) : (keeping M).Sound where
  use := by
    rintro st o ⟨st', rfl, h⟩ src what
    cases what with
    | advance =>
      apply (matches_advance h).bind
      rintro ⟨found, moved⟩ ⟨-, moved'⟩ ⟨rfl, hmoved⟩
      cases found <;> exact matches_pure ⟨rfl, moved', rfl, hmoved⟩
    | current =>
      have hcurrent : st.current = st'.current := by cases h <;> rfl
      exact matches_pure ⟨by rw [hcurrent], st', rfl, h⟩
    | takeCurrent =>
      obtain ⟨hcurrent, hcleared⟩ := answers_takeCurrent h
      exact matches_pure ⟨by rw [hcurrent], st'.takeCurrent.2, rfl, hcleared⟩
    | next =>
      apply (matches_next h).bind
      rintro ⟨item, moved⟩ ⟨-, moved'⟩ ⟨rfl, hmoved⟩
      exact matches_pure ⟨rfl, moved', rfl, hmoved⟩
    | take n =>
      apply (matches_take n h).bind
      rintro ⟨items, moved⟩ ⟨-, moved'⟩ ⟨rfl, hmoved⟩
      exact matches_pure ⟨rfl, moved', rfl, hmoved⟩
    | drain =>
      apply (matches_drain h).bind
      rintro ⟨items, moved⟩ ⟨-, moved'⟩ ⟨rfl, hmoved⟩
      exact matches_pure ⟨rfl, moved', rfl, hmoved⟩
    | collect =>
      show Matches _ _ (Object.useStream M st' .collect)
      simp only [Object.useStream, RecordStream.collect, Traced.bind_assoc, Traced.pure_bind]
      apply (matches_drain h).bind
      rintro ⟨items, moved⟩ ⟨-, moved'⟩ ⟨rfl, hmoved⟩
      cases hgather : RecordStream.gather items <;>
        simp only [hgather] <;> exact matches_pure ⟨rfl, moved', rfl, hmoved⟩
    | phase =>
      have hphase : st.state.phase = st'.phase := by cases h <;> rfl
      exact matches_pure ⟨by rw [hphase], st', rfl, h⟩
    | streamStatement =>
      have hstatement : st.statement = st'.statement := by cases h <;> rfl
      exact matches_pure ⟨by rw [hstatement], st', rfl, h⟩
    | reset =>
      apply (matches_reset h).bind
      intro moved moved' hmoved
      exact matches_pure ⟨rfl, moved', rfl, hmoved⟩
    | dispose =>
      apply (matches_dispose h).bind
      intro moved moved' hmoved
      exact matches_pure ⟨rfl, moved', rfl, hmoved⟩
    | _ => exact matches_pure ⟨rfl, st', rfl, h⟩
  drop := by
    rintro st o ⟨st', rfl, h⟩
    cases h <;> rfl

/-- A record is at hand only while the handle of an open cursor is. -/
theorem StandsFor.exists_handle (h : st.StandsFor st') (hcurrent : st.current.isSome) :
    ∃ handle, st.state = .reading handle ∧ handle.isClosed = false ∧
      handle.cursor.isClosed = false := by
  cases h with
  | reading src s onMismatch feed current => exact ⟨_, rfl, rfl, rfl⟩
  | idle _ _ _ | exhausted _ _ _ | disposed _ _ _ => cases hcurrent

end HandledStream

namespace Session

variable {M : Model}

/-- A session tells of a stream that it makes what is told of the stream with a handle, a record and
flags of their own, whatever the stream is used for. The record is then at hand only while the
handle and its cursor are open, and letting go of the stream closes what is left to close. -/
theorem tell_handled (ses : Session) (name : String) (s : Statement) (onMismatch : OnMismatch)
    (whats : List Action) :
    let made := (ses.step (.make name (.stream M s onMismatch))).2
    let used := made.run (Command.uses name whats)
    let st : HandledStream M := .unread ses.source s onMismatch
    let last := (HandledStream.keeping M).after st whats
    used.1 = (HandledStream.keeping M).tell st made.known made.tally whats ∧
      (last.current.isSome → ∃ handle, last.state = .reading handle ∧
        handle.isClosed = false ∧ handle.cursor.isClosed = false) ∧
      (used.2.step (.drop name)).2.tally = used.2.tally.addAll last.drop.events := by
  intro made used st last
  have hstart : (HandledStream.keeping M).StandsFor st
      (.stream M (.unread ses.source s onMismatch)) := ⟨_, rfl, .idle ses.source s onMismatch⟩
  have hmade := get?_step_make_stream (M := M) ses name s onMismatch
  obtain ⟨htold, ⟨o, -, st', -, hlast⟩, hdropped⟩ :=
    run_kept (HandledStream.sound M) hmade hstart whats
  exact ⟨htold, hlast.exists_handle, hdropped⟩

end Session

end Recordset
