import Recordset.Proofs.StreamLog

/-!
# An object in use

A session uses one object again and again. What it answers and what it counts depends on the object
and the source alone, so a run of uses in a session is the object's own run (`Session.run_uses`),
and a stream stays a stream of the same statement, record type and policy through all of it
(`Object.exists_progress_useAll`).
-/

set_option autoImplicit false

namespace Recordset

namespace NameMap

variable {α : Type}

theorem insert_of_get? {m : NameMap α} {name : String} {x : α} (h : m.get? name = some x) :
    m.insert name x = m := by
  apply ext_get?
  intro k
  rw [get?_insert]
  split
  · rename_i hk
    rw [hk, h]
  · rfl

theorem insert_insert (m : NameMap α) (name : String) (x y : α) :
    (m.insert name x).insert name y = m.insert name y := by
  apply ext_get?
  intro k
  simp only [get?_insert]
  split <;> rfl

end NameMap

theorem Traced.bind_assoc {α β γ : Type} (t : Traced α) (f : α → Traced β) (g : β → Traced γ) :
    t >>= f >>= g = t >>= fun x => f x >>= g := by
  have hevents := List.append_assoc t.events (f t.value).events (g (f t.value).value).events
  exact congrArg (Traced.mk _) hevents

/-- How an advance is told of. -/
def Reply.ofAdvance : Except Failure Bool → Reply
  | .ok found => .advanced found
  | .error e => .failed e

/-- How the collecting of records is told of. -/
def Reply.ofCollect (M : Model) : Except Failure (List M.Record) → Reply
  | .ok rs => .records M rs
  | .error e => .failed e

namespace RecordStream

variable {M : Model}

/-- What asking for the next item can do, beside what an advance does in its place. -/
inductive Asked (st : RecordStream M) : Prop where
  | found (r : M.Record) (rest : Feed)
      (advanced : st.advance.value = (.ok true, { st with progress := .reading rest (some r) }))
      (value : st.next.value = (some (.ok r), { st with progress := .reading rest none }))
  /-- It finds the end, or the end was found before. -/
  | ended (p : Progress M) (closed : p = .exhausted ∨ p = .disposed)
      (advanced : st.advance.value = (.ok false, { st with progress := p }))
      (value : st.next.value = (none, { st with progress := p }))
  | failed (e : Failure)
      (advanced : st.advance.value = (.error e, { st with progress := .disposed }))
      (value : st.next.value = (some (.error e), { st with progress := .disposed }))

theorem asked (st : RecordStream M) : st.Asked := by
  cases st.advanced_advance 0 with
  | found r rest value ahead =>
    refine .found r rest value ?_
    rw [next, Traced.value_bind, value]
    rfl
  | ended p closed value ahead =>
    refine .ended p closed value ?_
    rw [next, Traced.value_bind, value]
    rfl
  | failed e value ahead =>
    refine .failed e value ?_
    rw [next, Traced.value_bind, value]
    rfl

end RecordStream

namespace Object

variable {M : Model}

theorem useStream_advance (st : RecordStream M) :
    useStream M st .advance = do
      let (found, moved) ← st.advance
      return (.ofAdvance found, stream M moved) := by
  refine congrArg (st.advance >>= ·) (funext ?_)
  rintro ⟨found, moved⟩
  cases found <;> rfl

theorem useStream_collect (st : RecordStream M) :
    useStream M st .collect = do
      let (records, moved) ← st.collect
      return (.ofCollect M records, stream M moved) := by
  refine congrArg (st.collect >>= ·) (funext ?_)
  rintro ⟨records, moved⟩
  cases records <;> rfl

theorem exists_progress_useAll (src : Source) (st : RecordStream M) (whats : List Action) :
    ∃ progress, ((stream M st).useAll src whats).value =
      stream M { st with progress := progress } := by
  induction whats generalizing st with
  | nil => exact ⟨st.progress, rfl⟩
  | cons what rest ih =>
    obtain ⟨progress, hmoved, -⟩ := logged_useStream st what
    have huse : ((stream M st).use src what).value.2 =
        stream M { st with progress := progress } := hmoved
    rw [useAll_cons, Traced.value_bind, huse]
    exact ih { st with progress := progress }

/-- The last use is made of the object that the uses before it leave. -/
theorem useAll_concat (src : Source) (o : Object) (whats : List Action) (what : Action) :
    o.useAll src (whats ++ [what]) = do
      let used ← o.useAll src whats
      let (_, moved) ← used.use src what
      return moved := by
  induction whats generalizing o with
  | nil => rfl
  | cons first rest ih =>
    rw [List.cons_append, useAll_cons, useAll_cons, Traced.bind_assoc]
    simp only [ih]

end Object

/-- The commands that use an object for one thing after another. -/
def Command.uses (name : String) (whats : List Action) : List Command := whats.map (.use name)

namespace Session

variable {ses : Session} {name : String} {o : Object}

theorem step_use (h : ses.objects.get? name = some o) (what : Action) :
    ses.step (.use name what) =
      (⟨(o.use ses.source what).value.1, ses.tally.addAll (o.use ses.source what).events,
          (o.use ses.source what).records ses.known⟩,
        ⟨ses.source, ses.objects.insert name (o.use ses.source what).value.2,
          ses.tally.addAll (o.use ses.source what).events,
          ses.known ++ (o.use ses.source what).lookedUp⟩) := by
  simp only [step, answer, h, Traced.records, Traced.lookedUp, Traced.value_bind,
    Traced.events_bind, Traced.allRecords_bind, Traced.value_pure, Traced.events_pure,
    Traced.allRecords_pure, List.append_nil]

/-- A session in which an object was used has the object as its uses leave it, and has counted what
they brought about. -/
theorem run_uses (h : ses.objects.get? name = some o) (whats : List Action) :
    (ses.run (Command.uses name whats)).2 =
      ⟨ses.source, ses.objects.insert name (o.useAll ses.source whats).value,
        ses.tally.addAll (o.useAll ses.source whats).events,
        ses.known ++ (o.useAll ses.source whats).lookedUp⟩ := by
  induction whats generalizing ses o with
  | nil =>
    show ses = ⟨ses.source, ses.objects.insert name o, ses.tally, ses.known ++ []⟩
    rw [NameMap.insert_of_get? h, List.append_nil]
  | cons what rest ih =>
    show ((ses.step (.use name what)).2.run (Command.uses name rest)).2 = _
    rw [step_use h, ih (o := (o.use ses.source what).value.2) (by simp)]
    simp only [NameMap.insert_insert, Object.useAll_cons, Traced.value_bind, Traced.events_bind,
      Tally.addAll_append, Traced.lookedUp, Traced.allRecords_bind, List.filterMap_append,
      List.append_assoc]

theorem get?_run_uses (h : ses.objects.get? name = some o) (whats : List Action) :
    (ses.run (Command.uses name whats)).2.objects.get? name =
      some (o.useAll ses.source whats).value := by
  rw [run_uses h, NameMap.get?_insert, if_pos rfl]

end Session

end Recordset
