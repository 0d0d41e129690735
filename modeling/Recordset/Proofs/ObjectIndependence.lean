import Recordset.Proofs.ObjectHistory
import Recordset.Proofs.TallySums
import Recordset.Proofs.TypeDescriptions
import Recordset.Record.Catalog

/-!
# Objects that share a source do not disturb each other

An answer depends on no object but the one that the command is about and, for a making, the one
behind it, so an object lives in a session as it lives in the one that is left when all is deleted
that has nothing to do with the object. `Faithful` says that the steps that are left answer as they
did, and `Apart` that they do so for every object at once; each command keeps it (`Apart.next`), and
so does a run.

`objects_independent` is the top theorem. The counts of the session are the sums of those of the
sessions that are left for its objects, since every event is brought about by a step on one object
(`Step.interleaves_own`), and so are those after everything has been dropped in the end, since what
is kept for an object drops that object alone (`Apart.drops_replay`).
-/

set_option autoImplicit false

namespace Recordset

/-! ## Running what is kept of a run -/

namespace Session

@[simp] theorem source_run (S : Session) (cmds : List Command) :
    (S.run cmds).2.source = S.source := by
  induction cmds generalizing S with
  | nil => rfl
  | cons c rest ih => exact ih (S.step c).2

theorem run_concat (S : Session) (cmds : List Command) (c : Command) :
    S.run (cmds ++ [c]) =
      ((S.run cmds).1 ++ [((S.run cmds).2.step c).1], ((S.run cmds).2.step c).2) := by
  induction cmds generalizing S with
  | nil => rfl
  | cons d rest ih =>
    have hrest := ih (S.step d).2
    simp only [List.cons_append, run, hrest]

theorem run_take (S : Session) (cmds : List Command) (n : Nat) :
    (S.run (cmds.take n)).1 = (S.run cmds).1.take n := by
  induction cmds generalizing S n with
  | nil => simp [run]
  | cons c rest ih =>
    cases n with
    | zero => rfl
    | succ n => exact congrArg ((S.step c).1 :: ·) (ih (S.step c).2 n)

/-- The record types that are known after a run are those known before and those that its log
describes, by induction on the commands. -/
theorem mem_known_run (S : Session) (cmds : List Command) (key : Nat) :
    key ∈ (S.run cmds).2.known ↔
      key ∈ S.known ∨
        key ∈ ((S.run cmds).1.flatMap Outcome.records).filterMap LogRecord.key? := by
  induction cmds generalizing S with
  | nil => simp [run]
  | cons c rest ih =>
    have hstep : key ∈ (S.step c).2.known ↔
        key ∈ S.known ∨ key ∈ (S.step c).1.records.filterMap LogRecord.key? :=
      LogRecord.mem_known_iff
    have hrest := ih (S.step c).2
    simp only [run, List.flatMap_cons, List.filterMap_append, List.mem_append, hrest, hstep,
      or_assoc]

end Session

open Session (Outcome)

/-- The session in which nothing but the commands of some steps is run. -/
def Step.replay (known : List Nat) (src : Source) (kept : List Step) : List Outcome × Session :=
  (Session.startKnowing known src).run (kept.map Step.command)

/-- A step answers as the outcome does: the reply is the same, and so are the log records, but for
the descriptions of types that are known before the step. -/
def Step.AnswersAs (s : Step) (o : Outcome) : Prop :=
  s.outcome.reply = o.reply ∧
    s.outcome.records = o.records.filter fun r => !r.key?.any fun key => key ∈ s.known

theorem Step.replay_concat (known : List Nat) (src : Source) (kept : List Step) (s : Step) :
    Step.replay known src (kept ++ [s]) =
      ((Step.replay known src kept).1 ++ [((Step.replay known src kept).2.step s.command).1],
        ((Step.replay known src kept).2.step s.command).2) := by
  rw [Step.replay, List.map_append, List.map_singleton, Session.run_concat]
  rfl

theorem Step.objects_replay_concat (known : List Nat) (src : Source) (kept : List Step) (s : Step) :
    (Step.replay known src (kept ++ [s])).2.objects =
      ((Step.replay known src kept).2.answer s.command).value.2 := by
  rw [Step.replay_concat]
  rfl

/-- The types that events describe. -/
def Event.keys (es : List Event) : List Nat :=
  (es.filterMap Event.record?).filterMap LogRecord.key?

theorem Event.keys_append (es es' : List Event) : keys (es ++ es') = keys es ++ keys es' := by
  simp only [keys, List.filterMap_append]

/-- Run alone, the steps answer as they did, and bring about these events. -/
structure Faithful (known : List Nat) (src : Source) (kept : List Step) (events : List Event) :
    Prop where
  answers : List.Forall₂ Step.AnswersAs kept (Step.replay known src kept).1
  tally : (Step.replay known src kept).2.tally = Tally.zero.addAll events
  knows : (Step.replay known src kept).2.known = known ++ Event.keys events

namespace Faithful

variable {known : List Nat} {src : Source} {kept : List Step} {events : List Event}

theorem nil (known : List Nat) (src : Source) : Faithful known src [] [] :=
  ⟨.nil, rfl, (List.append_nil known).symm⟩

/-- One more step answers as it did if the sessions answer alike and the one that is run alone knows
no type that the other does not know. -/
theorem concat (h : Faithful known src kept events) {r : Registry} {c : Command}
    (halike : Alike c.name ((Step.replay known src kept).2.answer c) (r.session.answer c))
    (hknown : ∀ key ∈ known ++ Event.keys events, key ∈ r.session.known) :
    Faithful known src (kept ++ [r.mark c]) (events ++ (r.mark c).events) := by
  let alone := (Step.replay known src kept).2
  have hrecords : (alone.answer c).allRecords = (r.session.answer c).allRecords :=
    congrArg (List.filterMap Event.record?) halike.events
  have hlast : (r.mark c).AnswersAs (alone.step c).1 := by
    refine ⟨halike.reply.symm, ?_⟩
    have hmore : ∀ key, key ∈ r.session.known ↔ key ∈ alone.known ∨ key ∈ r.session.known := by
      intro key
      refine ⟨.inr, ?_⟩
      rintro (hkey | hkey)
      · exact hknown key (h.knows ▸ hkey)
      · exact hkey
    show LogRecord.once r.session.known (r.session.answer c).allRecords = _
    rw [LogRecord.once_eq_filter hmore, ← hrecords]
    rfl
  constructor
  · rw [Step.replay_concat]
    exact List.rel_append h.answers (.cons hlast .nil)
  · rw [Step.replay_concat]
    show alone.tally.addAll (alone.answer c).events = _
    rw [h.tally, halike.events, Tally.addAll_append]
    rfl
  · rw [Step.replay_concat]
    show alone.known ++ (alone.answer c).allRecords.filterMap LogRecord.key? = _
    rw [h.knows, hrecords, Event.keys_append, List.append_assoc]
    rfl

end Faithful

/-- A step that is about no object brings nothing about, so the events of a run are those of the
steps on its objects. -/
theorem Step.interleaves_own {past : List Step}
    (h : ∀ s ∈ past, s.object = none → s.events = []) :
    Interleaves (fun k => (own past k).flatMap events) (past.flatMap events) := by
  have hparts : ∀ k, (own past k).flatMap events =
      past.flatMap fun s => if s.object.getD 0 = k then s.events else [] := by
    intro k
    induction past with
    | nil => rfl
    | cons s rest ih =>
      have hrest := ih fun t ht => h t (List.mem_cons_of_mem s ht)
      rw [List.flatMap_cons, ← hrest]
      cases hobject : s.object with
      | none => simp [own, hobject, h s List.mem_cons_self hobject]
      | some j => by_cases hj : j = k <;> simp [own, hobject, hj]
  rw [funext hparts]
  exact .flatMap past _ events

/-- A list made from the entries of a map is made from a single one if no other gives anything. -/
theorem NameMap.flatMap_entries {α β : Type} {m : NameMap α} {name : String} {x : α}
    (f : String × α → List β) (h : m.get? name = some x)
    (hf : ∀ e ∈ m.entries, e.1 ≠ name → f e = []) : m.entries.flatMap f = f (name, x) := by
  obtain ⟨es, hascending⟩ := m
  induction es with
  | nil => cases h
  | cons e rest ih =>
    have hrest := List.pairwise_cons.1 hascending
    rw [List.flatMap_cons]
    by_cases hname : name = e.1
    · have hx : e.2 = x := by simpa [get?, findEntry, hname] using h
      have hnone : rest.flatMap f = [] := by
        rw [List.flatMap_eq_nil_iff]
        intro e' he'
        apply hf e' (List.mem_cons_of_mem e he')
        intro heq
        have hlt : e.1 < e'.1 := hrest.1 e' he'
        rw [heq, hname] at hlt
        exact String.lt_irrefl _ hlt
      rw [hnone, List.append_nil, hname, ← hx]
    · have hget : (⟨rest, hrest.2⟩ : NameMap α).get? name = some x := by
        simpa [get?, findEntry, hname] using h
      rw [hf e List.mem_cons_self (Ne.symm hname), List.nil_append]
      exact ih hrest.2 hget fun e' he' => hf e' (List.mem_cons_of_mem e he')

namespace Session

/-- What comes about when every object that is left is dropped. -/
def drops (ses : Session) : List Event := (dropAll ses.objects.toList).events

theorem drops_eq (ses : Session) :
    ses.drops = ses.objects.entries.flatMap fun e => e.2.drop.events := by
  have hall : ∀ es : List (String × Object),
      (dropAll es).events = es.flatMap fun e => e.2.drop.events := by
    intro es
    induction es with
    | nil => rfl
    | cons e rest ih => rw [dropAll, Traced.events_bind, ih, List.flatMap_cons]
  exact hall ses.objects.entries

theorem finish_eq {ses : Session} {es : List Event} (h : ses.tally = Tally.zero.addAll es) :
    ses.finish = Tally.zero.addAll (es ++ ses.drops) := by
  rw [Tally.addAll_append, ← h]
  rfl

end Session

/-! ## Every object lives as it lives alone -/

/-- The making of a table or query, with the makings of those behind it, brings it about and
nothing else. -/
structure Planned (known : List Nat) (src : Source) (line : List Step) (name : String)
    (o : Object) : Prop where
  faithful : Faithful known src line []
  slot : (Step.replay known src line).2.objects.get? name = some o
  plans : ∀ x o', (Step.replay known src line).2.objects.get? x = some o' → o'.isPlan = true

/-- What is kept of a run for an object answers as it did and leaves the object as it is, with
nothing but tables and queries beside it, for all objects at once. -/
structure Apart (known : List Nat) (src : Source) (r : Registry) (past : List Step) : Prop where
  numbered : r.Numbered past
  source : r.session.source = src
  tally : r.session.tally = Tally.zero.addAll (past.flatMap Step.events)
  knows : r.session.known = known ++ Event.keys (past.flatMap Step.events)
  quiet : ∀ s ∈ past, s.object = none → s.events = []
  alone : ∀ k, Faithful known src (Step.kept past k) ((Step.own past k).flatMap Step.events)
  slot : ∀ name d o, r.descents.get? name = some d → r.session.objects.get? name = some o →
    (Step.replay known src (Step.kept past d.number)).2.objects.get? name = some o
  others : ∀ k x o, (Step.replay known src (Step.kept past k)).2.objects.get? x = some o →
    o.isPlan = true ∨ ∃ d, r.descents.get? x = some d ∧ d.number = k
  planned : ∀ name d o, r.descents.get? name = some d → r.session.objects.get? name = some o →
    o.isPlan = true → Planned known src (Step.makings past d.line) name o

namespace Apart

variable {known : List Nat} {src : Source} {r : Registry} {past : List Step}

theorem start (known : List Nat) (src : Source) :
    Apart known src (Registry.start known src) [] where
  numbered := Registry.numbered_start known src
  source := rfl
  tally := rfl
  knows := (List.append_nil known).symm
  quiet _ hs := nomatch hs
  alone _ := Faithful.nil known src
  slot _ _ _ hd := nomatch hd
  others _ _ _ ho := nomatch ho
  planned _ _ _ hd := nomatch hd

theorem exists_object (h : Apart known src r past) {name : String} {d : Descent}
    (hd : r.descents.get? name = some d) : ∃ o, r.session.objects.get? name = some o := by
  have hnamed := h.numbered.named name
  rw [hd] at hnamed
  exact Option.isSome_iff_exists.1 hnamed.symm

theorem exists_descent (h : Apart known src r past) {name : String} {o : Object}
    (ho : r.session.objects.get? name = some o) : ∃ d, r.descents.get? name = some d := by
  have hnamed := h.numbered.named name
  rw [ho] at hnamed
  exact Option.isSome_iff_exists.1 hnamed

/-- What is kept of the run for an object knows no type that the session does not know, and neither
do the makings of tables and queries. -/
theorem known_of_own (h : Apart known src r past) (k : Nat) :
    ∀ key ∈ known ++ Event.keys ((Step.own past k).flatMap Step.events),
      key ∈ r.session.known := by
  intro key hkey
  rw [h.knows]
  rcases List.mem_append.1 hkey with hbefore | hown
  · exact List.mem_append_left _ hbefore
  · apply List.mem_append_right
    simp only [Event.keys, List.mem_filterMap, List.mem_flatMap] at hown ⊢
    obtain ⟨record, ⟨e, ⟨s, hs, he⟩, hrecord⟩, hkey⟩ := hown
    exact ⟨record, ⟨e, ⟨s, (List.mem_filter.1 hs).1, he⟩, hrecord⟩, hkey⟩

theorem known_of_plans (h : Apart known src r past) :
    ∀ key ∈ known ++ Event.keys [], key ∈ r.session.known := by
  intro key hkey
  rw [h.knows]
  exact List.mem_append_left _ (by simpa [Event.keys] using hkey)

/-- The makings behind an object that is to be made bring about what it is made from. -/
theorem behind_planned (h : Apart known src r past) (how : Making) :
    let line := Step.makings past (r.behind how)
    Faithful known src line [] ∧
      (Step.replay known src line).2.SameOrigin r.session (r.session.origin? how) ∧
      ∀ x o, (Step.replay known src line).2.objects.get? x = some o → o.isPlan = true := by
  intro line
  cases horigin : r.session.origin? how with
  | none =>
    have hbehind : r.behind how = [] := by simp [Registry.behind, horigin]
    have hline : line = [] := by simp [line, hbehind, Step.makings]
    rw [hline]
    refine ⟨Faithful.nil known src, rfl, ?_⟩
    intro x o ho
    cases ho
  | some origin =>
    obtain ⟨o, ho, hplan⟩ := Session.isPlan_of_origin? horigin
    obtain ⟨d, hd⟩ := h.exists_descent ho
    have hbehind : r.behind how = d.line := by simp [Registry.behind, horigin, hd]
    have hplanned := h.planned origin d o hd ho hplan
    rw [← hbehind] at hplanned
    exact ⟨hplanned.faithful, hplanned.slot.trans ho.symm, hplanned.plans⟩

theorem source_replay (h : Apart known src r past) (kept : List Step) :
    (Step.replay known src kept).2.source = r.session.source :=
  (Session.source_run _ _).trans h.source.symm

/-- An object is made alike where only those behind it were made before. -/
theorem alike_make (h : Apart known src r past) {name : String}
    (hfree : r.session.objects.get? name = none) (how : Making) :
    Alike name
      ((Step.replay known src (Step.makings past (r.behind how))).2.answer (.make name how))
      (r.session.answer (.make name how)) := by
  obtain ⟨-, horigin, hplans⟩ := h.behind_planned how
  exact Session.alike_make (h.source_replay _) horigin hfree (hplans name)

/-- An object is used and dropped alike where nothing happened but what has to do with it. -/
theorem alike_own (h : Apart known src r past) {c : Command} (hc : c.isMaking = false) {d : Descent}
    (hd : r.descents.get? c.name = some d) :
    Alike c.name ((Step.replay known src (Step.kept past d.number)).2.answer c)
      (r.session.answer c) := by
  obtain ⟨o, ho⟩ := h.exists_object hd
  exact Session.alike_answer hc (h.source_replay _) ho (h.slot c.name d o hd ho)

/-- A command that is about no object brings nothing about. -/
theorem events_mark_of_none (h : Apart known src r past) {c : Command}
    (hobject : (r.mark c).object = none) : (r.mark c).events = [] := by
  cases c with
  | make name how => cases hobject
  | use name _ | drop name =>
    have hnone := (h.numbered.get?_eq_none_iff name).1 (Option.map_eq_none_iff.1 hobject)
    simp [Registry.mark, Session.answer, hnone]

/-- What is made after the makings behind it stands beside nothing but tables and queries. -/
theorem others_make (h : Apart known src r past) {name : String} {how : Making} {x : String}
    {o : Object}
    (ho : ((Step.replay known src (Step.makings past (r.behind how))).2.answer
      (.make name how)).value.2.get? x = some o) :
    o.isPlan = true ∨ ∃ d, (r.next (.make name how)).descents.get? x = some d ∧
      d.number = past.length := by
  obtain ⟨-, horigin, hplans⟩ := h.behind_planned how
  by_cases hx : x = name
  · have hbuild := Session.build_eq_of_sameOrigin (h.source_replay _) horigin
    cases hvalue : (r.session.build how).value with
    | ok made =>
      refine .inr ⟨⟨r.time, r.behind how⟩, ?_, h.numbered.time⟩
      simp [Registry.next, Registry.descentsAfter, hvalue, hx]
    | error reply =>
      -- An object behind it may have had the name, and still has it if nothing is made.
      simp only [Session.answer, hbuild, Traced.value_bind, hvalue] at ho
      exact .inl (hplans x o ho)
  · rw [Session.get?_answer_of_ne _ (.make name how) hx] at ho
    exact .inl (hplans x o ho)

section Next

variable {c : Command} (h : Apart known src r past)
  (hfree : c.isMaking = true → r.session.objects.get? c.name = none)

include h hfree

theorem free (hc : c.isMaking = true) : r.descents.get? c.name = none :=
  (h.numbered.get?_eq_none_iff c.name).2 (hfree hc)

/-- What is kept of the run with one more command for an object answers as it did. -/
theorem alone_next (k : Nat) :
    Faithful known src (Step.kept (past ++ [r.mark c]) k)
      ((Step.own (past ++ [r.mark c]) k).flatMap Step.events) := by
  by_cases hk : (r.mark c).object = some k
  · have hown : (Step.own (past ++ [r.mark c]) k).flatMap Step.events =
        (Step.own past k).flatMap Step.events ++ (r.mark c).events := by
      rw [Step.own_concat, if_pos hk, List.flatMap_append, List.flatMap_singleton]
    rw [hown]
    rcases h.numbered.object_mark_cases hk with ⟨name, how, rfl, rfl⟩ | ⟨hc, d, hd, rfl⟩
    · rw [h.numbered.kept_mark_make, h.numbered.own_length]
      exact (h.behind_planned how).1.concat (h.alike_make (hfree rfl) how) h.known_of_plans
    · rw [Registry.kept_mark_own hc hd]
      exact (h.alone d.number).concat (h.alike_own hc hd) (h.known_of_own d.number)
  · rw [h.numbered.kept_mark_of_ne hk, Step.own_concat, if_neg hk, List.append_nil]
    exact h.alone k

/-- It leaves the object as the run leaves it. -/
theorem slot_next {x : String} {d : Descent} {o : Object}
    (hd : (r.next c).descents.get? x = some d)
    (ho : (r.next c).session.objects.get? x = some o) :
    (Step.replay known src (Step.kept (past ++ [r.mark c]) d.number)).2.objects.get? x =
      some o := by
  rcases Registry.descentsAfter_cases (h.free hfree) hd with
    ⟨hx, hold⟩ | ⟨what, rfl, hold⟩ | ⟨how, o', rfl, -, rfl⟩
  · rw [h.numbered.kept_mark_of_ne (h.numbered.object_mark_ne hx hold)]
    exact h.slot x d o hold ((r.session.get?_answer_of_ne c hx).symm.trans ho)
  · rw [Registry.kept_mark_own rfl hold, Step.objects_replay_concat]
    have hname : r.descents.get? (Command.use x what).name = some d := hold
    exact (h.alike_own rfl hname).slot o ho
  · rw [h.numbered.time, h.numbered.kept_mark_make, Step.objects_replay_concat]
    exact (h.alike_make (hfree rfl) how).slot o ho

/-- Makings that brought about a table or a query do so after one more command. -/
theorem planned_next {x : String} {d : Descent} {o : Object}
    (hd : (r.next c).descents.get? x = some d)
    (ho : (r.next c).session.objects.get? x = some o) (hplan : o.isPlan = true) :
    Planned known src (Step.makings (past ++ [r.mark c]) d.line) x o := by
  rcases Registry.descentsAfter_cases (h.free hfree) hd with
    ⟨hx, hold⟩ | ⟨what, rfl, hold⟩ | ⟨how, o', rfl, hbuild, rfl⟩
  · rw [h.numbered.makings_mark c (h.numbered.line_lt x d hold)]
    exact h.planned x d o hold ((r.session.get?_answer_of_ne c hx).symm.trans ho) hplan
  · obtain ⟨before, hbefore⟩ := h.exists_object hold
    have huse : (before.use r.session.source what).value.2 = o := by
      have hget : ((r.session.answer (.use x what)).value.2.get? x) = some o := ho
      simpa [Session.answer, hbefore] using hget
    obtain rfl : before = o := by
      rw [← huse] at hplan
      exact (Object.use_eq_of_isPlan _ _ _ hplan).symm.trans huse
    rw [h.numbered.makings_mark _ (h.numbered.line_lt x d hold)]
    exact h.planned x d before hold hbefore hplan
  · have hname : r.session.objects.get? x = none := hfree rfl
    have hanswer : (r.session.answer (.make x how)).value.2 = r.session.objects.insert x o' := by
      simp [Session.answer, hbuild]
    obtain rfl : o' = o := by
      have hget : (r.session.answer (.make x how)).value.2.get? x = some o := ho
      simpa [hanswer] using hget
    have hevents : (r.mark (.make x how)).events = [] := by
      have hsilent := r.session.events_build_of_isPlan hbuild hplan
      simp [Registry.mark, Session.answer, hbuild, hsilent, hname, Object.dropAny]
    obtain ⟨hfaithful, -, hplans⟩ := h.behind_planned how
    have halike := h.alike_make hname how
    show Planned known src (Step.makings _ (r.time :: r.behind how)) x o'
    rw [h.numbered.makings_mark_make]
    refine ⟨?_, ?_, ?_⟩
    · have hconcat : Faithful known src _ ([] ++ (r.mark (.make x how)).events) :=
        hfaithful.concat halike h.known_of_plans
      rwa [hevents, List.append_nil] at hconcat
    · rw [Step.objects_replay_concat]
      exact halike.slot o' ho
    · intro y other hother
      rw [Step.objects_replay_concat] at hother
      -- The name may have been that of an object behind it, which is then replaced.
      by_cases hy : y = x
      · subst hy
        have hsame := (halike.slot o' ho).symm.trans hother
        rwa [← Option.some.inj hsame]
      · have hne : y ≠ (Command.make x how).name := hy
        rw [show (r.mark (.make x how)).command = .make x how from rfl,
          Session.get?_answer_of_ne _ _ hne] at hother
        exact hplans y other hother

/-- Beside an object there are still nothing but tables and queries after one more command. -/
theorem others_next {k : Nat} {x : String} {o : Object}
    (ho : (Step.replay known src (Step.kept (past ++ [r.mark c]) k)).2.objects.get? x = some o) :
    o.isPlan = true ∨ ∃ d, (r.next c).descents.get? x = some d ∧ d.number = k := by
  have hkeeps : x ≠ c.name → (r.next c).descents.get? x = r.descents.get? x :=
    r.get?_descentsAfter_of_ne c
  by_cases hk : (r.mark c).object = some k
  · rcases h.numbered.object_mark_cases hk with ⟨name, how, rfl, rfl⟩ | ⟨hc, d, hd, rfl⟩
    · rw [h.numbered.kept_mark_make, Step.objects_replay_concat] at ho
      exact h.others_make ho
    · rw [Registry.kept_mark_own hc hd, Step.objects_replay_concat] at ho
      by_cases hx : x = c.name
      · cases c with
        | make _ _ => cases hc
        | use name what => exact .inr ⟨d, hx ▸ hd, rfl⟩
        | drop name =>
          obtain rfl : x = name := hx
          obtain ⟨held, hheld⟩ := h.exists_object hd
          have hslot := h.slot x d held hd hheld
          simp [Registry.mark, Session.answer, hslot] at ho
      · have hne : x ≠ (r.mark c).command.name := hx
        rw [Session.get?_answer_of_ne _ _ hne] at ho
        rw [hkeeps hx]
        exact h.others _ x o ho
  · rw [h.numbered.kept_mark_of_ne hk] at ho
    rcases h.others k x o ho with hplan | ⟨d, hd, rfl⟩
    · exact .inl hplan
    · have hx : x ≠ c.name := by
        intro hx
        rw [hx] at hd
        cases hc : c.isMaking with
        | true =>
          rw [h.free hfree hc] at hd
          cases hd
        | false => exact hk ((Registry.object_mark_iff hc).2 ⟨d, hd, rfl⟩)
      rw [hkeeps hx]
      exact .inr ⟨d, hd, rfl⟩

theorem next : Apart known src (r.next c) (past ++ [r.mark c]) where
  numbered := h.numbered.next (h.free hfree)
  source := h.source
  tally := by
    show r.session.tally.addAll (r.session.answer c).events = _
    rw [h.tally, List.flatMap_append, List.flatMap_singleton, Tally.addAll_append]
    rfl
  knows := by
    show r.session.known ++ (r.session.answer c).allRecords.filterMap LogRecord.key? = _
    rw [h.knows, List.flatMap_append, List.flatMap_singleton, Event.keys_append,
      List.append_assoc]
    rfl
  quiet := by
    intro s hs hobject
    rcases List.mem_append.1 hs with hold | hnew
    · exact h.quiet s hold hobject
    · rw [List.mem_singleton.1 hnew] at hobject ⊢
      exact h.events_mark_of_none hobject
  alone := h.alone_next hfree
  slot _ _ _ hd ho := h.slot_next hfree hd ho
  others _ _ _ ho := h.others_next hfree ho
  planned _ _ _ hd ho hplan := h.planned_next hfree hd ho hplan

end Next

/-- Objects that lived apart so far do so after any commands, by induction on these. -/
theorem steps (h : Apart known src r past) {cmds : List Command}
    (hfree : r.session.namesFree cmds = true) :
    ∃ last : Registry, last.session = (r.session.run cmds).2 ∧
      Apart known src last (past ++ r.steps cmds) := by
  induction cmds generalizing r past with
  | nil => exact ⟨r, rfl, by simpa [Registry.steps] using h⟩
  | cons c rest ih =>
    obtain ⟨hc, hrest⟩ := Session.namesFree_cons.1 hfree
    obtain ⟨last, hlast, hapart⟩ := ih (h.next hc) hrest
    refine ⟨last, hlast, ?_⟩
    rw [List.append_assoc] at hapart
    exact hapart

/-! The events of a run, and those of dropping what is left, object by object. -/

theorem own_eq_nil (h : Apart known src r past) {k : Nat} (hk : past.length ≤ k) :
    Step.own past k = [] := by
  rw [Step.own, List.filter_eq_nil_iff]
  intro s hs hobject
  have := h.numbered.object_lt s hs k (of_decide_eq_true hobject)
  omega

/-- The number of the object that an entry of the session is. -/
def label (r : Registry) (e : String × Object) : Nat :=
  ((r.descents.get? e.1).map Descent.number).getD 0

theorem exists_label (h : Apart known src r past) {e : String × Object}
    (he : e ∈ r.session.objects.entries) :
    ∃ d, r.descents.get? e.1 = some d ∧ label r e = d.number := by
  obtain ⟨d, hd⟩ := h.exists_descent ((NameMap.mem_entries_iff _ e).1 he)
  exact ⟨d, hd, by simp [label, hd]⟩

/-- Of the objects that are left, what is kept for one of them drops that one and nothing more that
would bring anything about. -/
theorem drops_replay (h : Apart known src r past) (k : Nat) :
    (Step.replay known src (Step.kept past k)).2.drops =
      r.session.objects.entries.flatMap fun e => if label r e = k then e.2.drop.events else [] := by
  rw [Session.drops_eq]
  have hothers : ∀ e ∈ (Step.replay known src (Step.kept past k)).2.objects.entries,
      (∀ d, r.descents.get? e.1 = some d → d.number ≠ k) → e.2.drop.events = [] := by
    intro e he hnone
    rcases h.others k e.1 e.2 ((NameMap.mem_entries_iff _ e).1 he) with hplan | ⟨d, hd, hnumber⟩
    · exact Object.events_drop_of_isPlan hplan
    · exact absurd hnumber (hnone d hd)
  by_cases hleft : ∃ x d, r.descents.get? x = some d ∧ d.number = k
  · obtain ⟨x, d, hd, rfl⟩ := hleft
    obtain ⟨o, ho⟩ := h.exists_object hd
    have hsingle : ∀ e : String × Object, e.1 ≠ x →
        ∀ d', r.descents.get? e.1 = some d' → d'.number ≠ d.number :=
      fun e hne d' hd' hnumber => hne (h.numbered.single e.1 x d' d hd' hd hnumber)
    rw [NameMap.flatMap_entries _ (h.slot x d o hd ho) fun e he hne =>
      hothers e he (hsingle e hne), NameMap.flatMap_entries _ ho]
    · simp [label, hd]
    · intro e he hne
      obtain ⟨d', hd', hlabel⟩ := h.exists_label he
      rw [hlabel, if_neg (hsingle e hne d' hd')]
  · have hnone : ∀ x d, r.descents.get? x = some d → d.number ≠ k :=
      fun x d hd hnumber => hleft ⟨x, d, hd, hnumber⟩
    rw [List.flatMap_eq_nil_iff.2 fun e he => hothers e he (hnone e.1), eq_comm,
      List.flatMap_eq_nil_iff]
    intro e he
    obtain ⟨d, hd, hlabel⟩ := h.exists_label he
    rw [hlabel, if_neg (hnone e.1 d hd)]

theorem drops_replay_eq_nil (h : Apart known src r past) {k : Nat} (hk : past.length ≤ k) :
    (Step.replay known src (Step.kept past k)).2.drops = [] := by
  rw [h.drops_replay, List.flatMap_eq_nil_iff]
  intro e he
  obtain ⟨d, hd, hlabel⟩ := h.exists_label he
  have hlt := h.numbered.number_lt hd
  rw [if_neg (by omega)]

theorem sumsUp (h : Apart known src r past) :
    r.session.tally.SumsUp (fun k => (Step.replay known src (Step.kept past k)).2.tally)
      past.length := by
  have hparts : (fun k => (Step.replay known src (Step.kept past k)).2.tally) =
      fun k => Tally.zero.addAll ((Step.own past k).flatMap Step.events) :=
    funext fun k => (h.alone k).tally
  rw [h.tally, hparts]
  exact Tally.sumsUp_of_interleaves (Step.interleaves_own h.quiet) fun k hk => by
    rw [h.own_eq_nil hk, List.flatMap_nil]

theorem sumsUp_finish (h : Apart known src r past) :
    r.session.finish.SumsUp (fun k => (Step.replay known src (Step.kept past k)).2.finish)
      past.length := by
  have hparts : (fun k => (Step.replay known src (Step.kept past k)).2.finish) = fun k =>
      Tally.zero.addAll ((Step.own past k).flatMap Step.events ++
        (Step.replay known src (Step.kept past k)).2.drops) :=
    funext fun k => Session.finish_eq (h.alone k).tally
  rw [Session.finish_eq h.tally, hparts]
  refine Tally.sumsUp_of_interleaves ?_ ?_
  · simp only [Session.drops_eq r.session, h.drops_replay]
    exact (Step.interleaves_own h.quiet).append (.flatMap _ (label r) fun e => e.2.drop.events)
  · intro k hk
    rw [h.own_eq_nil hk, h.drops_replay_eq_nil hk]
    rfl

end Apart

namespace Session

/-- In a session in which objects share a source, the steps on an object bring the replies that
they bring when every command is deleted that is not about the object and did not make what it came
from. They bring the same log records too, but for the descriptions of record types that were known
at the start or that the log of the whole session has described before. The counts of the source
sum up those of the sessions that are left for the objects, and the statements that it ran are put
together from those that it runs there, each in their order. So it is before and after all that is
left has been dropped in the end. -/
theorem objects_independent (known : List Nat) (src : Source) (cmds : List Command)
    (h : (startKnowing known src).namesFree cmds = true) :
    let full := (startKnowing known src).run cmds
    let steps := (Registry.start known src).steps cmds
    let alone := fun k => (startKnowing known src).run (Step.solo steps k)
    steps.map Step.command = cmds ∧ steps.map Step.outcome = full.1 ∧
      (∀ n s, steps[n]? = some s → ∀ key, key ∈ s.known ↔
        key ∈ known ∨
          key ∈ ((full.1.take n).flatMap Outcome.records).filterMap LogRecord.key?) ∧
      (∀ k, List.Forall₂ Step.AnswersAs (Step.kept steps k) (alone k).1) ∧
      full.2.tally.SumsUp (fun k => (alone k).2.tally) cmds.length ∧
      full.2.finish.SumsUp (fun k => (alone k).2.finish) cmds.length := by
  intro full steps alone
  obtain ⟨last, hlast, hapart⟩ := (Apart.start known src).steps h
  have hsteps : [] ++ (Registry.start known src).steps cmds = steps := rfl
  have hfull : last.session = full.2 := hlast
  have hlength : steps.length = cmds.length := Registry.length_steps _ cmds
  rw [hsteps] at hapart
  have hsums := hapart.sumsUp
  have hfinish := hapart.sumsUp_finish
  rw [hfull, hlength] at hsums hfinish
  refine ⟨Registry.command_steps _ cmds, Registry.outcome_steps _ cmds, ?_,
    fun k => (hapart.alone k).answers, hsums, hfinish⟩
  intro n s hs key
  rw [Registry.known_steps _ cmds hs, mem_known_run, run_take]
  rfl

/-- A stream of a query, a bare cursor and a reader on one statement, step by step. The reader has
the name of the table that the query came from; the stream, which is the object of the third
command, is still what it is without them, and it is the first one to look its record type up. -/
theorem objects_independent_of_shared_statement :
    let s : Statement := ⟨"SELECT * FROM T"⟩
    let bad := Row.empty.insert "ID" (.varchar "x")
    let src := Source.empty.register s (.rows (.row .empty (.row bad (.failing "timeout"))))
    let cmds : List Command := [.make "t" (.table .customer "T" .standard),
      .make "q" (.query "t" (.project (.member "NAME"))), .make "e" (.streamOf "q"),
      .make "c" (.cursor s), .use "e" .advance, .use "c" .cursorNext, .drop "t",
      .make "t" (.reader s), .use "q" .queryToList, .use "t" .readerRead, .use "e" .drain]
    let steps := (Registry.start [] src).steps cmds
    let alone := (startKnowing [] src).run (Step.solo steps 2)
    (startKnowing [] src).namesFree cmds = true ∧
      (Step.kept steps 2).map Step.object = [some 0, some 1, some 2, some 2, some 2] ∧
      List.Forall₂ Step.AnswersAs (Step.kept steps 2) alone.1 ∧
      alone.2.tally = ⟨[s], 1, 1, 2⟩ ∧
      ((startKnowing [] src).run cmds).2.tally.rowsRead =
        ∑ k ∈ Finset.range cmds.length,
          ((startKnowing [] src).run (Step.solo steps k)).2.tally.rowsRead ∧
      ((startKnowing [] src).run cmds).2.tally.rowsRead = 6 ∧
      ((startKnowing [] src).run cmds).2.finish.closed =
        ∑ k ∈ Finset.range cmds.length,
          ((startKnowing [] src).run (Step.solo steps k)).2.finish.closed ∧
      ((startKnowing [] src).run cmds).2.finish.closed = 3 := by
  intro s bad src cmds steps alone
  have hfree : (startKnowing [] src).namesFree cmds = true := by decide +kernel
  obtain ⟨-, -, -, hanswers, hsums, hfinish⟩ := objects_independent [] src cmds hfree
  exact ⟨hfree, by decide +kernel, hanswers 2, by decide +kernel, hsums.rowsRead,
    by decide +kernel, hfinish.closed, by decide +kernel⟩

/-- Of two streams of one record type the second one is made without a description of the type,
which it brings when the first one is deleted. -/
theorem description_left_to_first_stream :
    let s : Statement := ⟨"SELECT * FROM T"⟩
    let cmds : List Command :=
      [.make "a" (.stream .customer s .fail), .make "b" (.stream .customer s .fail)]
    let steps := (Registry.start [] Source.empty).steps cmds
    let alone := (start Source.empty).run (Step.solo steps 1)
    (start Source.empty).namesFree cmds = true ∧
      Step.solo steps 1 = [.make "b" (.stream .customer s .fail)] ∧
      alone.1.map Outcome.records = [[.described Model.customer.heading]] ∧
      (Step.kept steps 1).map (fun step => step.outcome.records) = [[]] := by
  intro s cmds steps alone
  exact ⟨by decide +kernel, rfl, by decide +kernel, by decide +kernel⟩

end Session

end Recordset
