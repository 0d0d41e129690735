import Recordset.Proofs.JournalCounts
import Recordset.Session

/-!
# What the answer to a command depends on

A command is given the name of one object. Its answer changes no object but that one
(`get?_answer_of_ne`), and it depends on the source, on the object under the name and, for a making,
on the table or query that the new object is made from. So two sessions that have these in common
answer alike: `alike_answer` says so of uses and drops, and `alike_make` of makings. Tables and
queries are plans: they never change, and nothing comes about when one is made or dropped.
-/

set_option autoImplicit false

namespace Recordset

namespace Command

/-- The name that a command is given. -/
def name : Command → String
  | make name _ | use name _ | drop name => name

def isMaking : Command → Bool
  | make _ _ => true
  | use _ _ | drop _ => false

end Command

/-! ## Tables and queries -/

namespace Object

/-- A table or a query: it holds no cursor and never changes. -/
def isPlan : Object → Bool
  | table _ | query _ => true
  | cursor _ | reader _ | stream _ _ => false

theorem events_drop_of_isPlan {o : Object} (h : o.isPlan = true) : o.drop.events = [] := by
  cases o with
  | table _ | query _ => rfl
  | cursor _ | reader _ | stream _ _ => cases h

theorem exists_useCursor (c : Cursor) (what : Action) :
    ∃ moved, (useCursor c what).value.2 = cursor moved := by
  cases what with
  | cursorNext =>
    rw [useCursor, Traced.value_bind]
    obtain ⟨row, moved⟩ := c.next.value
    cases row <;> exact ⟨moved, rfl⟩
  | _ => exact ⟨_, rfl⟩

theorem exists_useReader (r : Reader) (what : Action) :
    ∃ moved, (useReader r what).value.2 = reader moved := by
  cases what with
  | readerRead =>
    rw [useReader, Traced.value_bind]
    obtain ⟨row, moved⟩ := r.read.value
    cases row <;> exact ⟨moved, rfl⟩
  | _ => exact ⟨_, rfl⟩

theorem exists_useStream {M : Model} (st : RecordStream M) (what : Action) :
    ∃ moved, (useStream M st what).value.2 = stream M moved := by
  cases what with
  | advance =>
    rw [useStream, Traced.value_bind]
    obtain ⟨found, moved⟩ := st.advance.value
    cases found <;> exact ⟨moved, rfl⟩
  | collect =>
    rw [useStream, Traced.value_bind]
    obtain ⟨records, moved⟩ := st.collect.value
    cases records <;> exact ⟨moved, rfl⟩
  | _ => exact ⟨_, rfl⟩

theorem useTable_eq (t : Table) (what : Action) : (useTable t what).value.2 = table t := by
  cases what <;> rfl

theorem useQuery_eq (src : Source) (q : Query) (what : Action) :
    (useQuery src q what).value.2 = query q := by
  cases what with
  | queryStatement =>
    rw [useQuery, Traced.value_bind]
    cases q.statement.value <;> rfl
  | queryToList =>
    rw [useQuery, Traced.value_bind]
    cases (q.toList src).value <;> rfl
  | _ => rfl

/-- An object is a table or a query after a use only if it was one before, and then it is the same
one. -/
theorem use_eq_of_isPlan (src : Source) (o : Object) (what : Action)
    (h : (o.use src what).value.2.isPlan = true) : (o.use src what).value.2 = o := by
  cases o with
  | cursor c =>
    obtain ⟨moved, hmoved⟩ := exists_useCursor c what
    rw [use, hmoved] at h
    cases h
  | reader r =>
    obtain ⟨moved, hmoved⟩ := exists_useReader r what
    rw [use, hmoved] at h
    cases h
  | table t => exact useTable_eq t what
  | query q => exact useQuery_eq src q what
  | stream M st =>
    obtain ⟨moved, hmoved⟩ := exists_useStream st what
    rw [use, hmoved] at h
    cases h

end Object

namespace Session

/-- The name of the table or query that an object is made from, if there is one. -/
def origin? (ses : Session) : Making → Option String
  | .copy table | .retuned table _ | .query table _ => (ses.table? table).map fun _ => table
  | .streamOf query => (ses.query? query).map fun _ => query
  | .cursor _ | .reader _ | .table _ _ _ | .stream _ _ _ => none

variable {S T : Session}

theorem get?_of_table? {name : String} {t : Table} (h : S.table? name = some t) :
    S.objects.get? name = some (.table t) := by
  unfold table? at h
  split at h
  · rename_i t' ht
    rw [ht, Option.some.inj h]
  · cases h

theorem get?_of_query? {name : String} {q : Query} (h : S.query? name = some q) :
    S.objects.get? name = some (.query q) := by
  unfold query? at h
  split at h
  · rename_i q' hq
    rw [hq, Option.some.inj h]
  · cases h

theorem isPlan_of_origin? {how : Making} {name : String} (h : S.origin? how = some name) :
    ∃ o, S.objects.get? name = some o ∧ o.isPlan = true := by
  cases how with
  | copy _ | retuned _ _ | query _ _ =>
    obtain ⟨t, ht, rfl⟩ := Option.map_eq_some_iff.1 h
    exact ⟨_, get?_of_table? ht, rfl⟩
  | streamOf _ =>
    obtain ⟨q, hq, rfl⟩ := Option.map_eq_some_iff.1 h
    exact ⟨_, get?_of_query? hq, rfl⟩
  | cursor _ | reader _ | table _ _ _ | stream _ _ _ => cases h

/-- What a making can come to: it opens a cursor, or asks a query for its statement, or makes a
stream, or brings nothing about, and then it makes anything but a cursor or is refused. -/
inductive Built (ses : Session) (how : Making) : Prop where
  | cursor (s : Statement) (made : how = .cursor s)
  | reader (s : Statement) (made : how = .reader s)
  | asked (q : Query) (made : ses.build how = do
      let x ← q.stream ses.source
      return (x.map (Object.stream q.table.model)).mapError Reply.failed)
  | stream (M : Model) (s : Statement) (onMismatch : OnMismatch)
      (made : ses.build how = do
        let st ← RecordStream.create ses.source s onMismatch
        return .ok (.stream M st))
  | still (o : Object) (made : ses.build how = pure (.ok o)) (kind : ∀ c, o ≠ .cursor c)
  | refused (reply : Reply) (made : ses.build how = pure (.error reply))

theorem built (ses : Session) (how : Making) : Built ses how := by
  cases how with
  | cursor s => exact .cursor s rfl
  | reader s => exact .reader s rfl
  | table model name choice =>
    cases h : choice.settings? with
    | some settings =>
      exact .still (.table ⟨model, name, settings⟩) (by simp only [build, h]) (by rintro c ⟨⟩)
    | none => exact .refused .badSettings (by simp only [build, h])
  | copy table =>
    cases h : ses.table? table with
    | some t => exact .still (.table t) (by simp only [build, h]) (by rintro c ⟨⟩)
    | none => exact .refused .noObject (by simp only [build, h])
  | retuned table choice =>
    cases h : ses.table? table with
    | some t =>
      cases h' : choice.settings? with
      | some settings =>
        exact .still (.table { t with settings := settings }) (by simp only [build, h, h'])
          (by rintro c ⟨⟩)
      | none => exact .refused .badSettings (by simp only [build, h, h'])
    | none => exact .refused .noObject (by simp only [build, h])
  | query table clause =>
    cases h : ses.table? table with
    | some t => exact .still (.query ⟨t, clause⟩) (by simp only [build, h]) (by rintro c ⟨⟩)
    | none => exact .refused .noObject (by simp only [build, h])
  | streamOf query =>
    cases h : ses.query? query with
    | some q =>
      refine .asked q ?_
      simp only [build, h]
      refine congrArg (q.stream ses.source >>= ·) (funext fun x => ?_)
      cases x <;> rfl
    | none => exact .refused .noObject (by simp only [build, h])
  | stream model s onMismatch => exact .stream model s onMismatch rfl

/-- The making of a table or a query brings nothing about. -/
theorem events_build_of_isPlan (S : Session) {how : Making} {o : Object}
    (ho : (S.build how).value = .ok o) (hplan : o.isPlan = true) : (S.build how).events = [] := by
  cases S.built how with
  | cursor s made =>
    subst made
    rw [build, Traced.value_bind] at ho
    cases hcursor : (Cursor.create S.source s).value <;> rw [hcursor] at ho <;> cases ho
    cases hplan
  | reader s made =>
    subst made
    rw [build, Traced.value_bind] at ho
    cases hreader : (Reader.create S.source s).value <;> rw [hreader] at ho <;> cases ho
    cases hplan
  | asked q made =>
    rw [made, Traced.value_bind] at ho
    cases hstream : (q.stream S.source).value <;> rw [hstream] at ho <;> cases ho
    cases hplan
  | stream M s onMismatch made =>
    rw [made] at ho
    cases ho
    cases hplan
  | still _ made _ | refused _ made =>
    rw [made]
    rfl

end Session

/-! ## What an answer depends on -/

/-- The first of two answers brings what the second one brings, and leaves the object under a name
that the second one leaves there, if it leaves one. -/
structure Alike (name : String) (a b : Traced (Reply × NameMap Object)) : Prop where
  reply : a.value.1 = b.value.1
  events : a.events = b.events
  slot : ∀ o, b.value.2.get? name = some o → a.value.2.get? name = some o

namespace Session

variable {S T : Session}

theorem get?_answer_of_ne (ses : Session) (c : Command) {name : String} (h : name ≠ c.name) :
    (ses.answer c).value.2.get? name = ses.objects.get? name := by
  cases c with
  | make x how =>
    simp only [answer, Traced.value_bind]
    cases (ses.build how).value with
    | ok o => exact (NameMap.get?_insert _ _ _ _).trans (if_neg h)
    | error reply => rfl
  | use x what =>
    simp only [answer]
    cases ses.objects.get? x with
    | some o => exact (NameMap.get?_insert _ _ _ _).trans (if_neg h)
    | none => rfl
  | drop x =>
    simp only [answer]
    cases ses.objects.get? x with
    | some o => exact (NameMap.get?_erase _ _ _).trans (if_neg h)
    | none => rfl

/-- To a use or a drop, sessions that have the same object under its name answer alike. -/
theorem alike_answer {c : Command} {o : Object} (hc : c.isMaking = false)
    (hsource : T.source = S.source) (hS : S.objects.get? c.name = some o)
    (hT : T.objects.get? c.name = some o) : Alike c.name (T.answer c) (S.answer c) := by
  cases c with
  | make name how => cases hc
  | use name what =>
    change S.objects.get? name = some o at hS
    change T.objects.get? name = some o at hT
    simp only [answer, hS, hT, hsource]
    exact ⟨rfl, rfl, fun o' ho => by simpa [Command.name] using ho⟩
  | drop name =>
    change S.objects.get? name = some o at hS
    change T.objects.get? name = some o at hT
    simp only [answer, hS, hT]
    exact ⟨rfl, rfl, fun o' ho => by simp [Command.name] at ho⟩

/-- What an object is made from is the same in both sessions; if it is made from none, the one
session is still empty. -/
def SameOrigin (T S : Session) : Option String → Prop
  | some name => T.objects.get? name = S.objects.get? name
  | none => T.objects = NameMap.empty

/-- The two have the same under the name of what is looked for, or there is none and the one is
still empty. -/
theorem SameOrigin.cases {α : Type} {found : Option α} {name : String}
    (h : SameOrigin T S (found.map fun _ => name)) :
    T.objects.get? name = S.objects.get? name ∨ found = none ∧ T.objects = NameMap.empty := by
  cases found with
  | some x => exact .inl h
  | none => exact .inr ⟨rfl, h⟩

theorem table?_eq_of_sameOrigin {table : String}
    (h : SameOrigin T S ((S.table? table).map fun _ => table)) :
    T.table? table = S.table? table := by
  rcases h.cases with hget | ⟨hnone, hempty⟩
  · rw [table?, table?, hget]
  · rw [hnone, table?, hempty, NameMap.get?_empty]

theorem query?_eq_of_sameOrigin {query : String}
    (h : SameOrigin T S ((S.query? query).map fun _ => query)) :
    T.query? query = S.query? query := by
  rcases h.cases with hget | ⟨hnone, hempty⟩
  · rw [query?, query?, hget]
  · rw [hnone, query?, hempty, NameMap.get?_empty]

theorem build_eq_of_sameOrigin (hsource : T.source = S.source) {how : Making}
    (h : SameOrigin T S (S.origin? how)) : T.build how = S.build how := by
  cases how with
  | copy _ | retuned _ _ | query _ _ => simp only [build, table?_eq_of_sameOrigin h]
  | streamOf _ => simp only [build, query?_eq_of_sameOrigin h, hsource]
  | cursor _ | reader _ | stream _ _ _ => simp only [build, hsource]
  | table _ _ _ => rfl

/-- To the making of an object under a free name, a session answers alike that has what the object
is made from, and nothing but tables and queries besides. -/
theorem alike_make (hsource : T.source = S.source) {name : String} {how : Making}
    (horigin : SameOrigin T S (S.origin? how)) (hfree : S.objects.get? name = none)
    (hplans : ∀ o, T.objects.get? name = some o → o.isPlan = true) :
    Alike name (T.answer (.make name how)) (S.answer (.make name how)) := by
  have hdrop : (Object.dropAny (T.objects.get? name)).events =
      (Object.dropAny (S.objects.get? name)).events := by
    rw [hfree]
    cases hold : T.objects.get? name with
    | some o => exact Object.events_drop_of_isPlan (hplans o hold)
    | none => rfl
  simp only [answer, build_eq_of_sameOrigin hsource horigin]
  cases hvalue : (S.build how).value with
  | ok o =>
    refine ⟨by simp [hvalue], by simp [hvalue, hdrop], ?_⟩
    intro o' ho
    simpa [hvalue] using ho
  | error reply =>
    refine ⟨by simp [hvalue], by simp [hvalue], ?_⟩
    intro o' ho
    simp [hvalue, hfree] at ho

end Session

end Recordset
