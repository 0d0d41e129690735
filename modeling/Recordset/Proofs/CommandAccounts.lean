import Recordset.Proofs.CursorAccounts
import Recordset.Proofs.ObjectAnswers

/-!
# Accounts of open cursors by commands

Who holds an open cursor can be told without a look at the objects. A bare cursor and a reader have
one from the command that makes them, and until the command that closes them; a reader that is let
go of is closed as well, but a bare cursor is not. `Kind.leftOpen` goes through commands and their
replies in this way, and `Marks.run` says that the flags of the objects agree with it.
`opened_eq_closed_add_held` is the top theorem: the account of a whole session balances after any
commands.
-/

set_option autoImplicit false

namespace Recordset

/-- The command had its effect, and there was nothing to tell. -/
def Reply.isDone : Reply → Bool
  | done => true
  | _ => false

/-- A kind of objects that hold a cursor from their making. -/
structure Kind where
  makes : Making → Bool
  /-- What closes the cursor. -/
  closing : Action
  /-- The cursor stays open when an object is let go of before it was closed. -/
  lingers : Bool

namespace Kind

def cursor : Kind where
  makes how := match how with
    | .cursor _ => true
    | _ => false
  closing := .cursorClose
  lingers := true

def reader : Kind where
  makes how := match how with
    | .reader _ => true
    | _ => false
  closing := .readerClose
  lingers := false

/-- No command closes the object of that name, nor lets go of it if that closes it as well. -/
def staysOpen (k : Kind) (name : String) : List (Command × Reply) → Bool
  | [] => true
  | (.make x _, reply) :: rest =>
    if x = name ∧ reply.isDone then k.lingers else k.staysOpen name rest
  | (.use x what, _) :: rest => !decide (x = name ∧ what = k.closing) && k.staysOpen name rest
  | (.drop x, _) :: rest => if x = name then k.lingers else k.staysOpen name rest

/-- The command makes an object of the kind that stays open through the rest. -/
def leaves (k : Kind) (c : Command) (reply : Reply) (rest : List (Command × Reply)) : Bool :=
  match c with
  | .make name how => k.makes how && reply.isDone && k.staysOpen name rest
  | .use _ _ | .drop _ => false

/-- How many objects of the kind were made and not closed. -/
def leftOpen (k : Kind) : List (Command × Reply) → Nat
  | [] => 0
  | (c, reply) :: rest => (k.leaves c reply rest).toNat + k.leftOpen rest

variable {k : Kind} {name : String}

theorem staysOpen_cons_of_ne {c : Command} (h : name ≠ c.name) (reply : Reply)
    (rest : List (Command × Reply)) :
    k.staysOpen name ((c, reply) :: rest) = k.staysOpen name rest := by
  have hne := h.symm
  cases c <;> simp [staysOpen, Command.name] at hne ⊢ <;> simp [hne]

end Kind

/-! ## The flags of the objects -/

/-- A flag of the objects tells which of them are of the kind and were not closed. -/
structure Marks (p : Object → Bool) (k : Kind) : Prop where
  built : ∀ (ses : Session) (how : Making) (o : Object), (ses.build how).value = .ok o →
    p o = k.makes how
  used : ∀ (src : Source) (o : Object) (what : Action),
    p (o.use src what).value.2 = (p o && !decide (what = k.closing))

namespace Object

theorem isOpenCursor_useCursor (c : Cursor) (what : Action) :
    (useCursor c what).value.2.isOpenCursor = (c.isLive && !decide (what = .cursorClose)) := by
  cases what with
  | cursorNext =>
    rw [useCursor, Traced.value_bind]
    cases c with
    | live feed => cases feed <;> rfl
    | closed => rfl
  | cursorClose => cases c <;> rfl
  | _ => simp [useCursor, isOpenCursor]

theorem isOpenReader_useReader (r : Reader) (what : Action) :
    (useReader r what).value.2.isOpenReader = (!r.isClosed && !decide (what = .readerClose)) := by
  obtain ⟨s, cursor⟩ := r
  cases what with
  | readerRead =>
    cases cursor with
    | live feed => cases feed <;> rfl
    | closed => rfl
  | readerClose => cases cursor <;> rfl
  | _ => simp [useReader, isOpenReader]

/-- Only the action that is meant to close a cursor or a reader closes it. -/
theorem isOpen_use (src : Source) (o : Object) (what : Action) :
    (o.use src what).value.2.isOpenCursor =
        (o.isOpenCursor && !decide (what = .cursorClose)) ∧
      (o.use src what).value.2.isOpenReader =
        (o.isOpenReader && !decide (what = .readerClose)) := by
  cases o with
  | cursor c =>
    refine ⟨isOpenCursor_useCursor c what, ?_⟩
    obtain ⟨moved, hmoved⟩ := exists_useCursor c what
    rw [use, hmoved]
    rfl
  | reader r =>
    refine ⟨?_, isOpenReader_useReader r what⟩
    obtain ⟨moved, hmoved⟩ := exists_useReader r what
    rw [use, hmoved]
    rfl
  | table t =>
    rw [use, useTable_eq]
    exact ⟨rfl, rfl⟩
  | query q =>
    rw [use, useQuery_eq]
    exact ⟨rfl, rfl⟩
  | stream M st =>
    obtain ⟨moved, hmoved⟩ := exists_useStream st what
    rw [use, hmoved]
    exact ⟨rfl, rfl⟩

end Object

/-- What a making can come to: an object that is open if a cursor or a reader was to be made, or a
refusal. -/
def Making.ComesTo (how : Making) : Except Reply Object → Prop
  | .ok o => o.isOpenCursor = Kind.cursor.makes how ∧ o.isOpenReader = Kind.reader.makes how
  | .error reply => reply.isDone = false

theorem Session.comesTo_build (ses : Session) (how : Making) :
    how.ComesTo (ses.build how).value := by
  cases how with
  | cursor s =>
    simp only [build, Cursor.create, Traced.value_bind]
    cases (ses.source.openFeed s).value with
    | ok feed => exact ⟨rfl, rfl⟩
    | error message => rfl
  | reader s =>
    simp only [build, Reader.create, Statement.acquire, Traced.value_bind]
    cases (ses.source.openFeed s).value with
    | ok feed => exact ⟨rfl, rfl⟩
    | error message => rfl
  | table model name choice =>
    simp only [build]
    cases choice.settings? with
    | some settings => exact ⟨rfl, rfl⟩
    | none => rfl
  | copy table =>
    simp only [build]
    cases ses.table? table with
    | some t => exact ⟨rfl, rfl⟩
    | none => rfl
  | retuned table choice =>
    simp only [build]
    cases ses.table? table with
    | some t =>
      cases choice.settings? with
      | some settings => exact ⟨rfl, rfl⟩
      | none => rfl
    | none => rfl
  | query table clause =>
    simp only [build]
    cases ses.table? table with
    | some t => exact ⟨rfl, rfl⟩
    | none => rfl
  | streamOf query =>
    simp only [build]
    cases ses.query? query with
    | some q =>
      simp only [Traced.value_bind]
      cases (q.stream ses.source).value with
      | ok st => exact ⟨rfl, rfl⟩
      | error e => rfl
    | none => rfl
  | stream model s onMismatch => exact ⟨rfl, rfl⟩

theorem marks_isOpenCursor : Marks Object.isOpenCursor .cursor where
  built ses how o h := by
    have hcomes := ses.comesTo_build how
    rw [h] at hcomes
    exact hcomes.1
  used src o what := (o.isOpen_use src what).1

theorem marks_isOpenReader : Marks Object.isOpenReader .reader where
  built ses how o h := by
    have hcomes := ses.comesTo_build how
    rw [h] at hcomes
    exact hcomes.2
  used src o what := (o.isOpen_use src what).2

namespace Session

/-- The commands of a run, each with the reply that it had. -/
def told (ses : Session) (cmds : List Command) : List (Command × Reply) :=
  cmds.zip ((ses.run cmds).1.map Outcome.reply)

theorem told_cons (ses : Session) (c : Command) (rest : List Command) :
    ses.told (c :: rest) = (c, (ses.answer c).value.1) :: (ses.step c).2.told rest := rfl

end Session

namespace Marks

variable {p : Object → Bool} {k : Kind}

/-- The object has its flag up and stays open through the commands. -/
def lasts (p : Object → Bool) (k : Kind) (told : List (Command × Reply)) (name : String)
    (o : Object) : Bool :=
  p o && k.staysOpen name told

theorem any_lasts (old : Option Object) (told : List (Command × Reply)) (name : String) :
    old.any (lasts p k told name) = (old.any p && k.staysOpen name told) := by
  cases old <;> rfl

theorem countBy_lasts (m : NameMap Object) (c : Command) (reply : Reply)
    (rest : List (Command × Reply)) :
    m.countBy (lasts p k rest) +
        ((m.get? c.name).any p && k.staysOpen c.name ((c, reply) :: rest)).toNat =
      m.countBy (lasts p k ((c, reply) :: rest)) +
        ((m.get? c.name).any p && k.staysOpen c.name rest).toNat := by
  have hagree := m.countBy_eq_of_agree (q := lasts p k rest)
    (r := lasts p k ((c, reply) :: rest)) c.name fun name o hne => by
      rw [lasts, lasts, Kind.staysOpen_cons_of_ne hne]
  rwa [any_lasts, any_lasts] at hagree

/-- The objects that last after a command, together with the one that it lets go of open, are those
that lasted before it, together with the one that it makes. -/
theorem step (h : Marks p k) (ses : Session) (c : Command) (rest : List (Command × Reply)) :
    (ses.answer c).value.2.countBy (lasts p k rest) +
        (k.lingers && (ses.letGo c).any p).toNat =
      ses.objects.countBy (lasts p k ((c, (ses.answer c).value.1) :: rest)) +
        (k.leaves c (ses.answer c).value.1 rest).toNat := by
  have hagree := countBy_lasts (p := p) (k := k) ses.objects c (ses.answer c).value.1 rest
  cases c with
  | make name how =>
    have hcomes := ses.comesTo_build how
    have hbuilt := h.built ses how
    simp only [Session.answer, Session.letGo, Traced.value_bind] at hagree ⊢
    cases hvalue : (ses.build how).value with
    | error reply =>
      rw [hvalue] at hcomes hagree
      have hrefused : reply.isDone = false := hcomes
      simp only [Traced.value_pure, Kind.staysOpen, Kind.leaves, hrefused, Bool.false_eq_true,
        and_false, if_false, Bool.and_false, Bool.false_and, Option.any_none, Bool.toNat_false]
        at hagree ⊢
      omega
    | ok o =>
      rw [hvalue] at hagree
      have hinsert := ses.objects.countBy_insert (lasts p k rest) name o
      rw [any_lasts, lasts, hbuilt o hvalue] at hinsert
      simp only [Traced.value_bind, Traced.value_pure, Command.name, Kind.staysOpen, Kind.leaves,
        Reply.isDone, and_self, if_true, Bool.and_true] at hagree ⊢
      rw [Bool.and_comm] at hagree
      omega
  | use name what =>
    simp only [Session.answer, Session.letGo, Kind.leaves, Kind.staysOpen, Command.name,
      Option.any_none, Bool.and_false, Bool.toNat_false, Nat.add_zero, true_and] at hagree ⊢
    cases hname : ses.objects.get? name with
    | none =>
      rw [hname] at hagree
      simp only [Option.any_none, Bool.false_and, Bool.toNat_false, Nat.add_zero] at hagree
      exact hagree
    | some o =>
      have hinsert := ses.objects.countBy_insert (lasts p k rest) name
        (o.use ses.source what).value.2
      rw [any_lasts, lasts, h.used, hname, Option.any_some, Bool.and_assoc] at hinsert
      rw [hname, Option.any_some] at hagree
      simp only [Traced.value_bind, Traced.value_pure] at hagree ⊢
      omega
  | drop name =>
    have herase := ses.objects.countBy_erase (lasts p k rest) name
    simp only [Session.answer, Session.letGo, Kind.leaves, Kind.staysOpen, Command.name,
      Bool.toNat_false, Nat.add_zero, if_true] at hagree ⊢
    cases hname : ses.objects.get? name with
    | none =>
      rw [hname] at hagree
      simp only [Option.any_none, Bool.false_and, Bool.and_false, Bool.toNat_false,
        Nat.add_zero] at hagree ⊢
      exact hagree
    | some o =>
      rw [any_lasts, hname] at herase
      rw [hname] at hagree
      simp only [Traced.value_bind, Traced.value_pure] at hagree ⊢
      rw [Bool.and_comm] at hagree
      omega

/-- The flags of the objects agree with the commands: the objects whose flag is up after a run,
together with those that it lets go of open if they stay so, are those of before that last through
the run and those that it made and left open. -/
theorem run (h : Marks p k) (ses : Session) (cmds : List Command) :
    (ses.run cmds).2.objects.count p + (if k.lingers then ses.strays p cmds else 0) =
      ses.objects.countBy (lasts p k (ses.told cmds)) + k.leftOpen (ses.told cmds) := by
  induction cmds generalizing ses with
  | nil =>
    have hlasts : lasts p k [] = fun _ => p := by
      funext name o
      exact Bool.and_true (p o)
    have hold : ses.objects.countBy (lasts p k (ses.told [])) = ses.objects.count p :=
      congrArg (NameMap.countBy · ses.objects) hlasts
    rw [hold]
    cases k.lingers <;> rfl
  | cons c rest ih =>
    have hstep := h.step ses c ((ses.step c).2.told rest)
    have hrest := ih (ses.step c).2
    rw [Session.told_cons, Kind.leftOpen]
    have hfinal : (ses.run (c :: rest)).2 = ((ses.step c).2.run rest).2 := rfl
    have hmoved : (ses.step c).2.objects = (ses.answer c).value.2 := rfl
    rw [hfinal, Session.strays]
    rw [hmoved] at hrest
    cases hlingers : k.lingers <;> simp only [hlingers, if_true, Bool.false_eq_true, if_false,
      Bool.false_and, Bool.true_and, Bool.toNat_false] at hstep hrest ⊢ <;> omega

/-- What the flag of an object tells after it was used for one thing after another. -/
theorem useAll (h : Marks p k) (src : Source) (o : Object) (whats : List Action) :
    p (o.useAll src whats).value = (p o && !decide (k.closing ∈ whats)) := by
  induction whats generalizing o with
  | nil => simp [Object.useAll]
  | cons what rest ih =>
    have hrest := ih (o.use src what).value.2
    rw [h.used, Bool.and_assoc] at hrest
    have hcons : (!decide (k.closing ∈ what :: rest)) =
        (!decide (what = k.closing) && !decide (k.closing ∈ rest)) := by
      simp [List.mem_cons, eq_comm (b := what)]
    rw [Object.useAll, Traced.value_bind, hcons]
    exact hrest

end Marks

namespace Session

/-- Once an object has had its life, its cursor is open exactly if it is a bare one that none of its
uses closed. -/
theorem any_isOpenCursor_lifetime (ses : Session) (how : Making) (whats : List Action) :
    (ses.lifetime how whats).value.any Object.isOpenCursor =
      ((ses.lifetime how whats).value.isSome && Kind.cursor.makes how &&
        !decide (.cursorClose ∈ whats)) := by
  unfold lifetime
  rw [Traced.value_bind]
  cases hvalue : (ses.build how).value with
  | error reply => rfl
  | ok o =>
    have hbuilt := marks_isOpenCursor.built ses how o hvalue
    have hused := marks_isOpenCursor.useAll ses.source o whats
    rw [hbuilt] at hused
    exact hused

/-- After any commands, the cursors that were opened and not closed are those of the streams that
are reading, those of the readers that were made and neither closed nor let go of, and the bare ones
that were made and never closed, whether they are still there or were let go of. Dropping the
objects that are left leaves only these bare ones open. Over the life of one object the openings and
closings take turns, and the last opening is closed unless the object is a bare cursor and was never
used to close it. -/
theorem opened_eq_closed_add_held (known : List Nat) (src : Source) (cmds : List Command) :
    let ses := ((startKnowing known src).run cmds).2
    let told := (startKnowing known src).told cmds
    let bare := Kind.cursor.leftOpen told
    ses.tally.opened = ses.tally.closed +
        (ses.objects.count Object.isOpenStream + Kind.reader.leftOpen told + bare) ∧
      ses.tally.closed ≤ ses.tally.opened ∧
      ses.finish.opened = ses.finish.closed + bare ∧
      ∀ how whats, (ses.lifetime how whats).Balanced false
        ((ses.lifetime how whats).value.isSome && Kind.cursor.makes how &&
          !decide (.cursorClose ∈ whats)) := by
  intro ses told bare
  have hsettled : ses.Settled ((startKnowing known src).strays Object.isOpenCursor cmds) := by
    simpa only [Nat.zero_add] using (settled_startKnowing known src).run cmds
  have hcursors : ses.objects.count Object.isOpenCursor +
      (startKnowing known src).strays Object.isOpenCursor cmds = 0 + bare :=
    marks_isOpenCursor.run (startKnowing known src) cmds
  have hreaders : ses.objects.count Object.isOpenReader + 0 = 0 + Kind.reader.leftOpen told :=
    marks_isOpenReader.run (startKnowing known src) cmds
  have hkinds := NameMap.count_eq_add Object.toNat_holds ses.objects
  have hfinish := hsettled.finish
  unfold Settled at hsettled
  refine ⟨?_, ?_, ?_, fun how whats => ?_⟩
  · omega
  · omega
  · omega
  · rw [← ses.any_isOpenCursor_lifetime how whats]
    exact ses.balanced_lifetime how whats

end Session

end Recordset
