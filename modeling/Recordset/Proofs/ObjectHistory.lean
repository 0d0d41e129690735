import Recordset.Proofs.ObjectAnswers

/-!
# The objects of a session and what they came from

A name may be given again once it is free, so the objects of a session are told apart by the
commands that made them: object `k` is the one that command number `k` made, or failed to make. A
`Registry` is a session that keeps for every name in use the number of its object and the numbers
of the objects behind it: the table or query that it was made from, the one that this was made
from, and so on. `Registry.steps` is a run with all this beside each command, and `Step.solo` is
what is left of its commands once those are deleted that have nothing to do with one object.

`Numbered` is the invariant of the account, kept by every command (`Numbered.next`): each name in
use stands for one object, and what is chosen of a run for an object grows by the steps that are
about it and by no others.
-/

set_option autoImplicit false

namespace Recordset

namespace Session

/-- No command makes an object under a name that is in use: it would drop the object that has the
name, and so be about two of them. -/
def namesFree (ses : Session) : List Command → Bool
  | [] => true
  | c :: rest =>
    !(c.isMaking && (ses.objects.get? c.name).isSome) && (ses.step c).2.namesFree rest

theorem namesFree_cons {ses : Session} {c : Command} {rest : List Command} :
    ses.namesFree (c :: rest) = true ↔
      (c.isMaking = true → ses.objects.get? c.name = none) ∧
        (ses.step c).2.namesFree rest = true := by
  rw [namesFree, Bool.and_eq_true, Bool.not_eq_true', Bool.and_eq_false_imp,
    Option.isSome_eq_false_iff, Option.isNone_iff_eq_none]

end Session

/-- A command of a run with the object that it is about and what it brought. -/
structure Step where
  command : Command
  object : Option Nat
  /-- The objects behind the one that the command makes. -/
  behind : List Nat
  outcome : Session.Outcome
  events : List Event
  /-- The record types that the process knew before the command. -/
  known : List Nat

namespace Step

/-- The command made that object, or was to make it. -/
def makes (s : Step) (k : Nat) : Bool := s.command.isMaking && decide (s.object = some k)

def behindOf (steps : List Step) (k : Nat) : List Nat :=
  match steps[k]? with
  | some s => s.behind
  | none => []

/-- The steps that are about an object. -/
def own (steps : List Step) (k : Nat) : List Step := steps.filter fun s => s.object = some k

/-- The steps that made one of the objects. -/
def makings (steps : List Step) (ks : List Nat) : List Step := steps.filter fun s => ks.any s.makes

/-- The steps that have to do with an object: they are about it, or made an object behind it. -/
def kept (steps : List Step) (k : Nat) : List Step :=
  steps.filter fun s => decide (s.object = some k) || (behindOf steps k).any s.makes

/-- The commands of a run without those that have nothing to do with an object. -/
def solo (steps : List Step) (k : Nat) : List Command := (kept steps k).map command

end Step

/-- The object that a name stands for and the objects behind it. -/
structure Descent where
  number : Nat
  behind : List Nat

def Descent.line (d : Descent) : List Nat := d.number :: d.behind

/-- A session that keeps account of which objects its names stand for. -/
structure Registry where
  session : Session
  descents : NameMap Descent
  /-- The number of the next command. -/
  time : Nat

namespace Registry

def start (known : List Nat) (src : Source) : Registry :=
  ⟨Session.startKnowing known src, NameMap.empty, 0⟩

/-- The objects behind one that is to be made. -/
def behind (r : Registry) (how : Making) : List Nat :=
  match r.session.origin? how with
  | none => []
  | some origin =>
    match r.descents.get? origin with
    | some d => d.line
    | none => []

/-- The step that a command takes. -/
def mark (r : Registry) (c : Command) : Step where
  command := c
  object :=
    match c with
    | .make _ _ => some r.time
    | .use name _ | .drop name => (r.descents.get? name).map Descent.number
  behind :=
    match c with
    | .make _ how => r.behind how
    | .use _ _ | .drop _ => []
  outcome := (r.session.step c).1
  events := (r.session.answer c).events
  known := r.session.known

/-- The objects of the names after a command. -/
def descentsAfter (r : Registry) : Command → NameMap Descent
  | .make name how =>
    match (r.session.build how).value with
    | .ok _ => r.descents.insert name ⟨r.time, r.behind how⟩
    | .error _ => r.descents
  | .use _ _ => r.descents
  | .drop name => r.descents.erase name

def next (r : Registry) (c : Command) : Registry :=
  ⟨(r.session.step c).2, r.descentsAfter c, r.time + 1⟩

/-- The steps that commands take one after another. -/
def steps (r : Registry) : List Command → List Step
  | [] => []
  | c :: rest => r.mark c :: (r.next c).steps rest

@[simp] theorem length_steps (r : Registry) (cmds : List Command) :
    (r.steps cmds).length = cmds.length := by
  induction cmds generalizing r with
  | nil => rfl
  | cons c rest ih => exact congrArg (· + 1) (ih (r.next c))

/-- The steps of a run are its commands, one by one. -/
theorem command_steps (r : Registry) (cmds : List Command) :
    (r.steps cmds).map Step.command = cmds := by
  induction cmds generalizing r with
  | nil => rfl
  | cons c rest ih => exact congrArg (c :: ·) (ih (r.next c))

/-- Each of them is taken with the types known that the commands before it leave known. -/
theorem known_steps (r : Registry) (cmds : List Command) {n : Nat} {s : Step}
    (h : (r.steps cmds)[n]? = some s) : s.known = (r.session.run (cmds.take n)).2.known := by
  induction cmds generalizing r n with
  | nil => cases h
  | cons c rest ih =>
    cases n with
    | zero =>
      cases h
      rfl
    | succ n => exact ih (r.next c) h

/-- They bring what the session brings that keeps no account. -/
theorem outcome_steps (r : Registry) (cmds : List Command) :
    (r.steps cmds).map Step.outcome = (r.session.run cmds).1 := by
  induction cmds generalizing r with
  | nil => rfl
  | cons c rest ih => exact congrArg ((r.session.step c).1 :: ·) (ih (r.next c))

end Registry

/-! ## Choosing steps of a run -/

namespace Step

variable {past : List Step} {s : Step} {k : Nat}

theorem filter_concat (p : Step → Bool) (past : List Step) (s : Step) :
    (past ++ [s]).filter p = past.filter p ++ if p s then [s] else [] := by
  rw [List.filter_append, List.filter_cons, List.filter_nil]

theorem own_concat (past : List Step) (s : Step) (k : Nat) :
    own (past ++ [s]) k = own past k ++ if s.object = some k then [s] else [] := by
  simp only [own, filter_concat, decide_eq_true_eq]

theorem makings_concat (past : List Step) (s : Step) (ks : List Nat) :
    makings (past ++ [s]) ks = makings past ks ++ if ks.any s.makes then [s] else [] :=
  filter_concat _ past s

theorem behindOf_concat (past : List Step) (s : Step) (k : Nat) :
    behindOf (past ++ [s]) k = if k = past.length then s.behind else behindOf past k := by
  unfold behindOf
  by_cases hk : k = past.length
  · subst hk
    simp
  · rw [if_neg hk]
    by_cases hlt : k < past.length
    · rw [List.getElem?_append_left hlt]
    · have hpast : past[k]? = none := List.getElem?_eq_none (by omega)
      have hall : (past ++ [s])[k]? = none :=
        List.getElem?_eq_none (by rw [List.length_append, List.length_singleton]; omega)
      rw [hpast, hall]

/-- A step that is not about an object, makes none behind it and does not give it others behind it
changes nothing about the steps that have to do with it. -/
theorem kept_concat_of_ne (hbehind : behindOf (past ++ [s]) k = behindOf past k)
    (hown : s.object ≠ some k) (hmakes : (behindOf past k).any s.makes = false) :
    kept (past ++ [s]) k = kept past k := by
  simp [kept, hbehind, hown, hmakes]

theorem kept_concat_of_eq (hbehind : behindOf (past ++ [s]) k = behindOf past k)
    (hown : s.object = some k) : kept (past ++ [s]) k = kept past k ++ [s] := by
  simp [kept, hbehind, hown]

/-- What has to do with an object when it is made is the making of the objects behind it. -/
theorem kept_concat_of_made (hmade : s.object = some past.length)
    (hpast : ∀ t ∈ past, t.object ≠ some past.length) :
    kept (past ++ [s]) past.length = makings past s.behind ++ [s] := by
  have hbehind : behindOf (past ++ [s]) past.length = s.behind := by
    rw [behindOf_concat, if_pos rfl]
  have hbefore : past.filter (fun t =>
      decide (t.object = some past.length) || s.behind.any t.makes) = makings past s.behind := by
    apply List.filter_congr
    intro t ht
    rw [decide_eq_false (hpast t ht), Bool.false_or]
  simp [kept, hbehind, hmade, hbefore]

end Step

/-! ## One object for each name -/

namespace Registry

variable {r : Registry} {past : List Step}

/-- The account of a registry is right after a run: every name in use has its object, the numbers
are those of commands of the run, and no object has two names. -/
structure Numbered (r : Registry) (past : List Step) : Prop where
  time : r.time = past.length
  named : ∀ name, (r.descents.get? name).isSome = (r.session.objects.get? name).isSome
  object_lt : ∀ s ∈ past, ∀ k, s.object = some k → k < past.length
  behind_lt : ∀ k, ∀ n ∈ Step.behindOf past k, n < past.length
  line_lt : ∀ name d, r.descents.get? name = some d → ∀ n ∈ d.line, n < past.length
  single : ∀ x y d e, r.descents.get? x = some d → r.descents.get? y = some e →
    d.number = e.number → x = y

theorem numbered_start (known : List Nat) (src : Source) : (start known src).Numbered [] where
  time := rfl
  named _ := rfl
  object_lt _ hs := nomatch hs
  behind_lt _ _ hn := nomatch hn
  line_lt _ _ hd := nomatch hd
  single _ _ _ _ hd := nomatch hd

theorem get?_descentsAfter_of_ne (r : Registry) (c : Command) {name : String} (h : name ≠ c.name) :
    (r.descentsAfter c).get? name = r.descents.get? name := by
  cases c with
  | make x how =>
    simp only [descentsAfter]
    cases (r.session.build how).value with
    | ok o => exact (NameMap.get?_insert _ _ _ _).trans (if_neg h)
    | error reply => rfl
  | use x what => rfl
  | drop x => exact (NameMap.get?_erase _ _ _).trans (if_neg h)

/-- A name stands for an object after a command because it did before and the command was given
another name or used the object, or because the command made it. -/
theorem descentsAfter_cases {c : Command} {x : String} {d : Descent}
    (hfree : c.isMaking = true → r.descents.get? c.name = none)
    (h : (r.descentsAfter c).get? x = some d) :
    (x ≠ c.name ∧ r.descents.get? x = some d) ∨
      (∃ what, c = .use x what ∧ r.descents.get? x = some d) ∨
      ∃ how o, c = .make x how ∧ (r.session.build how).value = .ok o ∧
        d = ⟨r.time, r.behind how⟩ := by
  by_cases hx : x = c.name
  · cases c with
    | make name how =>
      obtain rfl : x = name := hx
      have hname : r.descents.get? x = none := hfree rfl
      simp only [descentsAfter] at h
      cases hbuild : (r.session.build how).value with
      | ok o =>
        simp only [hbuild, NameMap.get?_insert, if_true, Option.some.injEq] at h
        exact .inr (.inr ⟨how, o, rfl, hbuild, h.symm⟩)
      | error reply =>
        simp only [hbuild, hname] at h
        cases h
    | use name what =>
      obtain rfl : x = name := hx
      exact .inr (.inl ⟨what, rfl, h⟩)
    | drop name =>
      obtain rfl : x = name := hx
      simp only [descentsAfter, NameMap.get?_erase, if_true] at h
      cases h
  · rw [get?_descentsAfter_of_ne r c hx] at h
    exact .inl ⟨hx, h⟩

/-- A command leaves the account and the session with the same names. -/
theorem named_next (hnamed : ∀ name,
      (r.descents.get? name).isSome = (r.session.objects.get? name).isSome)
    (c : Command) (name : String) :
    ((r.next c).descents.get? name).isSome = ((r.next c).session.objects.get? name).isSome := by
  show ((r.descentsAfter c).get? name).isSome = ((r.session.answer c).value.2.get? name).isSome
  by_cases hx : name = c.name
  · subst hx
    cases c with
    | make x how =>
      simp only [descentsAfter, Session.answer, Traced.value_bind, Command.name]
      cases (r.session.build how).value with
      | ok o => simp
      | error reply => exact hnamed x
    | use x what =>
      have hx := hnamed x
      simp only [descentsAfter, Session.answer, Command.name]
      cases hobject : r.session.objects.get? x with
      | some o => simpa [hobject] using hx
      | none => simpa [hobject] using hx
    | drop x =>
      simp only [descentsAfter, Session.answer, Command.name]
      cases hobject : r.session.objects.get? x <;> simp [hobject]
  · rw [get?_descentsAfter_of_ne r c hx, r.session.get?_answer_of_ne c hx]
    exact hnamed name

/-- A command gives other objects behind it to none but the one that it makes. -/
theorem behindOf_mark {c : Command} {k : Nat}
    (hk : k < past.length ∨ c.isMaking = false) :
    Step.behindOf (past ++ [r.mark c]) k = Step.behindOf past k := by
  rw [Step.behindOf_concat]
  split
  · rename_i hlast
    have hpast : past[k]? = none := List.getElem?_eq_none (by omega)
    rcases hk with hlt | hc
    · omega
    · rw [Step.behindOf, hpast]
      cases c with
      | make _ _ => cases hc
      | use _ _ | drop _ => rfl
  · rfl

/-- A use or a drop is about the object that its name stands for. -/
theorem object_mark_iff {c : Command} (hc : c.isMaking = false) {k : Nat} :
    (r.mark c).object = some k ↔ ∃ d, r.descents.get? c.name = some d ∧ d.number = k := by
  cases c with
  | make _ _ => cases hc
  | use _ _ | drop _ => exact Option.map_eq_some_iff

theorem kept_mark_own {c : Command} (hc : c.isMaking = false) {d : Descent}
    (hd : r.descents.get? c.name = some d) :
    Step.kept (past ++ [r.mark c]) d.number = Step.kept past d.number ++ [r.mark c] :=
  Step.kept_concat_of_eq (behindOf_mark (.inr hc)) ((object_mark_iff hc).2 ⟨d, hd, rfl⟩)

namespace Numbered

theorem get?_eq_none_iff (h : r.Numbered past) (name : String) :
    r.descents.get? name = none ↔ r.session.objects.get? name = none := by
  have hnamed := h.named name
  rw [← Option.isSome_eq_false_iff.trans Option.isNone_iff_eq_none, hnamed,
    Option.isSome_eq_false_iff.trans Option.isNone_iff_eq_none]

theorem number_lt (h : r.Numbered past) {name : String} {d : Descent}
    (hd : r.descents.get? name = some d) : d.number < past.length :=
  h.line_lt name d hd d.number List.mem_cons_self

theorem behind_make_lt (h : r.Numbered past) (how : Making) :
    ∀ n ∈ r.behind how, n < past.length := by
  intro n hn
  unfold behind at hn
  cases horigin : r.session.origin? how with
  | none =>
    rw [horigin] at hn
    cases hn
  | some origin =>
    rw [horigin] at hn
    cases hd : r.descents.get? origin with
    | none => simp [hd] at hn
    | some d =>
      simp only [hd] at hn
      exact h.line_lt origin d hd n hn

/-- A command is about the object that it makes, which gets the next number, or about the one that
its name stands for. -/
theorem object_mark_cases (h : r.Numbered past) {c : Command} {k : Nat}
    (hk : (r.mark c).object = some k) :
    (∃ name how, c = .make name how ∧ past.length = k) ∨
      (c.isMaking = false ∧ ∃ d, r.descents.get? c.name = some d ∧ d.number = k) := by
  cases hc : c.isMaking with
  | true =>
    cases c with
    | make name how => exact .inl ⟨name, how, rfl, h.time.symm.trans (Option.some.inj hk)⟩
    | use _ _ | drop _ => cases hc
  | false => exact .inr ⟨rfl, (object_mark_iff hc).1 hk⟩

theorem object_mark_lt (h : r.Numbered past) {c : Command} {k : Nat}
    (hk : (r.mark c).object = some k) : k < past.length + 1 := by
  rcases h.object_mark_cases hk with ⟨name, how, -, rfl⟩ | ⟨-, d, hd, rfl⟩
  · exact Nat.lt_succ_self _
  · have := h.number_lt hd
    omega

theorem behind_mark (h : r.Numbered past) (c : Command) :
    ∀ n ∈ (r.mark c).behind, n < past.length := by
  cases c with
  | make name how => exact h.behind_make_lt how
  | use _ _ | drop _ =>
    intro n hn
    cases hn

theorem next (h : r.Numbered past) {c : Command}
    (hfree : c.isMaking = true → r.descents.get? c.name = none) :
    (r.next c).Numbered (past ++ [r.mark c]) := by
  have hlength : (past ++ [r.mark c]).length = past.length + 1 := by simp
  have hlt : ∀ x d, (r.descentsAfter c).get? x = some d →
      r.descents.get? x = some d ∨ d.number = past.length ∧ c.isMaking = true ∧ x = c.name := by
    intro x d hd
    rcases descentsAfter_cases hfree hd with ⟨-, hold⟩ | ⟨what, -, hold⟩ | ⟨how, o, rfl, -, rfl⟩
    · exact .inl hold
    · exact .inl hold
    · exact .inr ⟨h.time, rfl, rfl⟩
  refine ⟨?_, named_next h.named c, ?_, ?_, ?_, ?_⟩
  · rw [hlength]
    exact congrArg (· + 1) h.time
  · intro s hs k hk
    rw [hlength]
    rcases List.mem_append.1 hs with hold | hnew
    · have := h.object_lt s hold k hk
      omega
    · rw [List.mem_singleton.1 hnew] at hk
      exact h.object_mark_lt hk
  · intro k n hn
    rw [hlength]
    rw [Step.behindOf_concat] at hn
    split at hn
    · have := h.behind_mark c n hn
      omega
    · have := h.behind_lt k n hn
      omega
  · intro x d hd n hn
    rw [hlength]
    rcases descentsAfter_cases hfree hd with ⟨-, hold⟩ | ⟨what, -, hold⟩ | ⟨how, o, -, -, rfl⟩
    · have := h.line_lt x d hold n hn
      omega
    · have := h.line_lt x d hold n hn
      omega
    · have htime := h.time
      rcases List.mem_cons.1 hn with hnumber | hbehind
      · simp only at hnumber
        omega
      · have := h.behind_make_lt how n hbehind
        omega
  · intro x y d e hd he hnumber
    rcases hlt x d hd with hdold | ⟨hdnew, -, hx⟩
    · rcases hlt y e he with heold | ⟨henew, -, -⟩
      · exact h.single x y d e hdold heold hnumber
      · have := h.number_lt hdold
        omega
    · rcases hlt y e he with heold | ⟨-, -, hy⟩
      · have := h.number_lt heold
        omega
      · rw [hx, hy]

/-! What the step of a command adds to the steps that have to do with an object. -/

theorem any_makes_mark (h : r.Numbered past) (c : Command) {ks : List Nat}
    (hks : ∀ n ∈ ks, n < past.length) : ks.any (r.mark c).makes = false := by
  rw [List.any_eq_false]
  intro n hn
  cases c with
  | make name how =>
    have hlt := hks n hn
    have htime := h.time
    have hne : ¬ r.time = n := by omega
    simp [Step.makes, mark, hne]
  | use _ _ | drop _ => simp [Step.makes, mark, Command.isMaking]

theorem makings_mark (h : r.Numbered past) (c : Command) {ks : List Nat}
    (hks : ∀ n ∈ ks, n < past.length) :
    Step.makings (past ++ [r.mark c]) ks = Step.makings past ks := by
  rw [Step.makings_concat, h.any_makes_mark c hks, if_neg Bool.false_ne_true, List.append_nil]

theorem not_object_length (h : r.Numbered past) :
    ∀ s ∈ past, s.object ≠ some past.length := by
  intro s hs hobject
  have := h.object_lt s hs _ hobject
  omega

theorem own_length (h : r.Numbered past) : Step.own past past.length = [] := by
  rw [Step.own, List.filter_eq_nil_iff]
  intro s hs
  simp [h.not_object_length s hs]

/-- The making of an object joins the makings of those behind it. -/
theorem makings_mark_make (h : r.Numbered past) (name : String) (how : Making) :
    Step.makings (past ++ [r.mark (.make name how)]) (r.time :: r.behind how) =
      Step.makings past (r.behind how) ++ [r.mark (.make name how)] := by
  have hpast : Step.makings past (r.time :: r.behind how) = Step.makings past (r.behind how) := by
    apply List.filter_congr
    intro s hs
    have hne : s.object ≠ some r.time := h.time ▸ h.not_object_length s hs
    simp [Step.makes, hne]
  have hmakes : (r.time :: r.behind how).any (r.mark (.make name how)).makes = true := by
    simp [Step.makes, mark, Command.isMaking]
  rw [Step.makings_concat, hpast, hmakes, if_pos rfl]

theorem kept_mark_make (h : r.Numbered past) (name : String) (how : Making) :
    Step.kept (past ++ [r.mark (.make name how)]) past.length =
      Step.makings past (r.behind how) ++ [r.mark (.make name how)] :=
  Step.kept_concat_of_made (congrArg some h.time) h.not_object_length

theorem kept_mark_of_ne (h : r.Numbered past) {c : Command} {k : Nat}
    (hk : (r.mark c).object ≠ some k) :
    Step.kept (past ++ [r.mark c]) k = Step.kept past k := by
  refine Step.kept_concat_of_ne ?_ hk (h.any_makes_mark c (h.behind_lt k))
  cases c with
  | make name how =>
    by_cases hlt : k < past.length
    · exact behindOf_mark (.inl hlt)
    · have htime := h.time
      have hne : k ≠ past.length := fun heq => hk (by simp [mark, htime, heq])
      rw [Step.behindOf_concat, if_neg hne]
  | use _ _ | drop _ => exact behindOf_mark (.inr rfl)

/-- A command is about no object but the one under its name. -/
theorem object_mark_ne (h : r.Numbered past) {c : Command} {x : String} {d : Descent}
    (hx : x ≠ c.name) (hd : r.descents.get? x = some d) : (r.mark c).object ≠ some d.number := by
  intro hobject
  rcases h.object_mark_cases hobject with ⟨name, how, -, hnumber⟩ | ⟨-, e, he, hnumber⟩
  · have := h.number_lt hd
    omega
  · exact hx (h.single x c.name d e hd he hnumber.symm)

end Numbered

end Registry

end Recordset
