import Recordset.Source.Journal

/-!
# Counting the events of a journal

`Traced.count p t` is the number of events of `t` that satisfy `p`. It is additive under
sequencing (`count_bind`), so the count of a composed computation is read off its parts, and a
tally grows by exactly the counts of the three kinds of event that it knows
(`opened_addAll`, `closed_addAll`, `rowsRead_addAll`).
-/

set_option autoImplicit false

namespace Recordset

namespace Event

def isOpened : Event → Bool
  | opened _ => true
  | closed | rowRead | logged _ => false

def isClosed : Event → Bool
  | closed => true
  | opened _ | rowRead | logged _ => false

def isRowRead : Event → Bool
  | rowRead => true
  | opened _ | closed | logged _ => false

/-- The statement that an event opened a cursor for, if it opened one. -/
def statement? : Event → Option Statement
  | opened s => some s
  | closed | rowRead | logged _ => none

end Event

namespace Traced

variable {α β : Type}

def count (p : Event → Bool) (t : Traced α) : Nat := t.events.countP p

@[simp] theorem count_pure (p : Event → Bool) (x : α) : (pure x : Traced α).count p = 0 := rfl

@[simp] theorem count_bind (p : Event → Bool) (t : Traced α) (f : α → Traced β) :
    (t >>= f).count p = t.count p + (f t.value).count p := by
  simp only [count, events_bind, List.countP_append]

@[simp] theorem count_emit (p : Event → Bool) (e : Event) :
    (emit e).count p = if p e then 1 else 0 := by
  simp only [count, events_emit, List.countP_singleton]

@[simp] theorem value_log (r : LogRecord) : (log r).value = () := rfl

@[simp] theorem count_log (p : Event → Bool) (r : LogRecord) :
    (log r).count p = if p (.logged r) then 1 else 0 :=
  count_emit p (.logged r)

theorem count_logAll {p : Event → Bool} (h : ∀ r, p (.logged r) = false) (rs : List LogRecord) :
    (logAll rs).count p = 0 := by
  simp [count, logAll, List.countP_map, Function.comp_def, h]

/-- The statements that a computation opened cursors for, in order. -/
def executed (t : Traced α) : List Statement := t.events.filterMap Event.statement?

@[simp] theorem executed_pure (x : α) : (pure x : Traced α).executed = [] := rfl

@[simp] theorem executed_bind (t : Traced α) (f : α → Traced β) :
    (t >>= f).executed = t.executed ++ (f t.value).executed := by
  simp only [executed, events_bind, List.filterMap_append]

@[simp] theorem executed_emit (e : Event) : (emit e).executed = e.statement?.toList := by
  cases e <;> rfl

@[simp] theorem executed_log (r : LogRecord) : (log r).executed = [] := rfl

@[simp] theorem executed_logAll (rs : List LogRecord) : (logAll rs).executed = [] := by
  induction rs with
  | nil => rfl
  | cons r rest ih => exact ih

/-- There is one statement for every cursor that was opened. -/
theorem length_executed (t : Traced α) : t.executed.length = t.count Event.isOpened := by
  unfold executed count
  rw [List.length_filterMap_eq_countP]
  congr 1
  funext e
  cases e <;> rfl

end Traced

namespace Tally

theorem addAll_append (t : Tally) (es es' : List Event) :
    t.addAll (es ++ es') = (t.addAll es).addAll es' := List.foldl_append

/-- Log records are not counted. -/
theorem addAll_logged (t : Tally) (rs : List LogRecord) : t.addAll (rs.map .logged) = t := by
  induction rs with
  | nil => rfl
  | cons r rest ih => exact ih

/-- A count that rises by one at each event satisfying `p`, and at no other, rises over a list of
events by the number of those that satisfy `p`. -/
theorem measure_addAll (measure : Tally → Nat) (p : Event → Bool)
    (h : ∀ t e, measure (t.add e) = measure t + if p e then 1 else 0)
    (t : Tally) (es : List Event) :
    measure (t.addAll es) = measure t + es.countP p := by
  induction es generalizing t with
  | nil => rfl
  | cons e es ih =>
    calc
      measure ((t.add e).addAll es) = measure (t.add e) + es.countP p := ih (t.add e)
      _ = measure t + (e :: es).countP p := by
        rw [h, List.countP_cons]
        omega

theorem opened_addAll (t : Tally) (es : List Event) :
    (t.addAll es).opened = t.opened + es.countP Event.isOpened :=
  measure_addAll opened Event.isOpened (by intro t e; cases e <;> rfl) t es

theorem closed_addAll (t : Tally) (es : List Event) :
    (t.addAll es).closed = t.closed + es.countP Event.isClosed :=
  measure_addAll closed Event.isClosed (by intro t e; cases e <;> rfl) t es

theorem rowsRead_addAll (t : Tally) (es : List Event) :
    (t.addAll es).rowsRead = t.rowsRead + es.countP Event.isRowRead :=
  measure_addAll rowsRead Event.isRowRead (by intro t e; cases e <;> rfl) t es

theorem executed_addAll (t : Tally) (es : List Event) :
    (t.addAll es).executed = t.executed ++ es.filterMap Event.statement? := by
  induction es generalizing t with
  | nil => exact (List.append_nil _).symm
  | cons e es ih =>
    have hone : (t.add e).executed = t.executed ++ e.statement?.toList := by
      cases e <;> simp [add, Event.statement?]
    have hcons : (e :: es).filterMap Event.statement? =
        e.statement?.toList ++ es.filterMap Event.statement? := by
      cases e <;> rfl
    calc
      ((t.add e).addAll es).executed = (t.add e).executed ++ es.filterMap Event.statement? :=
        ih (t.add e)
      _ = t.executed ++ (e :: es).filterMap Event.statement? := by
        rw [hone, hcons, List.append_assoc]

/-- A computation adds its statements to those of a tally, and its counts to the counts. -/
theorem addAll_events {α : Type} (t : Tally) (x : Traced α) :
    t.addAll x.events =
      ⟨t.executed ++ x.executed, t.opened + x.count Event.isOpened,
        t.closed + x.count Event.isClosed, t.rowsRead + x.count Event.isRowRead⟩ := by
  simp only [Traced.executed, Traced.count, ← executed_addAll, ← opened_addAll, ← closed_addAll,
    ← rowsRead_addAll]

end Tally

end Recordset
