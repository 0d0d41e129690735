import Mathlib.Algebra.BigOperators.Intervals
import Recordset.Proofs.JournalCounts

/-!
# Counts put together from parts

`Interleaves` says of a list that it is put together from parts, one for each number, and that each
of them keeps its order. Whatever is counted in the list is then counted in the parts
(`Interleaves.countP`), so if the events of a tally are put together from parts, the tally is the
sum of those of the parts (`Tally.sumsUp_of_interleaves`).
-/

set_option autoImplicit false

namespace Recordset

/-- A list that is put together from parts, each of them in its own order. -/
def Interleaves {α : Type} (parts : Nat → List α) (whole : List α) : Prop :=
  ∃ labelled : List (Nat × α), labelled.map Prod.snd = whole ∧
    ∀ k, (labelled.filter fun x => x.1 = k).map Prod.snd = parts k

namespace Interleaves

variable {α β : Type} {parts more : Nat → List α} {whole rest : List α}

theorem nil : Interleaves (fun _ => ([] : List α)) [] := ⟨[], rfl, fun _ => rfl⟩

/-- A list that is a single part. -/
theorem single (j : Nat) (xs : List α) : Interleaves (fun k => if j = k then xs else []) xs := by
  refine ⟨xs.map (Prod.mk j), ?_, ?_⟩
  · rw [List.map_map]
    exact List.map_id xs
  · intro k
    by_cases hj : j = k <;> simp [hj, List.filter_map, Function.comp_def]

theorem append (h : Interleaves parts whole) (h' : Interleaves more rest) :
    Interleaves (fun k => parts k ++ more k) (whole ++ rest) := by
  obtain ⟨labelled, rfl, hparts⟩ := h
  obtain ⟨labelled', rfl, hmore⟩ := h'
  refine ⟨labelled ++ labelled', List.map_append, ?_⟩
  intro k
  rw [List.filter_append, List.map_append, hparts k, hmore k]

/-- Lists one after another, each of them all of one part. -/
theorem flatMap (es : List β) (label : β → Nat) (f : β → List α) :
    Interleaves (fun k => es.flatMap fun e => if label e = k then f e else []) (es.flatMap f) := by
  induction es with
  | nil => exact nil
  | cons e es ih => exact (single (label e) (f e)).append ih

theorem filterMap (h : Interleaves parts whole) (f : α → Option β) :
    Interleaves (fun k => (parts k).filterMap f) (whole.filterMap f) := by
  obtain ⟨labelled, rfl, hparts⟩ := h
  refine ⟨labelled.filterMap fun x => (f x.2).map (Prod.mk x.1), ?_, ?_⟩
  · rw [List.map_filterMap, List.filterMap_map]
    congr 1
    funext x
    cases h : f x.2 <;> simp [h]
  · intro k
    show _ = (parts k).filterMap f
    rw [← hparts k, List.filterMap_map, List.filter_filterMap, List.map_filterMap,
      List.filterMap_filter]
    congr 1
    funext x
    by_cases hx : x.1 = k <;> cases h : f x.2 <;> simp [hx, h, Option.filter]

/-- What is counted in the whole is counted in the parts, by induction on the whole. -/
theorem countP (h : Interleaves parts whole) (p : α → Bool) {n : Nat}
    (hn : ∀ k, n ≤ k → parts k = []) :
    whole.countP p = ∑ k ∈ Finset.range n, (parts k).countP p := by
  obtain ⟨labelled, rfl, hparts⟩ := h
  have hlabel : ∀ x ∈ labelled, x.1 < n := by
    intro x hx
    by_contra hge
    have hnone := (hparts x.1).trans (hn x.1 (by omega))
    have hmem : x ∈ labelled.filter fun y => y.1 = x.1 := List.mem_filter.2 ⟨hx, by simp⟩
    rw [List.map_eq_nil_iff.1 hnone] at hmem
    cases hmem
  simp only [← hparts]
  clear hparts hn
  induction labelled with
  | nil => simp
  | cons x rest ih =>
    have hrest := ih fun y hy => hlabel y (List.mem_cons_of_mem x hy)
    have hx : x.1 < n := hlabel x List.mem_cons_self
    have hone : ∀ k, (((x :: rest).filter fun y => y.1 = k).map Prod.snd).countP p =
        ((rest.filter fun y => y.1 = k).map Prod.snd).countP p +
          if x.1 = k then (if p x.2 then 1 else 0) else 0 := by
      intro k
      by_cases hk : x.1 = k <;> simp [hk, List.countP_cons]
    rw [List.map_cons, List.countP_cons, hrest, Finset.sum_congr rfl fun k _ => hone k,
      Finset.sum_add_distrib, Finset.sum_ite_eq, if_pos (Finset.mem_range.2 hx)]

end Interleaves

namespace Tally

/-- The counts are the sums of those of the first `n` parts, and the statements are put together
from theirs. -/
structure SumsUp (total : Tally) (parts : Nat → Tally) (n : Nat) : Prop where
  opened : total.opened = ∑ k ∈ Finset.range n, (parts k).opened
  closed : total.closed = ∑ k ∈ Finset.range n, (parts k).closed
  rowsRead : total.rowsRead = ∑ k ∈ Finset.range n, (parts k).rowsRead
  executed : Interleaves (fun k => (parts k).executed) total.executed

/-- Events that are put together from parts are counted in the parts. -/
theorem sumsUp_of_interleaves {parts : Nat → List Event} {whole : List Event} {n : Nat}
    (h : Interleaves parts whole) (hn : ∀ k, n ≤ k → parts k = []) :
    (zero.addAll whole).SumsUp (fun k => zero.addAll (parts k)) n where
  opened := by simpa [opened_addAll, zero] using h.countP Event.isOpened hn
  closed := by simpa [closed_addAll, zero] using h.countP Event.isClosed hn
  rowsRead := by simpa [rowsRead_addAll, zero] using h.countP Event.isRowRead hn
  executed := by simpa [executed_addAll, zero] using h.filterMap Event.statement?

end Tally

end Recordset
