import Mathlib.Data.List.Induction
import Recordset.Row

/-!
# What insertions leave in a row

A row is made by giving columns their cells, one after another and any column more than once
(`Row.Made`). Of the cells that a column was given only the last one stays, and a look-up finds
just that: `Row.Made.get?_eq` is the top lemma.
-/

set_option autoImplicit false

namespace Recordset

namespace NameMap

variable {α : Type}

/-- The value that a list of entries gives a name last. -/
def last? (name : String) (es : List (String × α)) : Option α :=
  ((es.filter fun e => e.1 == name).getLast?).map Prod.snd

theorem last?_concat (name : String) (es : List (String × α)) (e : String × α) :
    last? name (es ++ [e]) = if name = e.1 then some e.2 else last? name es := by
  by_cases h : name = e.1
  · simp [last?, h]
  · have hne : ¬ e.1 = name := fun he => h he.symm
    simp [last?, h, hne]

theorem ofList_concat (es : List (String × α)) (e : String × α) :
    ofList (es ++ [e]) = (ofList es).insert e.1 e.2 := by
  rw [ofList, ofList, List.foldl_append, List.foldl_cons, List.foldl_nil]

/-- The last entry under a name is the one that is found. -/
theorem get?_ofList (es : List (String × α)) (name : String) :
    (ofList es).get? name = last? name es := by
  induction es using List.reverseRecOn with
  | nil => rfl
  | append_singleton es e ih => rw [ofList_concat, get?_insert, last?_concat, ih]

/-- Where no name is given a value twice, each entry is the last one under its name. -/
theorem last?_of_nodup {es : List (String × α)} (h : (es.map Prod.fst).Nodup) {e : String × α}
    (he : e ∈ es) : last? e.1 es = some e.2 := by
  induction es using List.reverseRecOn with
  | nil => cases he
  | append_singleton es d ih =>
    rw [List.map_append, List.nodup_append] at h
    obtain ⟨hes, -, hne⟩ := h
    rw [last?_concat]
    rcases List.mem_append.1 he with he | he
    · have hd : e.1 ≠ d.1 := hne e.1 (List.mem_map_of_mem he) d.1 (by simp)
      rw [if_neg hd]
      exact ih hes he
    · rw [List.mem_singleton.1 he, if_pos rfl]

end NameMap

namespace Row

/-- The row came about by giving columns these cells in order, some of them at once and others one
at a time. -/
inductive Made : List (String × Cell) → Row → Prop
  | empty : Made [] Row.empty
  | ofList (entries : List (String × Cell)) : Made entries (Row.ofList entries)
  | insert {entries : List (String × Cell)} {row : Row} (column : String) (c : Cell)
    (h : Made entries row) : Made (entries ++ [(column, c)]) (row.insert column c)

theorem Made.eq_ofList {entries : List (String × Cell)} {row : Row} (h : Made entries row) :
    row = Row.ofList entries := by
  induction h with
  | empty => rfl
  | ofList entries => rfl
  | insert column c h ih => rw [ih, Row.ofList, Row.ofList, NameMap.ofList_concat, Row.insert]

/-- A column has the cell that it was given last, and none if it was given none. -/
theorem Made.get?_eq {entries : List (String × Cell)} {row : Row} (h : Made entries row)
    (column : String) : row.get? column = NameMap.last? column entries := by
  rw [h.eq_ofList]
  exact NameMap.get?_ofList entries column

end Row

end Recordset
