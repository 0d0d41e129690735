import Mathlib.Data.List.Induction
import Mathlib.Order.Bounds.Basic
import Mathlib.Order.Fin.Basic
import Recordset.Proofs.FieldCoercion

/-!
# Which bindings make a mapping

Columns are bound one after another. More names after a list change nothing once the list has a
repeat, and are otherwise looked at with the whole list before them (`firstRepeat?_append`). By
induction over the names there is no repeat exactly if they are pairwise different
(`firstRepeat?_eq_none_iff`), and the first repeat has an equal name among those before it, of which
none is a repeat (`firstRepeat?_eq_some_iff`). `Binding.isLeast_repeats_iff` says the same of places
in a list of bindings. `refuses_earliest_repeat` is the top theorem: it says which bindings make a
mapping, what that mapping holds, and for which column all others are refused.
-/

set_option autoImplicit false

namespace Recordset

/-- A first repeat stays the first one whatever follows it. Where there is none, the later names are
looked at with all those before them given. -/
theorem firstRepeat?_append (seen names more : List String) :
    firstRepeat? seen (names ++ more) =
      (firstRepeat? seen names).or (firstRepeat? (names.reverse ++ seen) more) := by
  induction names generalizing seen with
  | nil => rfl
  | cons name rest ih =>
    by_cases hname : name ∈ seen
    · simp [firstRepeat?, hname]
    · simp [firstRepeat?, hname, ih]

/-- A first repeat has an equal name before it, and none of the names before it is a repeat. The
induction adds names at the end, in the order in which they are given: the last of them is the first
repeat only if the others have none. -/
theorem exists_split_of_firstRepeat? {names : List String} {name : String}
    (h : firstRepeat? [] names = some name) :
    ∃ before after, names = before ++ name :: after ∧ before.Nodup ∧ name ∈ before := by
  induction names using List.reverseRecOn with
  | nil => cases h
  | append_singleton names last ih =>
    rw [firstRepeat?_append, Option.or_eq_some_iff] at h
    rcases h with hearlier | ⟨hnone, hlast⟩
    · obtain ⟨before, after, rfl, hnodup, hmem⟩ := ih hearlier
      exact ⟨before, after ++ [last], by simp, hnodup, hmem⟩
    · have hmem : last ∈ names ∧ last = name := by simpa [firstRepeat?] using hlast
      obtain ⟨hmem, rfl⟩ := hmem
      exact ⟨names, [], rfl, (nodup_of_firstRepeat? hnone).1, hmem⟩

theorem firstRepeat?_eq_none_iff {names : List String} :
    firstRepeat? [] names = none ↔ names.Nodup := by
  constructor
  · intro h
    exact (nodup_of_firstRepeat? h).1
  · intro hnodup
    cases h : firstRepeat? [] names with
    | none => rfl
    | some name =>
      obtain ⟨before, after, rfl, -, hmem⟩ := exists_split_of_firstRepeat? h
      rw [List.nodup_append] at hnodup
      exact absurd rfl (hnodup.2.2 name hmem name List.mem_cons_self)

/-- Names differ if only the case of a letter does, and the empty name is one of them. -/
example : firstRepeat? [] ["ID", "", "id", "Id"] = none := by decide

theorem firstRepeat?_eq_some_iff {names : List String} {name : String} :
    firstRepeat? [] names = some name ↔
      ∃ before after, names = before ++ name :: after ∧ before.Nodup ∧ name ∈ before := by
  constructor
  · exact exists_split_of_firstRepeat?
  · rintro ⟨before, after, rfl, hnodup, hmem⟩
    rw [firstRepeat?_append, firstRepeat?_eq_none_iff.2 hnodup]
    simp [firstRepeat?, hmem]

/-- The name that is the first to be repeated need not be the first of those that are. -/
example : firstRepeat? [] ["AGE", "ID", "ID", "AGE"] = some "ID" := by decide

variable {R : RecordType}

namespace Binding

variable {bindings : List (Binding R)} {i : Fin bindings.length}

/-- The places of the bindings whose column some binding before them has. -/
def repeats (bindings : List (Binding R)) : Set (Fin bindings.length) :=
  {i | ∃ j < i, bindings[j].column = bindings[i].column}

theorem mem_repeats_iff :
    i ∈ repeats bindings ↔ bindings[i].column ∈ (bindings.take i).map column := by
  rw [List.mem_map]
  constructor
  · rintro ⟨j, hji, hcolumn⟩
    exact ⟨bindings[j], List.mem_take_iff_getElem.2 ⟨j, by omega, rfl⟩, hcolumn⟩
  · rintro ⟨b, hb, hcolumn⟩
    obtain ⟨j, hj, rfl⟩ := List.mem_take_iff_getElem.1 hb
    have hji : j < i := by omega
    exact ⟨⟨j, by omega⟩, hji, hcolumn⟩

/-- Columns before a place are pairwise different exactly if no binding before it is a repeat. -/
theorem nodup_take_iff :
    ((bindings.take i).map column).Nodup ↔ ∀ k < i, k ∉ repeats bindings := by
  rw [List.Nodup, List.pairwise_map, List.pairwise_iff_getElem]
  simp only [List.length_take, List.getElem_take]
  constructor
  · rintro hdistinct k hki ⟨j, hjk, hcolumn⟩
    exact hdistinct j k (by omega) (by omega) hjk hcolumn
  · intro hnone j k hj hk hjk hcolumn
    have hki : k < i := by omega
    exact hnone ⟨k, by omega⟩ hki ⟨⟨j, by omega⟩, hjk, hcolumn⟩

theorem isLeast_repeats_iff :
    IsLeast (repeats bindings) i ↔
      ((bindings.take i).map column).Nodup ∧ bindings[i].column ∈ (bindings.take i).map column := by
  rw [IsLeast, mem_repeats_iff, nodup_take_iff, and_comm, mem_lowerBounds]
  -- A lower bound of the repeats is a place with none of them before it.
  refine and_congr_left fun _ => forall_congr' fun k => ?_
  rw [← not_lt, imp_not_comm]

end Binding

namespace Mapping

variable {bindings : List (Binding R)}

/-- What becomes of bindings: either a column repeats and they are refused for it, or none does and
they are those of the mapping. -/
theorem ofBindings?_cases (bindings : List (Binding R)) :
    (∃ column, firstRepeat? [] (bindings.map Binding.column) = some column ∧
        ofBindings? bindings = .error ⟨column⟩) ∨
      ∃ hdistinct, firstRepeat? [] (bindings.map Binding.column) = none ∧
        ofBindings? bindings = .ok ⟨bindings, hdistinct⟩ := by
  unfold ofBindings?
  split
  · rename_i column hsome
    exact .inl ⟨column, hsome, rfl⟩
  · rename_i hnone
    exact .inr ⟨(nodup_of_firstRepeat? hnone).1, hnone, rfl⟩

theorem ofBindings?_eq_ok_iff {m : Mapping R} :
    ofBindings? bindings = .ok m ↔ m.bindings = bindings := by
  rcases ofBindings?_cases bindings with ⟨column, hsome, hbuilt⟩ | ⟨hdistinct, -, hbuilt⟩
  · rw [hbuilt]
    refine iff_of_false nofun ?_
    rintro rfl
    rw [firstRepeat?_eq_none_iff.2 m.distinct] at hsome
    cases hsome
  · rw [hbuilt]
    constructor
    · rintro ⟨⟩
      rfl
    · rintro rfl
      rfl

theorem ofBindings?_eq_error_iff {column : String} :
    ofBindings? bindings = .error ⟨column⟩ ↔
      firstRepeat? [] (bindings.map Binding.column) = some column := by
  rcases ofBindings?_cases bindings with ⟨name, hsome, hbuilt⟩ | ⟨_, hnone, hbuilt⟩
  · rw [hbuilt, hsome]
    simp
  · rw [hbuilt, hnone]
    exact iff_of_false nofun nofun

/-- Bindings are refused for the column of the earliest one with a column that repeats. -/
theorem refused_iff_isLeast {column : String} :
    ofBindings? bindings = .error ⟨column⟩ ↔
      ∃ i, IsLeast (Binding.repeats bindings) i ∧ bindings[i].column = column := by
  rw [ofBindings?_eq_error_iff, firstRepeat?_eq_some_iff]
  constructor
  · rintro ⟨names, others, hsplit, hnodup, hmem⟩
    obtain ⟨before, rest, rfl, rfl, hrest⟩ := List.map_eq_append_iff.1 hsplit
    obtain ⟨b, after, rfl, rfl, -⟩ := List.map_eq_cons_iff.1 hrest
    refine ⟨⟨before.length, by simp⟩, Binding.isLeast_repeats_iff.2 ?_, by simp⟩
    simpa using And.intro hnodup hmem
  · rintro ⟨i, hleast, rfl⟩
    obtain ⟨hnodup, hmem⟩ := Binding.isLeast_repeats_iff.1 hleast
    -- The names split where the bindings do: at this place, with those before it distinct.
    refine ⟨(bindings.take i).map Binding.column, (bindings.drop (i + 1)).map Binding.column, ?_,
      hnodup, hmem⟩
    rw [← List.map_cons, ← List.map_append, Fin.getElem_fin, ← List.drop_eq_getElem_cons,
      List.take_append_drop]

/-- Bindings to whatever fields make a mapping exactly if their columns are pairwise different
names. The mapping then has those bindings in their order, each with the column type that its field
has under its optional layers, and has no column twice. All other bindings are refused, for the
column of the earliest one whose column some binding before it has, and the message names it. -/
theorem refuses_earliest_repeat (bindings : List (Binding R)) :
    ((∃ m, ofBindings? bindings = .ok m) ↔ bindings.Pairwise fun a b => a.column ≠ b.column) ∧
      (∀ m, ofBindings? bindings = .ok m → m.bindings = bindings ∧
        (∀ b ∈ m.bindings, ∃ k, (R.field b.field).type = .layered b.type k) ∧ m.columns.Nodup) ∧
      ∀ d, ofBindings? bindings = .error d ↔
        ∃ i, IsLeast (Binding.repeats bindings) i ∧ bindings[i].column = d.column ∧
          d.message = "Duplicate column '" ++ bindings[i].column ++ "' in schema descriptor" := by
  refine ⟨⟨?_, ?_⟩, ?_, ?_⟩
  · rintro ⟨m, hm⟩
    rw [← ofBindings?_eq_ok_iff.1 hm]
    exact List.pairwise_map.1 m.distinct
  · intro hdistinct
    exact ⟨⟨bindings, List.pairwise_map.2 hdistinct⟩, ofBindings?_eq_ok_iff.2 rfl⟩
  · intro m hm
    exact ⟨ofBindings?_eq_ok_iff.1 hm, fun b _ => (R.field b.field).type.exists_layered_column,
      m.distinct⟩
  · rintro ⟨column⟩
    rw [refused_iff_isLeast]
    constructor
    · rintro ⟨i, hleast, rfl⟩
      exact ⟨i, hleast, rfl, rfl⟩
    · rintro ⟨i, hleast, hcolumn, -⟩
      exact ⟨i, hleast, hcolumn⟩

end Mapping

end Recordset
