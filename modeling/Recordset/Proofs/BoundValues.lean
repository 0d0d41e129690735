import Recordset.Proofs.RowDecoding
import Recordset.Proofs.RowInsertions

/-!
# What decoding looks at

A binding asks a row for the value in its column and for nothing else, so rows that have the same
values in the bound columns are read alike (`decode_congr`), however they were made. Where every
binding has a field of its own, the offers to a field are those of one binding, and the order of
the bindings no longer decides what the record holds (`Filled.iff_of_distinct`).
`decode_by_bound_values` is the top theorem and states both.
-/

set_option autoImplicit false

namespace Recordset

variable {R : RecordType}

namespace Row

/-- The insertions leave no value in the column: the last of them to give it a cell gave it one
without a value, or none gave it a cell. -/
def LeavesNone (column : String) (entries : List (String × Cell)) : Prop :=
  NameMap.last? column entries = none ∨ NameMap.last? column entries = some .null

/-- Both sequences of insertions leave the same value in the column, or neither leaves one. -/
def LeaveAlike (column : String) (entries others : List (String × Cell)) : Prop :=
  (∃ c, c ≠ .null ∧ NameMap.last? column entries = some c ∧ NameMap.last? column others = some c) ∨
    LeavesNone column entries ∧ LeavesNone column others

variable {entries others : List (String × Cell)} {row row' : Row} {column : String}

theorem Made.value?_of_leavesNone (h : Made entries row) (hnone : LeavesNone column entries) :
    row.value? column = none := by
  rw [value?, h.get?_eq]
  rcases hnone with hnone | hnull
  · rw [hnone]
    rfl
  · rw [hnull]
    rfl

theorem Made.value?_eq (h : Made entries row) (h' : Made others row')
    (halike : LeaveAlike column entries others) : row.value? column = row'.value? column := by
  rcases halike with ⟨c, -, hc, hc'⟩ | ⟨hnone, hnone'⟩
  · rw [value?, value?, h.get?_eq, h'.get?_eq, hc, hc']
  · rw [h.value?_of_leavesNone hnone, h'.value?_of_leavesNone hnone']

end Row

namespace Binding

/-- A binding asks for the value in its column only: a cell without a value counts for none. -/
theorem apply_eq (b : Binding R) (row : Row) (r : Record R) :
    b.apply row r = match row.value? b.column with
      | none => .ok r
      | some c =>
        match c.type? with
        | none => .ok r
        | some actual =>
          match (R.field b.field).type.coerce c with
          | some x => .ok (r.set b.field x)
          | none => .error (.mismatch b.column b.type actual) := by
  rw [apply, Row.value?]
  cases row.get? b.column with
  | none => rfl
  | some c => cases c <;> rfl

end Binding

namespace Mapping

theorem decodeFrom_congr {row row' : Row} {bindings : List (Binding R)}
    (h : ∀ b ∈ bindings, row.value? b.column = row'.value? b.column) (r : Record R) :
    decodeFrom row bindings r = decodeFrom row' bindings r := by
  induction bindings generalizing r with
  | nil => rfl
  | cons b rest ih =>
    have happly : b.apply row r = b.apply row' r := by
      rw [b.apply_eq, b.apply_eq, h b List.mem_cons_self]
    have hrest := fun r' => ih (fun d hd => h d (List.mem_cons_of_mem b hd)) r'
    rw [decodeFrom, decodeFrom, happly]
    cases b.apply row' r with
    | ok r' => exact hrest r'
    | error e => rfl

/-- Rows with the same values in the bound columns are read alike. -/
theorem decode_congr {m : Mapping R} {row row' : Row}
    (h : ∀ column ∈ m.columns, row.value? column = row'.value? column) :
    m.decode row = m.decode row' := by
  rw [decode, decode]
  apply decodeFrom_congr
  intro b hb
  exact h b.column (List.mem_map_of_mem hb)

/-- Among bindings to different fields there is no later offer to the same field, so that their
order does not matter to what the record holds. -/
theorem Filled.iff_of_distinct {row : Row} {bindings : List (Binding R)} {start r : Record R}
    (h : (bindings.map Binding.field).Nodup) :
    Filled bindings row start r ↔
      (∀ b ∈ bindings, ∀ x, b.Offers row x → r b.field = x) ∧
        ∀ i, (∀ b ∈ bindings, b.field = i → b.Silent row) → r i = start i := by
  constructor
  · intro hfilled
    refine ⟨?_, hfilled.kept⟩
    intro b hb x hoffer
    obtain ⟨before, after, rfl⟩ := List.append_of_mem hb
    apply hfilled.last before b after x rfl hoffer
    intro d hd hfield
    rw [List.map_append, List.map_cons, List.nodup_append] at h
    have hb : b.field ∉ after.map Binding.field := (List.nodup_cons.1 h.2.1).1
    rw [← hfield] at hb
    exact absurd (List.mem_map_of_mem hd) hb
  · rintro ⟨hoffers, hkept⟩
    refine ⟨?_, hkept⟩
    intro before b after x hsplit hoffer _
    have hb : b ∈ bindings := by simp [hsplit]
    exact hoffers b hb x hoffer

theorem decode_eq_ok_iff_of_perm {m m' : Mapping R} (hfields : (m.bindings.map Binding.field).Nodup)
    (hperm : m.bindings.Perm m'.bindings) (row : Row) (r : Record R) :
    m.decode row = .ok r ↔ m'.decode row = .ok r := by
  have hfields' : (m'.bindings.map Binding.field).Nodup :=
    (hperm.map Binding.field).nodup_iff.1 hfields
  rw [decode_eq_ok_iff, decode_eq_ok_iff, Filled.iff_of_distinct hfields,
    Filled.iff_of_distinct hfields']
  simp only [Fits, hperm.mem_iff]

/-- Two rows are read as the same record, or refused with the same failure, if the insertions that
made them leave the same values in the bound columns, whatever else was inserted, in whatever order
and however often. Where no two bindings have the same field, putting them in another order changes
neither which rows are accepted nor what they are read as, but at most which of the mismatches
between the row and the bindings is the failure. -/
theorem decode_by_bound_values (m : Mapping R) :
    (∀ entries others row row', Row.Made entries row → Row.Made others row' →
        (∀ column ∈ m.columns, Row.LeaveAlike column entries others) →
        m.decode row = m.decode row') ∧
      ((m.bindings.map Binding.field).Nodup → ∀ m' : Mapping R, m.bindings.Perm m'.bindings →
        ∀ row, (∀ r, m.decode row = .ok r ↔ m'.decode row = .ok r) ∧
          ∀ e, m'.decode row = .error e → ∃ b ∈ m.bindings, ∃ actual, b.Clashes row actual ∧
            e = .mismatch b.column b.type actual) := by
  refine ⟨?_, ?_⟩
  · intro entries others row row' hmade hmade' halike
    apply decode_congr
    intro column hcolumn
    exact hmade.value?_eq hmade' (halike column hcolumn)
  · intro hfields m' hperm row
    refine ⟨decode_eq_ok_iff_of_perm hfields hperm row, ?_⟩
    intro e hdecode
    obtain ⟨before, b, after, actual, hsplit, hclash, -, rfl⟩ :=
      (m'.decode_eq_error_iff row e).1 hdecode
    have hb : b ∈ m'.bindings := by simp [hsplit]
    exact ⟨b, hperm.mem_iff.2 hb, actual, hclash, rfl⟩

end Mapping

end Recordset
