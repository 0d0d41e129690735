import Recordset.Proofs.RowDecoding
import Recordset.Proofs.RowInsertions

/-!
# Records written to rows and read back

`Mapping.encode` writes a record to a row, each bound column taking the cell of its field. A cell
that holds a value is read back as the very field that it was written from (`coerce_cell`), but one
that holds none is read as no field at all, so a field that is absent is lost, and so is one that
no column is bound to: `Mapping.retained` is what is left of the record. `decode_encode_eq_iff` is
the top theorem: writing and reading back always gives a record, it gives the same record exactly
if all that is lost was initial anyway, and a record that was read from a row comes back as it is.
-/

set_option autoImplicit false

namespace Recordset

variable {R : RecordType}

theorem ScalarType.cell_ne_null (t : ScalarType) (x : t.Carrier) : t.cell x ≠ .null := by
  cases t <;> exact Cell.noConfusion

namespace FieldType

/-- What a field was written as is read as the same field, unless it is no value. -/
theorem coerce_cell (t : FieldType) (x : t.Carrier) (h : t.cell x ≠ .null) :
    t.coerce (t.cell x) = some x := by
  induction t with
  | scalar type => cases type <;> rfl
  | optional inner ih =>
    cases x with
    | none => exact absurd rfl h
    | some y =>
      have hy : inner.coerce (inner.cell y) = some y := ih y h
      rw [cell, coerce, hy]
      rfl

/-- What is read from a cell is never written as no value. -/
theorem cell_ne_null_of_coerce {t : FieldType} {c : Cell} {x : t.Carrier}
    (h : t.coerce c = some x) : t.cell x ≠ .null := by
  induction t with
  | scalar type => exact type.cell_ne_null x
  | optional inner ih =>
    obtain ⟨y, hy, rfl⟩ := Option.map_eq_some_iff.1 h
    exact ih hy

end FieldType

theorem Cell.isNull_iff {c : Cell} : c.isNull = true ↔ c = .null := by
  cases c <;> simp [isNull, type?]

instance (c : Cell) : Decidable (c = .null) := decidable_of_iff (c.isNull = true) Cell.isNull_iff

namespace Mapping

/-- Some column is bound to the field at a place. -/
def Binds (m : Mapping R) (i : R.Place) : Prop := ∃ b ∈ m.bindings, b.field = i

instance (m : Mapping R) (i : R.Place) : Decidable (m.Binds i) :=
  inferInstanceAs (Decidable (∃ b ∈ m.bindings, b.field = i))

/-- The record as far as a row can hold it: a field to which no column is bound, or which is
written as no value, is as it was at first. -/
def retained (m : Mapping R) (r : Record R) : Record R := fun i =>
  if m.Binds i ∧ (R.field i).type.cell (r i) ≠ .null then r i else (R.field i).initial

/-- Each bound column holds the cell of its field. No other binding gives the column a cell, since
the columns of a mapping are pairwise different. -/
theorem get?_encode (m : Mapping R) (r : Record R) {b : Binding R} (hb : b ∈ m.bindings) :
    (m.encode r).get? b.column = some ((R.field b.field).type.cell (r b.field)) := by
  have hnodup : ((m.bindings.map fun b =>
      (b.column, (R.field b.field).type.cell (r b.field))).map Prod.fst).Nodup := by
    rw [List.map_map]
    exact m.distinct
  have hmade := Row.Made.ofList (m.bindings.map fun b =>
    (b.column, (R.field b.field).type.cell (r b.field)))
  rw [encode, hmade.get?_eq]
  exact NameMap.last?_of_nodup hnodup (List.mem_map_of_mem hb)

variable {m : Mapping R} {r : Record R}

theorem silent_encode_iff {b : Binding R} (hb : b ∈ m.bindings) :
    b.Silent (m.encode r) ↔ (R.field b.field).type.cell (r b.field) = .null := by
  rw [Binding.Silent, m.get?_encode r hb]
  constructor
  · intro h
    exact h _ rfl
  · intro h c hc
    rw [← Option.some.inj hc]
    exact h

/-- A row that is not silent about a field offers it what the record holds there. -/
theorem offers_encode {b : Binding R} (hb : b ∈ m.bindings) (h : ¬ b.Silent (m.encode r)) :
    b.Offers (m.encode r) (r b.field) := by
  rw [silent_encode_iff hb] at h
  exact ⟨_, m.get?_encode r hb, FieldType.coerce_cell _ _ h⟩

theorem fits_encode (m : Mapping R) (r : Record R) : Fits m.bindings (m.encode r) := by
  intro b hb actual hclash
  have hoffer := offers_encode hb hclash.not_silent
  exact hoffer.not_clashes hclash

/-- Writing a record and reading it back gives what a row can hold of it. -/
theorem decode_encode (m : Mapping R) (r : Record R) :
    m.decode (m.encode r) = .ok (m.retained r) := by
  apply (m.decode_eq_ok_iff (m.encode r) (m.retained r)).2
  refine ⟨m.fits_encode r, ?_, ?_⟩
  · intro before b after x hsplit hoffer _
    have hb : b ∈ m.bindings := by simp [hsplit]
    have hcell : (R.field b.field).type.cell (r b.field) ≠ .null := by
      intro hnull
      exact hoffer.not_silent ((silent_encode_iff hb).2 hnull)
    rw [retained, if_pos ⟨⟨b, hb, rfl⟩, hcell⟩]
    exact (offers_encode hb hoffer.not_silent).unique hoffer
  · intro i hsilent
    have hlost : ¬ (m.Binds i ∧ (R.field i).type.cell (r i) ≠ .null) := by
      rintro ⟨⟨b, hb, rfl⟩, hcell⟩
      exact hcell ((silent_encode_iff hb).1 (hsilent b hb rfl))
    rw [retained, if_neg hlost]
    rfl

/-- A row can hold a record exactly if the fields that it loses are as they were at first. -/
theorem retained_eq_iff : m.retained r = r ↔
    (∀ i, m.Binds i → (R.field i).type.cell (r i) = .null → r i = (R.field i).initial) ∧
      ∀ i, ¬ m.Binds i → r i = (R.field i).initial := by
  constructor
  · intro h
    have hlost : ∀ i, ¬ (m.Binds i ∧ (R.field i).type.cell (r i) ≠ .null) →
        r i = (R.field i).initial := by
      intro i hi
      have heq := congrFun h i
      rw [retained, if_neg hi] at heq
      exact heq.symm
    refine ⟨?_, ?_⟩
    · intro i _ hnull
      apply hlost i
      rintro ⟨-, hcell⟩
      exact hcell hnull
    · intro i hunbound
      apply hlost i
      rintro ⟨hbound, -⟩
      exact hunbound hbound
  · rintro ⟨hnull, hunbound⟩
    funext i
    rw [retained]
    split
    · rfl
    · rename_i hlost
      by_cases hbound : m.Binds i
      · have hcell : (R.field i).type.cell (r i) = .null := by
          by_contra hvalue
          exact hlost ⟨hbound, hvalue⟩
        exact (hnull i hbound hcell).symm
      · exact (hunbound i hbound).symm

/-- A record that was read from a row lost nothing: a field that was set holds what is written as a
value, and all the others are as they were at first. -/
theorem retained_of_decode {row : Row} (h : m.decode row = .ok r) : m.retained r = r := by
  obtain ⟨hfits, hfilled⟩ := (m.decode_eq_ok_iff row r).1 h
  apply retained_eq_iff.2
  refine ⟨?_, ?_⟩
  · intro i _ hnull
    rcases exists_last_offer i m.bindings hfits with
      hsilent | ⟨before, b, after, x, hsplit, rfl, hoffer, hafter⟩
    · exact hfilled.kept i hsilent
    · rw [hfilled.last before b after x hsplit hoffer hafter] at hnull
      obtain ⟨c, -, hx⟩ := hoffer
      exact absurd hnull (FieldType.cell_ne_null_of_coerce hx)
  · intro i hunbound
    apply hfilled.kept i
    intro b hb hbi
    exact absurd ⟨b, hb, hbi⟩ hunbound

/-- Reading the row of a record always gives a record. It gives the same one exactly if every bound
field that is written as no value, and every field that no column is bound to, holds its initial
value. So a record that was read from any row is the one that its own row is read as. -/
theorem decode_encode_eq_iff (m : Mapping R) (r : Record R) :
    (∃ r', m.decode (m.encode r) = .ok r') ∧
      (m.decode (m.encode r) = .ok r ↔
        (∀ i, m.Binds i → (R.field i).type.cell (r i) = .null → r i = (R.field i).initial) ∧
          ∀ i, ¬ m.Binds i → r i = (R.field i).initial) ∧
      ∀ row, m.decode row = .ok r → m.decode (m.encode r) = .ok r := by
  refine ⟨⟨m.retained r, m.decode_encode r⟩, ?_, ?_⟩
  · rw [decode_encode, Except.ok.injEq, retained_eq_iff]
  · intro row hdecode
    rw [decode_encode, retained_of_decode hdecode]

end Mapping

end Recordset
