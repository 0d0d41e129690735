import Recordset.Proofs.RowDecoding

/-!
# What a cell is as a field

A field type is a column type under some optional layers (`FieldType.layered`). The layers decide
nothing: a cell is read as such a field exactly if it is read as a value of the column type, and
the field holds that value under all of its layers (`coerce_layered`). Nor does the width of an
integer: a cell that holds an integer is read by its value alone, and a field of either width holds
that very integer or cannot take it (`coerce_int32_eq_some_iff`, `coerce_int64_eq_some_iff`).
`coerce_keeps_integers` is the top theorem.
-/

set_option autoImplicit false

namespace Recordset

/-- The integer that a cell holds, whichever its width. -/
def Cell.integer? : Cell → Option Int
  | int32 n => some n.toInt
  | int64 n => some n.toInt
  | null | boolean _ | float64 _ | varchar _ => none

namespace ScalarType

theorem toInt_widened (n : Int32) : (Int64.ofInt n.toInt).toInt = n.toInt := by
  have hlower := n.le_toInt
  have hupper := n.toInt_lt
  exact Int64.toInt_ofInt_of_le (by omega) (by omega)

/-- Narrowing finds the integer of 32 bits with the same value, wherever there is one. -/
theorem narrow?_eq_some_iff {n : Int64} {x : Int32} :
    narrow? n = some x ↔ n.toInt = x.toInt := by
  rw [narrow?]
  split
  · rename_i hrange
    have hvalue : (Int32.ofInt n.toInt).toInt = n.toInt :=
      Int32.toInt_ofInt_of_le (by omega) (by omega)
    rw [Option.some.injEq, ← Int32.toInt_inj, hvalue]
  · rename_i hrange
    have hlower := x.le_toInt
    have hupper := x.toInt_lt
    constructor
    · intro h
      cases h
    · intro h
      omega

theorem isSome_narrow?_iff (n : Int64) :
    (narrow? n).isSome = true ↔ -0x80000000 ≤ n.toInt ∧ n.toInt ≤ 0x7FFFFFFF := by
  rw [narrow?]
  split
  · simp only [Option.isSome_some, true_iff]
    omega
  · simp only [Option.isSome_none, Bool.false_eq_true, false_iff]
    omega

/-- A cell is read as an integer of 32 bits exactly if it holds that integer. -/
theorem coerce_int32_eq_some_iff {c : Cell} {x : Int32} :
    int32.coerce c = some x ↔ c.integer? = some x.toInt := by
  cases c with
  | int32 n =>
    show (some n : Option Int32) = some x ↔ some n.toInt = some x.toInt
    rw [Option.some.injEq, Option.some.injEq, Int32.toInt_inj]
  | int64 n =>
    show narrow? n = some x ↔ some n.toInt = some x.toInt
    rw [Option.some.injEq]
    exact narrow?_eq_some_iff
  | _ => exact iff_of_false nofun nofun

/-- A cell is read as an integer of 64 bits exactly if it holds that integer. -/
theorem coerce_int64_eq_some_iff {c : Cell} {x : Int64} :
    int64.coerce c = some x ↔ c.integer? = some x.toInt := by
  cases c with
  | int32 n =>
    show some (Int64.ofInt n.toInt) = some x ↔ some n.toInt = some x.toInt
    rw [Option.some.injEq, Option.some.injEq, ← Int64.toInt_inj, toInt_widened]
  | int64 n =>
    show (some n : Option Int64) = some x ↔ some n.toInt = some x.toInt
    rw [Option.some.injEq, Option.some.injEq, Int64.toInt_inj]
  | _ => exact iff_of_false nofun nofun

/-- Cells with one integer are read alike, whatever their widths. -/
theorem coerce_widened (t : ScalarType) (n : Int32) :
    t.coerce (.int32 n) = t.coerce (.int64 (Int64.ofInt n.toInt)) := by
  cases t with
  | boolean => rfl
  | int32 => exact (narrow?_eq_some_iff.2 (toInt_widened n)).symm
  | int64 => rfl
  | float64 =>
    show some (Binary64.ofInt n.toInt) = some (Binary64.ofInt (Int64.ofInt n.toInt).toInt)
    rw [toInt_widened]
  | varchar => rfl

end ScalarType

namespace FieldType

/-- The type of a field with some optional layers over a column type. -/
def layered (t : ScalarType) : Nat → FieldType
  | 0 => scalar t
  | k + 1 => optional (layered t k)

/-- A value that is present under every optional layer. -/
def present {t : ScalarType} : (k : Nat) → t.Carrier → (layered t k).Carrier
  | 0, x => x
  | k + 1, x => some (present k x)

theorem exists_layered (F : FieldType) : ∃ t k, F = layered t k := by
  induction F with
  | scalar t => exact ⟨t, 0, rfl⟩
  | optional inner ih =>
    obtain ⟨t, k, rfl⟩ := ih
    exact ⟨t, k + 1, rfl⟩

theorem column_layered (t : ScalarType) (k : Nat) : (layered t k).column = t := by
  induction k with
  | zero => rfl
  | succ k ih => exact ih

/-- A field is declared with the column type that it has under its optional layers. -/
theorem exists_layered_column (F : FieldType) : ∃ k, F = layered F.column k := by
  obtain ⟨t, k, hF⟩ := F.exists_layered
  refine ⟨k, ?_⟩
  rw [hF, column_layered]

/-- Optional layers pass on what the column type reads, by induction over the layers: none of them
takes a cell that the one below refuses. -/
theorem coerce_layered (t : ScalarType) (k : Nat) (c : Cell) :
    (layered t k).coerce c = (t.coerce c).map (present k) := by
  induction k with
  | zero => exact Option.map_id'.symm
  | succ k ih =>
    show ((layered t k).coerce c).map some = (t.coerce c).map (some ∘ present k)
    rw [ih, Option.map_map]

theorem coerce_widened (F : FieldType) (n : Int32) :
    F.coerce (.int32 n) = F.coerce (.int64 (Int64.ofInt n.toInt)) := by
  obtain ⟨t, k, rfl⟩ := F.exists_layered
  rw [coerce_layered, coerce_layered, t.coerce_widened]

/-- What a field under optional layers holds, where reading it is reading the column type. -/
theorem coerce_layered_eq_some_iff {t : ScalarType} {k : Nat} {c : Cell}
    {y : (layered t k).Carrier} :
    (layered t k).coerce c = some y ↔ ∃ x, t.coerce c = some x ∧ y = present k x := by
  rw [coerce_layered, Option.map_eq_some_iff]
  simp only [eq_comm]

/-- A field type is a column type under some number of optional layers. Whatever that number, a cell
is read as the field exactly if it is read as a value of the column type, and the field then has
that value under every layer; a cell without a value is read as no field at all. Integers of 32
bits are read alike from cells of either width. An integer of 64 bits is read as one of 32 exactly
if it is in their range, and a field of either width holds an integer exactly if the cell does, so
no integer is ever wrapped or cut. -/
theorem coerce_keeps_integers :
    (∀ F : FieldType, (∃ t k, F = layered t k) ∧ F.coerce .null = none ∧
        ∀ n : Int32, F.coerce (.int32 n) = F.coerce (.int64 (Int64.ofInt n.toInt))) ∧
      (∀ t k c, (layered t k).coerce c = (t.coerce c).map (present k)) ∧
      (∀ k (n : Int64), ((layered .int32 k).coerce (.int64 n)).isSome = true ↔
        -0x80000000 ≤ n.toInt ∧ n.toInt ≤ 0x7FFFFFFF) ∧
      (∀ k c y, (layered .int32 k).coerce c = some y ↔
        ∃ x : Int32, c.integer? = some x.toInt ∧ y = present (t := .int32) k x) ∧
      ∀ k c y, (layered .int64 k).coerce c = some y ↔
        ∃ x : Int64, c.integer? = some x.toInt ∧ y = present (t := .int64) k x := by
  refine ⟨?_, coerce_layered, ?_, ?_, ?_⟩
  · intro F
    exact ⟨F.exists_layered, F.coerce_null, F.coerce_widened⟩
  · intro k n
    rw [coerce_layered, Option.isSome_map]
    exact ScalarType.isSome_narrow?_iff n
  · intro k c y
    rw [coerce_layered_eq_some_iff]
    exact exists_congr fun x => and_congr_left' ScalarType.coerce_int32_eq_some_iff
  · intro k c y
    rw [coerce_layered_eq_some_iff]
    exact exists_congr fun x => and_congr_left' ScalarType.coerce_int64_eq_some_iff

end FieldType

end Recordset
