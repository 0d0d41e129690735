import Recordset.Cell
import Recordset.Proofs.ShortestNumeral
import Recordset.Term.Basic

/-!
# Equality of numbers, constants and cells

Equality is structural but for numbers with a fraction, where the two zeros are equal and what is no
number equals nothing. `EqualUpTo` says this once: two values are equal exactly if they have one
plain form, in which zero stands for negative zero, and hold nothing that is no number. Any such
equality is symmetric and transitive, and a value equals itself exactly if it is proper
(`EqualUpTo.symm`, `EqualUpTo.trans`, `EqualUpTo.self_iff`). `Binary64.equalUpTo` is the case of
numbers, from which those of constants and cells follow.
-/

set_option autoImplicit false

namespace Recordset

/-- Two values are equal exactly if they have one plain form and are proper, and values with one
plain form are proper together. -/
structure EqualUpTo {α : Type} (plain : α → α) (proper : α → Prop) (equal : α → α → Bool) :
    Prop where
  iff : ∀ a b, equal a b = true ↔ plain a = plain b ∧ proper a
  proper_congr : ∀ a b, plain a = plain b → (proper a ↔ proper b)

namespace EqualUpTo

variable {α : Type} {plain : α → α} {proper : α → Prop} {equal : α → α → Bool}

theorem symm (h : EqualUpTo plain proper equal) (a b : α) : equal a b = equal b a := by
  rw [Bool.eq_iff_iff, h.iff, h.iff]
  constructor
  · rintro ⟨hplain, hproper⟩
    exact ⟨hplain.symm, (h.proper_congr a b hplain).1 hproper⟩
  · rintro ⟨hplain, hproper⟩
    exact ⟨hplain.symm, (h.proper_congr b a hplain).1 hproper⟩

theorem trans (h : EqualUpTo plain proper equal) {a b c : α} (hab : equal a b = true)
    (hbc : equal b c = true) : equal a c = true := by
  rw [h.iff] at hab hbc ⊢
  exact ⟨hab.1.trans hbc.1, hab.2⟩

theorem self_iff (h : EqualUpTo plain proper equal) (a : α) : equal a a = true ↔ proper a := by
  rw [h.iff]
  exact and_iff_right rfl

/-- The same for values that need not be there: they are there together, and then they are equal. -/
theorem option_iff (h : EqualUpTo plain proper equal) (o p : Option α) :
    (o.map plain = p.map plain ∧ ∀ a, o = some a → proper a) ↔
      (o.isSome = true ↔ p.isSome = true) ∧
        ∀ a b, o = some a → p = some b → equal a b = true := by
  cases o with
  | none => cases p <;> simp
  | some a => cases p <;> simp [h.iff]

end EqualUpTo

namespace Binary64

/-- Whether the sign bit is set and no other. -/
def isNegativeZero (x : Binary64) : Bool := x.isNegative && x.magnitude == 0

/-- The number, zero taken for negative zero. -/
def plainZero (x : Binary64) : Binary64 := if x.isNegativeZero then zero else x

theorem plainZero_of_zero {x : Binary64} (h : x.magnitude = 0) : x.plainZero = zero := by
  cases hsign : x.isNegative with
  | true => simp [plainZero, isNegativeZero, hsign, h]
  | false =>
    have hzero : x = zero := eq_of_magnitude hsign h
    rw [hzero]
    rfl

theorem plainZero_of_ne_zero {x : Binary64} (h : x.magnitude ≠ 0) : x.plainZero = x := by
  simp [plainZero, isNegativeZero, h]

@[simp] theorem magnitude_plainZero (x : Binary64) : x.plainZero.magnitude = x.magnitude := by
  by_cases h : x.magnitude = 0
  · rw [plainZero_of_zero h, h]
    rfl
  · rw [plainZero_of_ne_zero h]

@[simp] theorem isNaN_plainZero (x : Binary64) : x.plainZero.isNaN = x.isNaN := by
  rw [isNaN, isNaN, magnitude_plainZero]

@[simp] theorem isFinite_plainZero (x : Binary64) : x.plainZero.isFinite = x.isFinite := by
  rw [isFinite, isFinite, magnitude_plainZero]

/-- Taking zero for negative zero makes the two zeros one and keeps all other numbers apart. -/
theorem plainZero_eq_iff {x y : Binary64} :
    x.plainZero = y.plainZero ↔ x = y ∨ x.magnitude = 0 ∧ y.magnitude = 0 := by
  constructor
  · intro h
    have hmagnitude := congrArg magnitude h
    rw [magnitude_plainZero, magnitude_plainZero] at hmagnitude
    by_cases hx : x.magnitude = 0
    · exact Or.inr ⟨hx, hmagnitude ▸ hx⟩
    · have hy : y.magnitude ≠ 0 := hmagnitude ▸ hx
      rw [plainZero_of_ne_zero hx, plainZero_of_ne_zero hy] at h
      exact Or.inl h
  · rintro (rfl | ⟨hx, hy⟩)
    · rfl
    · rw [plainZero_of_zero hx, plainZero_of_zero hy]

/-- Numbers are equal up to the sign of zero, and what is no number equals nothing. -/
theorem equalUpTo : EqualUpTo plainZero (fun x => x.isNaN = false) equal where
  iff x y := by
    have hbits : x.bits = y.bits ↔ x = y := ⟨fun h => by cases x; cases y; cases h; rfl, congrArg _⟩
    simp only [equal, Bool.and_eq_true, Bool.not_eq_true', Bool.or_eq_true, beq_iff_eq, hbits,
      ← plainZero_eq_iff]
    constructor
    · rintro ⟨⟨hx, -⟩, hplain⟩
      exact ⟨hplain, hx⟩
    · rintro ⟨hplain, hx⟩
      refine ⟨⟨hx, ?_⟩, hplain⟩
      rw [← isNaN_plainZero y, ← hplain, isNaN_plainZero, hx]
  proper_congr x y h := by rw [← isNaN_plainZero x, h, isNaN_plainZero]

end Binary64

/-- The constant, zero taken for negative zero. -/
def Literal.plainZero : Literal → Literal
  | .real x => .real x.plainZero
  | l => l

/-- Constants are equal up to the sign of zero, unless they are no numbers. -/
theorem Literal.equalUpTo :
    EqualUpTo plainZero (fun l => ∀ x, l = .real x → x.isNaN = false) equal where
  iff l k := by
    cases l <;> cases k <;> simp [equal, plainZero, Binary64.equalUpTo.iff]
  proper_congr l k h := by
    cases l with
    | real x =>
      cases k with
      | real y =>
        have hproper := Binary64.equalUpTo.proper_congr x y (real.inj h)
        simpa only [real.injEq, forall_eq'] using hproper
      | _ => cases h
    | _ => cases k <;> simp_all [plainZero]

/-- The cell, zero taken for negative zero. -/
def Cell.plainZero : Cell → Cell
  | .float64 x => .float64 x.plainZero
  | c => c

/-- Cells are equal up to the sign of zero, unless they hold what is no number. -/
theorem Cell.equalUpTo :
    EqualUpTo plainZero (fun c => ∀ x, c = .float64 x → x.isNaN = false) equal where
  iff c d := by
    cases c <;> cases d <;> simp [equal, plainZero, Binary64.equalUpTo.iff]
  proper_congr c d h := by
    cases c with
    | float64 x =>
      cases d with
      | float64 y =>
        have hproper := Binary64.equalUpTo.proper_congr x y (float64.inj h)
        simpa only [float64.injEq, forall_eq'] using hproper
      | _ => cases h
    | _ => cases d <;> simp_all [plainZero]

end Recordset
