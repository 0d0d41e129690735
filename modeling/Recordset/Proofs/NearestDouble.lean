import Recordset.Binary64.Rounding
import Recordset.Proofs.ShortestNumeral

/-!
# Rounding finds the nearest double

A quotient is rounded by dropping the bits that a double has no room for. What is kept is the
nearest natural to the quotient on a grid whose step is a power of two (`divideToEven_nearest`), and
the magnitudes of one exponent are the points of such a grid (`units_add`). So the quotient lies
between the midpoints around the magnitude that rounding gives (`within_nearest`), and since no
other magnitude has it between its own, rounding gives the magnitude that has
(`nearest_eq_of_within`). To lie between these midpoints is to have no double nearer, nor an even
one as near if the magnitude is odd (`isRounded_of_within` is the top lemma).
-/

set_option autoImplicit false

namespace Recordset

namespace Binary64

open Decimal (Within midpointBelow midpointAbove)

/-- A natural is nearest to the quotient `p / d`: they are half a step apart at most, and less than
that if the natural is odd. -/
structure NearestTo (p d k : Nat) : Prop where
  below : 2 * (k * d) ≤ 2 * p + d
  above : 2 * p ≤ 2 * (k * d) + d
  odd : k % 2 = 1 → 2 * (k * d) < 2 * p + d ∧ 2 * p < 2 * (k * d) + d

theorem divideToEven_nearest (p : Nat) {d : Nat} (hd : 0 < d) :
    NearestTo p d (divideToEven p d) := by
  have hsplit : p / d * d + p % d = p := by
    rw [Nat.mul_comm]
    exact Nat.div_add_mod p d
  have hrest : p % d < d := Nat.mod_lt p hd
  have hnext : (p / d + 1) * d = p / d * d + d := Nat.succ_mul _ _
  unfold divideToEven
  dsimp only
  split
  · constructor <;> omega
  · split
    · constructor <;> rw [hnext] <;> omega
    · split
      · constructor <;> omega
      · constructor <;> rw [hnext] <;> omega

/-- Magnitudes of one exponent are the points of a grid, and the last point of a grid is the first
one of the next. The grid of single units begins at zero. -/
theorem units_add {k e : Nat} (hlow : 0 < e → binade ≤ k) (hhigh : k ≤ 2 * binade) :
    units (k + e * binade) = k * 2 ^ e := by
  rw [binade_eq] at hlow hhigh ⊢
  unfold units
  rw [binade_eq]
  by_cases hsmall : k + e * 4503599627370496 < 4503599627370496
  · have he : e = 0 := by omega
    rw [if_pos hsmall, he, Nat.zero_mul, Nat.pow_zero, Nat.add_zero, Nat.mul_one]
  · rw [if_neg hsmall]
    rcases Nat.lt_or_eq_of_le hhigh with hinner | rfl
    · have hdiv : (k + e * 4503599627370496) / 4503599627370496 - 1 = e := by omega
      have hmod : 4503599627370496 + (k + e * 4503599627370496) % 4503599627370496 = k := by omega
      rw [hdiv, hmod]
      rfl
    · have hdiv : (2 * 4503599627370496 + e * 4503599627370496) / 4503599627370496 - 1 = e + 1 := by
        omega
      have hmod : (2 * 4503599627370496 + e * 4503599627370496) % 4503599627370496 = 0 := by omega
      rw [hdiv, hmod]
      show 4503599627370496 * 2 ^ (e + 1) = _
      rw [Nat.pow_succ]
      omega

/-- The next magnitude is a step away at least. -/
theorem le_units_succ {k e : Nat} (hlow : 0 < e → binade ≤ k) (hhigh : k ≤ 2 * binade) :
    (k + 1) * 2 ^ e ≤ units (k + e * binade + 1) := by
  rcases Nat.lt_or_eq_of_le hhigh with hinner | rfl
  · have hnext : k + e * binade + 1 = k + 1 + e * binade := by omega
    rw [hnext, units_add (fun he => Nat.le_succ_of_le (hlow he)) hinner]
  · -- Past the last point of a grid the step is twice as long.
    have hnext : 2 * binade + e * binade + 1 = binade + 1 + (e + 1) * binade := by ring
    rw [hnext, units_add (fun _ => Nat.le_succ binade) (by decide)]
    calc
      (2 * binade + 1) * 2 ^ e ≤ (2 * binade + 2) * 2 ^ e := Nat.mul_le_mul_right _ (by omega)
      _ = (binade + 1) * 2 ^ (e + 1) := by ring

/-- Within a grid the magnitude before is one step away. -/
theorem units_pred_add {k e : Nat} (hpos : 0 < k) (hlow : 0 < e → binade < k)
    (hhigh : k ≤ 2 * binade) : units (k + e * binade - 1) + 2 ^ e = k * 2 ^ e := by
  obtain ⟨j, rfl⟩ := Nat.exists_eq_add_of_lt hpos
  have hprevious : 0 + j + 1 + e * binade - 1 = j + e * binade := by omega
  rw [hprevious, units_add (fun he => by have := hlow he; omega) (by omega)]
  ring

/-- What is kept of a quotient has fifty-three bits at most, or just one unit more than these can
hold, and if bits were dropped it has no fewer. -/
structure Kept (p q e k : Nat) : Prop where
  nearest : NearestTo p (q * 2 ^ e) k
  high : k ≤ 2 * binade
  low : 0 < e → binade * (q * 2 ^ e) ≤ p

theorem Kept.binade_le {p q e k : Nat} (h : Kept p q e k) (hq : 0 < q) (he : 0 < e) :
    binade ≤ k := by
  have hd : 0 < q * 2 ^ e := Nat.mul_pos hq (Nat.two_pow_pos e)
  have hdouble : 2 * binade * (q * 2 ^ e) ≤ (2 * k + 1) * (q * 2 ^ e) := by
    have hlow := h.low he
    have habove := h.nearest.above
    calc
      2 * binade * (q * 2 ^ e) = 2 * (binade * (q * 2 ^ e)) := Nat.mul_assoc _ _ _
      _ ≤ 2 * (k * (q * 2 ^ e)) + q * 2 ^ e := by omega
      _ = (2 * k + 1) * (q * 2 ^ e) := by ring
  have hle : 2 * binade ≤ 2 * k + 1 := Nat.le_of_mul_le_mul_right hdouble hd
  omega

theorem kept_divideToEven (p : Nat) {q : Nat} (hq : 0 < q) :
    Kept p q (droppedBits (p / q)) (divideToEven p (q * 2 ^ droppedBits (p / q))) := by
  have hd : 0 < q * 2 ^ droppedBits (p / q) := Nat.mul_pos hq (Nat.two_pow_pos _)
  have hnearest := divideToEven_nearest p hd
  refine ⟨hnearest, ?_, ?_⟩
  · -- The quotient has no more bits than are kept and dropped.
    have hbits : p / q < 2 * binade * 2 ^ droppedBits (p / q) := by
      have hpow : 2 * binade = 2 ^ 53 := rfl
      rw [hpow, ← Nat.pow_add]
      exact Nat.lt_of_lt_of_le Nat.lt_log2_self
        (Nat.pow_le_pow_right (by decide) (by unfold droppedBits; omega))
    have hlt : p < 2 * binade * (q * 2 ^ droppedBits (p / q)) := by
      have hmul := (Nat.div_lt_iff_lt_mul hq).1 hbits
      calc
        p < 2 * binade * 2 ^ droppedBits (p / q) * q := hmul
        _ = 2 * binade * (q * 2 ^ droppedBits (p / q)) := by ring
    have hbelow := hnearest.below
    generalize divideToEven p (q * 2 ^ droppedBits (p / q)) = k at hbelow ⊢
    generalize q * 2 ^ droppedBits (p / q) = d at hd hlt hbelow
    by_contra hover
    have hmore : (2 * binade + 1) * d ≤ k * d := Nat.mul_le_mul_right d (by omega)
    rw [Nat.succ_mul] at hmore
    omega
  · intro hdropped
    have hne : p / q ≠ 0 := by
      intro hzero
      rw [hzero] at hdropped
      exact absurd hdropped (by decide)
    have hbits : binade * 2 ^ droppedBits (p / q) ≤ p / q := by
      have hpow : binade = 2 ^ 52 := rfl
      have hlog : 52 + droppedBits (p / q) = (p / q).log2 := by
        unfold droppedBits at hdropped ⊢
        omega
      rw [hpow, ← Nat.pow_add, hlog]
      exact Nat.log2_self_le hne
    have hmul := (Nat.le_div_iff_mul_le hq).1 hbits
    calc
      binade * (q * 2 ^ droppedBits (p / q)) = binade * 2 ^ droppedBits (p / q) * q := by ring
      _ ≤ p := hmul

/-- Twice the quotient lies below the midpoint above the magnitude that is kept. -/
theorem Kept.above {p q e k : Nat} (h : Kept p q e k) (hq : 0 < q) :
    2 * p ≤ midpointAbove (k + e * binade) * q ∧
      (k % 2 = 1 → 2 * p < midpointAbove (k + e * binade) * q) := by
  have hlow := h.binade_le hq
  have hspan : 2 * (k * (q * 2 ^ e)) + q * 2 ^ e ≤ midpointAbove (k + e * binade) * q := by
    have hunits := units_add hlow h.high
    have hnext := le_units_succ hlow h.high
    calc
      2 * (k * (q * 2 ^ e)) + q * 2 ^ e = (k * 2 ^ e + (k + 1) * 2 ^ e) * q := by ring
      _ ≤ midpointAbove (k + e * binade) * q := by
        unfold midpointAbove
        exact Nat.mul_le_mul_right q (by omega)
  exact ⟨Nat.le_trans h.nearest.above hspan,
    fun hodd => Nat.lt_of_lt_of_le (h.nearest.odd hodd).2 hspan⟩

/-- Twice the quotient lies above the midpoint below the magnitude that is kept. -/
theorem Kept.below {p q e k : Nat} (h : Kept p q e k) (hq : 0 < q) :
    midpointBelow (k + e * binade) * q ≤ 2 * p ∧
      (k % 2 = 1 → midpointBelow (k + e * binade) * q < 2 * p) := by
  have hlow := h.binade_le hq
  have hunits := units_add hlow h.high
  by_cases hinner : 0 < k ∧ (0 < e → binade < k)
  · have hprevious := units_pred_add hinner.1 hinner.2 h.high
    have hspan : midpointBelow (k + e * binade) * q + q * 2 ^ e = 2 * (k * (q * 2 ^ e)) := by
      unfold midpointBelow
      calc
        (units (k + e * binade - 1) + units (k + e * binade)) * q + q * 2 ^ e =
            (units (k + e * binade - 1) + 2 ^ e + units (k + e * binade)) * q := by ring
        _ = 2 * (k * (q * 2 ^ e)) := by
          rw [hprevious, hunits]
          ring
    have hbelow := h.nearest.below
    refine ⟨by omega, fun hodd => ?_⟩
    have hstrict := (h.nearest.odd hodd).1
    omega
  · have hfirst : e = 0 ∧ k = 0 ∨ 0 < e ∧ k = binade := by
      rcases Nat.eq_zero_or_pos e with he | he
      · exact Or.inl ⟨he, by omega⟩
      · have hbinade := binade_eq
        have := hlow he
        exact Or.inr ⟨he, by omega⟩
    rcases hfirst with ⟨rfl, rfl⟩ | ⟨he, rfl⟩
    · refine ⟨?_, fun hodd => absurd hodd (by decide)⟩
      rw [Nat.zero_mul]
      exact Nat.le_trans (Nat.le_of_eq (Nat.zero_mul q)) (Nat.zero_le _)
    · -- The step below the first point of a grid is shorter, but the quotient is no less than it.
      refine ⟨?_, fun hodd => absurd hodd (by decide)⟩
      have hprevious : units (binade + e * binade - 1) ≤ units (binade + e * binade) :=
        units_strictMono.monotone (Nat.sub_le _ 1)
      have hsize := h.low he
      unfold midpointBelow
      calc
        (units (binade + e * binade - 1) + units (binade + e * binade)) * q ≤
            (units (binade + e * binade) + units (binade + e * binade)) * q :=
          Nat.mul_le_mul_right q (by omega)
        _ = 2 * (binade * (q * 2 ^ e)) := by
          rw [hunits]
          ring
        _ ≤ 2 * p := by omega

theorem within_of_counts {m a q : Nat} (hq : 0 < q) (hbelow : midpointBelow m * q ≤ a)
    (habove : a ≤ midpointAbove m * q)
    (hodd : m % 2 = 1 → midpointBelow m * q < a ∧ a < midpointAbove m * q) :
    Within m ((a : ℚ) / q) := by
  have hpos : (0 : ℚ) < q := Nat.cast_pos.2 hq
  unfold Within
  split
  · rw [le_div_iff₀ hpos, div_le_iff₀ hpos]
    exact_mod_cast And.intro hbelow habove
  · rename_i hnot
    rw [lt_div_iff₀ hpos, div_lt_iff₀ hpos]
    exact_mod_cast hodd (by omega)

/-- The magnitude that is kept has the quotient between its midpoints. -/
theorem Kept.within {p q e k : Nat} (h : Kept p q e k) (hq : 0 < q) :
    Within (k + e * binade) (((2 * p : Nat) : ℚ) / q) := by
  refine within_of_counts hq (h.below hq).1 (h.above hq).1 fun hodd => ?_
  have hparity : k % 2 = 1 := by
    rw [binade_eq] at hodd
    omega
  exact ⟨(h.below hq).2 hparity, (h.above hq).2 hparity⟩

/-- Whatever power of two a quotient is counted in, the magnitude that is kept of it has it between
its midpoints. -/
theorem within_kept (p : Nat) {q : Nat} (hq : 0 < q) (k : Nat) :
    Within (divideToEven (p * Nat.pow 2 k) (q * Nat.pow 2 (droppedBits (p * Nat.pow 2 k / q))) +
      droppedBits (p * Nat.pow 2 k / q) * binade) ((p : ℚ) / q * 2 ^ (k + 1)) := by
  have hcounts : (p : ℚ) / q * 2 ^ (k + 1) = ((2 * (p * Nat.pow 2 k) : Nat) : ℚ) / q := by
    rw [Nat.cast_mul, Nat.cast_mul, Decimal.cast_natPow, pow_succ]
    push_cast
    ring
  rw [hcounts]
  exact (kept_divideToEven (p * Nat.pow 2 k) hq).within hq

theorem nearest_le_infinityMagnitude (p q : Nat) : nearest p q ≤ infinityMagnitude :=
  Nat.min_le_right _ _

/-- A quotient that rounds to a finite magnitude lies between the midpoints around it. -/
theorem within_nearest {p q : Nat} (hq : 0 < q) (h : nearest p q < infinityMagnitude) :
    Within (nearest p q) ((p : ℚ) / q * 2 ^ 1075) := by
  have hkept := within_kept p hq 1074
  unfold nearest at h ⊢
  dsimp only at h ⊢
  rwa [Nat.min_eq_left (by omega)]

/-- A finite magnitude that has a quotient between its midpoints is the one that the quotient
rounds to. -/
theorem nearest_eq_of_within {p q m : Nat} (hq : 0 < q) (hm : m < infinityMagnitude)
    (h : Within m ((p : ℚ) / q * 2 ^ 1075)) : nearest p q = m := by
  have hkept := Decimal.eq_of_within (within_kept p hq 1074) h
  unfold nearest
  dsimp only
  rw [hkept]
  exact Nat.min_eq_left (Nat.le_of_lt hm)

/-! The nearest double to a number with a sign -/

/-- The rational number of a sign and a size. -/
def signed (negative : Bool) (size : ℚ) : ℚ := if negative then -size else size

/-- The size of a double. Infinity has the size that would come next if there were more
exponents, which is what it stands for when a number is rounded. -/
def size (x : Binary64) : ℚ := units x.magnitude / 2 ^ 1074

/-- The rational number that a double stands for. -/
def value (x : Binary64) : ℚ := signed x.isNegative x.size

/-- A double is what a number rounds to: no double is nearer, and if another one is as near, it
is the even one of the two. -/
structure IsRounded (v : ℚ) (x : Binary64) : Prop where
  nearest : ∀ y : Binary64, y.isNaN = false → |v - x.value| ≤ |v - y.value|
  even : ∀ y : Binary64, y.isNaN = false → |v - x.value| = |v - y.value| →
    y.value = x.value ∨ x.magnitude % 2 = 0

theorem size_nonneg (x : Binary64) : 0 ≤ x.size :=
  div_nonneg (Nat.cast_nonneg _) (pow_nonneg (by decide) _)

theorem abs_signed (negative : Bool) {v : ℚ} (hv : 0 ≤ v) : |signed negative v| = v := by
  cases negative with
  | true => exact (abs_neg v).trans (abs_of_nonneg hv)
  | false => exact abs_of_nonneg hv

theorem units_zero : units 0 = 0 := rfl

theorem size_zero : zero.size = 0 := by
  have hmagnitude : zero.magnitude = 0 := rfl
  unfold size
  rw [hmagnitude, units_zero, Nat.cast_zero, zero_div]

theorem signed_zero (negative : Bool) : signed negative 0 = 0 := by
  cases negative with
  | true => exact neg_zero
  | false => rfl

theorem abs_value (x : Binary64) : |x.value| = x.size := abs_signed x.isNegative x.size_nonneg

/-- Numbers of one sign are as far apart as their sizes. -/
theorem abs_signed_sub (s : Bool) (v w : ℚ) : |signed s v - signed s w| = |v - w| := by
  cases s with
  | true =>
    have hneg : -v - -w = -(v - w) := by ring
    show |-v - -w| = |v - w|
    rw [hneg, abs_neg]
  | false => rfl

/-- Numbers of different signs are as far apart as their sizes come to together. -/
theorem abs_signed_add {s t : Bool} (h : s ≠ t) {v w : ℚ} (hv : 0 ≤ v) (hw : 0 ≤ w) :
    |signed s v - signed t w| = v + w := by
  have hsum : 0 ≤ v + w := add_nonneg hv hw
  cases s <;> cases t
  · exact absurd rfl h
  · have hsub : v - -w = v + w := by ring
    show |v - -w| = v + w
    rw [hsub, abs_of_nonneg hsum]
  · have hsub : -v - w = -(v + w) := by ring
    show |-v - w| = v + w
    rw [hsub, abs_neg, abs_of_nonneg hsum]
  · exact absurd rfl h

/-- Of two points the nearer one is on the same side of the middle. -/
theorem abs_sub_le_iff_middle (v a b : ℚ) :
    |v - a| ≤ |v - b| ↔ 0 ≤ (a - b) * (2 * v - (a + b)) := by
  have hsquares : (v - b) ^ 2 - (v - a) ^ 2 = (a - b) * (2 * v - (a + b)) := by ring
  rw [← sq_le_sq, ← hsquares, sub_nonneg]

theorem abs_sub_eq_iff_middle (v a b : ℚ) :
    |v - a| = |v - b| ↔ (a - b) * (2 * v - (a + b)) = 0 := by
  have hsquares : (v - b) ^ 2 - (v - a) ^ 2 = (a - b) * (2 * v - (a + b)) := by ring
  rw [← sq_eq_sq_iff_abs_eq_abs, ← hsquares, sub_eq_zero, eq_comm]

/-- The middle of two sizes, in the units of midpoints. -/
theorem size_add (x y : Binary64) :
    x.size + y.size = 2 * (((units x.magnitude + units y.magnitude : Nat) : ℚ) / 2 ^ 1075) := by
  have hsum : ∀ k : Nat, (units x.magnitude : ℚ) / 2 ^ k + (units y.magnitude : ℚ) / 2 ^ k =
      2 * (((units x.magnitude + units y.magnitude : Nat) : ℚ) / 2 ^ (k + 1)) := by
    intro k
    rw [pow_succ]
    push_cast
    field_simp
  exact hsum 1074

theorem size_lt_iff (x y : Binary64) : x.size < y.size ↔ x.magnitude < y.magnitude := by
  unfold size
  rw [div_lt_div_iff_of_pos_right (pow_pos (by decide) _), Nat.cast_lt, units_strictMono.lt_iff_lt]

/-- A size is the nearest one to a number between its midpoints, and if another size is as near,
it is even. -/
theorem size_nearest {x : Binary64} {v : ℚ} (h : Within x.magnitude (v * 2 ^ 1075))
    (y : Binary64) : |v - x.size| ≤ |v - y.size| ∧
      (|v - x.size| = |v - y.size| → y.magnitude = x.magnitude ∨ x.magnitude % 2 = 0) := by
  have hstep : (0 : ℚ) < 2 ^ 1075 := pow_pos (by decide) _
  rw [abs_sub_le_iff_middle, abs_sub_eq_iff_middle, size_add]
  rcases Nat.lt_trichotomy y.magnitude x.magnitude with hlt | heq | hgt
  · have hsize := sub_pos.2 ((size_lt_iff y x).2 hlt)
    have hmiddle : units x.magnitude + units y.magnitude ≤ midpointBelow x.magnitude := by
      have hprevious : units y.magnitude ≤ units (x.magnitude - 1) :=
        units_strictMono.monotone (by omega)
      unfold midpointBelow
      omega
    have hle := (div_le_iff₀ hstep).2 (le_trans (Nat.cast_le.2 hmiddle) h.below)
    refine ⟨mul_nonneg hsize.le (sub_nonneg.2 (mul_le_mul_of_nonneg_left hle zero_le_two)),
      fun htie => Or.inr ?_⟩
    by_contra hodd
    have hlt := (div_lt_iff₀ hstep).2 (lt_of_le_of_lt (Nat.cast_le.2 hmiddle) (h.odd hodd).1)
    exact absurd htie (mul_pos hsize (sub_pos.2 (mul_lt_mul_of_pos_left hlt two_pos))).ne'
  · have hsize : x.size - y.size = 0 := by
      unfold size
      rw [heq, sub_self]
    rw [hsize, zero_mul]
    exact ⟨le_refl 0, fun _ => Or.inl heq⟩
  · have hsize := sub_neg.2 ((size_lt_iff x y).2 hgt)
    have hmiddle : midpointAbove x.magnitude ≤ units x.magnitude + units y.magnitude := by
      have hnext : units (x.magnitude + 1) ≤ units y.magnitude := units_strictMono.monotone hgt
      unfold midpointAbove
      omega
    have hle := (le_div_iff₀ hstep).2 (le_trans h.above (Nat.cast_le.2 hmiddle))
    refine ⟨mul_nonneg_of_nonpos_of_nonpos hsize.le
      (sub_nonpos.2 (mul_le_mul_of_nonneg_left hle zero_le_two)), fun htie => Or.inr ?_⟩
    by_contra hodd
    have hlt := (lt_div_iff₀ hstep).2 (lt_of_lt_of_le (h.odd hodd).2 (Nat.cast_le.2 hmiddle))
    exact absurd htie
      (mul_pos_of_neg_of_neg hsize (sub_neg.2 (mul_lt_mul_of_pos_left hlt two_pos))).ne'

/-- A double is what every number of its sign between its midpoints rounds to. -/
theorem isRounded_of_within {x : Binary64} {v : ℚ} (hv : 0 ≤ v)
    (h : Within x.magnitude (v * 2 ^ 1075)) : IsRounded (signed x.isNegative v) x := by
  have hown : |signed x.isNegative v - x.value| = |v - x.size| := abs_signed_sub _ _ _
  -- A double of the other sign is no nearer than the one of the same size with this sign.
  have hother : ∀ y : Binary64, |v - y.size| ≤ |signed x.isNegative v - y.value| := by
    intro y
    by_cases hsign : x.isNegative = y.isNegative
    · unfold value
      rw [hsign, abs_signed_sub]
    · unfold value
      rw [abs_signed_add hsign hv y.size_nonneg, abs_le]
      have hsize := y.size_nonneg
      constructor <;> linarith
  refine ⟨fun y _ => ?_, fun y _ htie => ?_⟩
  · rw [hown]
    exact le_trans (size_nearest h y).1 (hother y)
  · rw [hown] at htie
    have hsizes := le_antisymm (size_nearest h y).1 (htie ▸ hother y)
    rcases (size_nearest h y).2 hsizes with hmagnitude | heven
    · by_cases hsign : x.isNegative = y.isNegative
      · left
        unfold value size
        rw [hsign, hmagnitude]
      · -- Zero is as near as any double of the other sign, so this one must be a zero itself.
        have hfar : |signed x.isNegative v - y.value| = v + y.size :=
          abs_signed_add hsign hv y.size_nonneg
        have hnear := (size_nearest h zero).1
        rw [htie, hfar, size_zero, sub_zero, abs_of_nonneg hv] at hnear
        have hempty : y.size = 0 := le_antisymm (by linarith) y.size_nonneg
        have hempty' : x.size = 0 := by
          unfold size at hempty ⊢
          rwa [← hmagnitude]
        left
        unfold value
        rw [hempty, hempty', signed_zero, signed_zero]
    · exact Or.inr heven

end Binary64

end Recordset
