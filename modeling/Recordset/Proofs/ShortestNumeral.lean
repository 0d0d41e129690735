import Mathlib.Tactic.Linarith
import Recordset.Proofs.NumeralReading
import Recordset.Term.Text

/-!
# The shortest numeral reads back

Whether a decimal reads back as a magnitude depends on its value alone: the value must lie between
the midpoints to the neighbouring magnitudes (`readsAs_iff`), and these intervals have no point in
common (`eq_of_readsAs`). The shortest numeral of a magnitude reads back as that magnitude
(`readsAs_shortest`), so the text of a finite double tells its bits (`text_injective` is the top
lemma).
-/

set_option autoImplicit false

namespace Recordset

namespace Binary64

theorem binade_eq : binade = 4503599627370496 := rfl

theorem units_lt_succ (m : Nat) : units m < units (m + 1) := by
  have hbinade := binade_eq
  unfold units
  by_cases hlow : m + 1 < binade
  · rw [if_pos hlow, if_pos (by omega)]
    omega
  · by_cases hfirst : m < binade
    · have hm : m + 1 = binade := by omega
      have hone : Nat.pow 2 (1 - 1) = 1 := rfl
      rw [if_pos hfirst, if_neg hlow, hm, Nat.mod_self, Nat.div_self (by omega), hone]
      omega
    · rw [if_neg hfirst, if_neg hlow]
      rw [hbinade] at hfirst ⊢
      have hstep : 0 < Nat.pow 2 (m / 4503599627370496 - 1) := Nat.two_pow_pos _
      by_cases hlast : m % 4503599627370496 + 1 < 4503599627370496
      · have hdiv : (m + 1) / 4503599627370496 = m / 4503599627370496 := by omega
        have hmod : (m + 1) % 4503599627370496 = m % 4503599627370496 + 1 := by omega
        rw [hdiv, hmod]
        exact Nat.mul_lt_mul_of_pos_right (by omega) hstep
      · -- The step doubles with the exponent, which makes up for the fraction that starts over.
        have hdiv : (m + 1) / 4503599627370496 - 1 = m / 4503599627370496 - 1 + 1 := by omega
        have hmod : (m + 1) % 4503599627370496 = 0 := by omega
        have hdouble : ∀ e : Nat, Nat.pow 2 (e + 1) = 2 * Nat.pow 2 e := fun e =>
          Nat.mul_comm (Nat.pow 2 e) 2
        rw [hdiv, hmod, hdouble, ← Nat.mul_assoc]
        exact Nat.mul_lt_mul_of_pos_right (by omega) hstep

theorem units_strictMono : StrictMono units := strictMono_nat_of_lt_succ units_lt_succ

end Binary64

namespace Decimal

open Binary64 (units units_strictMono)

/-- A point, counted in `2 ^ -1075`, lies in the interval of a magnitude: between the midpoints to
its neighbours, which belong to it if it is even. -/
def Within (m : Nat) (x : ℚ) : Prop :=
  if m % 2 = 0 then (midpointBelow m : ℚ) ≤ x ∧ x ≤ (midpointAbove m : ℚ)
  else (midpointBelow m : ℚ) < x ∧ x < (midpointAbove m : ℚ)

/-- The value of a decimal, counted in `2 ^ -1075`. -/
def counts (d : Decimal) : ℚ := d.value * 2 ^ 1075

theorem cast_natPow (b k : Nat) : ((Nat.pow b k : Nat) : ℚ) = (b : ℚ) ^ k := Nat.cast_pow b k

/-- The factors of `scale` bring a decimal and counts of `2 ^ -1075` to one measure. -/
theorem coefficient_mul_scale (d : Decimal) :
    ((d.coefficient * (scale d.exponent).1 : Nat) : ℚ) = d.counts * ((scale d.exponent).2 : ℚ) := by
  have hten : (10 : ℚ) ≠ 0 := by decide
  have hexponent : d.exponent + ((-d.exponent).toNat : Int) = (d.exponent.toNat : Int) := by omega
  have hpow : (10 : ℚ) ^ d.exponent.toNat = 10 ^ d.exponent * 10 ^ (-d.exponent).toNat := by
    rw [← zpow_natCast, ← zpow_natCast, ← zpow_add₀ hten, hexponent]
  have hmeasure : ∀ k : Nat,
      ((d.coefficient * (Nat.pow 10 d.exponent.toNat * Nat.pow 2 k) : Nat) : ℚ) =
        d.value * 2 ^ k * ((Nat.pow 10 (-d.exponent).toNat : Nat) : ℚ) := by
    intro k
    unfold value
    rw [Nat.cast_mul, Nat.cast_mul, cast_natPow, cast_natPow, cast_natPow]
    push_cast
    rw [hpow]
    ring
  unfold scale counts
  exact hmeasure 1075

/-- Whether a decimal reads back as a magnitude depends on its value alone. -/
theorem readsAs_iff (m : Nat) (d : Decimal) : readsAs m d = true ↔ Within m d.counts := by
  have hscale := d.coefficient_mul_scale
  have hdown : (0 : ℚ) < ((scale d.exponent).2 : ℚ) := by
    unfold scale
    exact Nat.cast_pos.2 (Nat.pow_pos (by decide))
  -- Multiplying both sides by the same factor keeps every comparison.
  have hle : ∀ n : Nat, n * (scale d.exponent).2 ≤ d.coefficient * (scale d.exponent).1 ↔
      (n : ℚ) ≤ d.counts := by
    intro n
    rw [← mul_le_mul_iff_left₀ hdown, ← hscale, ← Nat.cast_mul, Nat.cast_le]
  have hge : ∀ n : Nat, d.coefficient * (scale d.exponent).1 ≤ n * (scale d.exponent).2 ↔
      d.counts ≤ (n : ℚ) := by
    intro n
    rw [← mul_le_mul_iff_left₀ hdown, ← hscale, ← Nat.cast_mul, Nat.cast_le]
  unfold readsAs Within
  by_cases heven : m % 2 = 0
  · simp only [if_pos heven, Bool.and_eq_true, decide_eq_true_eq, hle, hge]
  · simp only [if_neg heven, Bool.and_eq_true, decide_eq_true_eq, ← Nat.not_le, hle, hge, not_le]

theorem Within.below {m : Nat} {x : ℚ} (h : Within m x) : (midpointBelow m : ℚ) ≤ x := by
  unfold Within at h
  split at h
  · exact h.1
  · exact le_of_lt h.1

theorem Within.above {m : Nat} {x : ℚ} (h : Within m x) : x ≤ (midpointAbove m : ℚ) := by
  unfold Within at h
  split at h
  · exact h.2
  · exact le_of_lt h.2

/-- The midpoints do not belong to an odd magnitude. -/
theorem Within.odd {m : Nat} {x : ℚ} (h : Within m x) (hodd : m % 2 ≠ 0) :
    (midpointBelow m : ℚ) < x ∧ x < (midpointAbove m : ℚ) := by
  unfold Within at h
  rwa [if_neg hodd] at h

/-- The interval of a magnitude lies wholly below those of the greater ones. -/
theorem lt_of_within {m n : Nat} {x y : ℚ} (h : m < n) (hm : Within m x) (hn : Within n y) :
    x < y := by
  have hbelow : units m ≤ units (n - 1) := units_strictMono.monotone (by omega)
  have habove : units (m + 1) ≤ units n := units_strictMono.monotone (by omega)
  have hends : midpointAbove m ≤ midpointBelow n := by
    unfold midpointAbove midpointBelow
    omega
  have hcast : (midpointAbove m : ℚ) ≤ (midpointBelow n : ℚ) := Nat.cast_le.2 hends
  have hle := hm.above
  have hge := hn.below
  by_cases hmeven : m % 2 = 0
  · by_cases hneven : n % 2 = 0
    · -- The intervals of two even magnitudes do not even touch: there is an odd one between them.
      have hgap : units (m + 1) < units n := units_strictMono (by omega)
      have hapart : midpointAbove m < midpointBelow n := by
        unfold midpointAbove midpointBelow
        omega
      have hcast' : (midpointAbove m : ℚ) < (midpointBelow n : ℚ) := Nat.cast_lt.2 hapart
      linarith
    · have hstrict := (hn.odd hneven).1
      linarith
  · have hstrict := (hm.odd hmeven).2
    linarith

/-- The intervals of two magnitudes have no point in common. -/
theorem eq_of_within {m n : Nat} {x : ℚ} (hm : Within m x) (hn : Within n x) : m = n := by
  rcases Nat.lt_trichotomy m n with h | h | h
  · exact absurd (lt_of_within h hm hn) (lt_irrefl x)
  · exact h
  · exact absurd (lt_of_within h hn hm) (lt_irrefl x)

/-- Decimals of one value read back as one magnitude. -/
theorem eq_of_readsAs {m n : Nat} {d e : Decimal} (hm : readsAs m d = true)
    (hn : readsAs n e = true) (h : d.value = e.value) : m = n := by
  have hcounts : d.counts = e.counts := congrArg (· * 2 ^ 1075) h
  exact eq_of_within ((readsAs_iff m d).1 hm) (hcounts ▸ (readsAs_iff n e).1 hn)

theorem readsAs_of_onGrid {m : Nat} {k : Int} {d : Decimal} (h : onGrid m k = some d) :
    readsAs m d = true := by
  unfold onGrid at h
  generalize scale k = measure at h
  obtain ⟨up, down⟩ := measure
  dsimp only at h
  split at h
  · rename_i hlower hupper
    obtain rfl := Option.some.inj h
    exact hlower
  · rename_i hlower hupper
    obtain rfl := Option.some.inj h
    exact hupper
  · rename_i hlower hupper
    split at h
    · obtain rfl := Option.some.inj h
      exact hlower
    · obtain rfl := Option.some.inj h
      exact hupper
  · exact absurd h (by simp)

/-- A multiple of `5 ^ k` counted in `10 ^ -k` is the multiple counted in `2 ^ -k`. -/
theorem value_five_pow (u k : Nat) :
    value ⟨u * Nat.pow 5 k, -(k : Int)⟩ * 2 ^ (k + 1) = 2 * (u : ℚ) := by
  have hten : (10 : ℚ) = 5 * 2 := by norm_num
  have hfive : (5 : ℚ) ^ k ≠ 0 := pow_ne_zero k (by decide)
  have htwo : (2 : ℚ) ^ k ≠ 0 := pow_ne_zero k (by decide)
  unfold value
  rw [Nat.cast_mul, cast_natPow, zpow_neg, zpow_natCast, hten, mul_pow, pow_succ]
  push_cast
  field_simp

theorem counts_exact (m : Nat) : (exact m).counts = 2 * units m := by
  unfold exact counts
  exact value_five_pow (units m) 1074

/-- The numeral that equals a magnitude other than zero reads back. -/
theorem readsAs_exact {m : Nat} (h : 0 < m) : readsAs m (exact m) = true := by
  have hbelow : units (m - 1) < units m := units_strictMono (by omega)
  have habove : units m < units (m + 1) := Binary64.units_lt_succ m
  have hlow : ((midpointBelow m : Nat) : ℚ) < ((2 * units m : Nat) : ℚ) := by
    rw [Nat.cast_lt]
    unfold midpointBelow
    omega
  have hhigh : ((2 * units m : Nat) : ℚ) < ((midpointAbove m : Nat) : ℚ) := by
    rw [Nat.cast_lt]
    unfold midpointAbove
    omega
  rw [Nat.cast_mul, Nat.cast_ofNat] at hlow hhigh
  rw [readsAs_iff, counts_exact]
  unfold Within
  split
  · exact ⟨hlow.le, hhigh.le⟩
  · exact ⟨hlow, hhigh⟩

/-- Whatever grids are searched, the numeral that comes out reads back. -/
theorem readsAs_search {m : Nat} (h : 0 < m) (grids : Nat) (k : Int) :
    readsAs m (search m grids k) = true := by
  induction grids generalizing k with
  | zero => exact readsAs_exact h
  | succ grids ih =>
    unfold search
    split
    · rename_i d hd
      exact readsAs_of_onGrid hd
    · exact ih (k - 1)

/-- The shortest numeral of a magnitude reads back as that magnitude. -/
theorem readsAs_shortest (m : Nat) : readsAs m (shortest m) = true := by
  unfold shortest
  split
  · rename_i hzero
    rw [hzero]
    decide +kernel
  · rename_i hzero
    exact readsAs_search (Nat.pos_of_ne_zero hzero) 20 _

end Decimal

namespace Binary64

/-- The text of a double reads back as its sign and a decimal of the value of its shortest
numeral. -/
theorem real?_text (x : Binary64) :
    ∃ d : Decimal, Decimal.real? x.text = some (x.isNegative, d) ∧
      d.value = (Decimal.shortest x.magnitude).value := by
  have hvalue := Decimal.value_unsigned?_written Literal.realLayout (Decimal.shortest x.magnitude)
  have hreal := Decimal.isReal_written Literal.realLayout (Decimal.shortest x.magnitude)
  obtain ⟨d, hd, hsame⟩ := Option.map_eq_some_iff.1 hvalue
  refine ⟨d, ?_, hsame⟩
  unfold text
  generalize (Decimal.shortest x.magnitude).written Literal.realLayout = cs at hd hreal
  cases x.isNegative with
  | true =>
    show (Decimal.unsigned? cs).map _ = _
    rw [hd]
    rfl
  | false =>
    obtain ⟨c, rest, rfl, hc⟩ := hreal.leading
    simp only [Bool.false_eq_true, if_false, Decimal.real?, Decimal.signed_of_digit hc, hd,
      Option.map_some]

theorem eq_of_magnitude {x y : Binary64} (hsign : x.isNegative = y.isNegative)
    (hmagnitude : x.magnitude = y.magnitude) : x = y := by
  obtain ⟨b⟩ := x
  obtain ⟨c⟩ := y
  have hb := b.toNat_lt
  have hc := c.toNat_lt
  have hweight : signWeight = 9223372036854775808 := rfl
  simp only [isNegative, magnitude, hweight, decide_eq_decide] at hsign hmagnitude
  have hbits : b.toNat = c.toNat := by omega
  rw [UInt64.toNat_inj.1 hbits]

/-- No two doubles have one text. -/
theorem text_injective {x y : Binary64} (h : x.text = y.text) : x = y := by
  obtain ⟨d, hx, hd⟩ := x.real?_text
  obtain ⟨e, hy, he⟩ := y.real?_text
  rw [h, hy] at hx
  obtain ⟨hsign, rfl⟩ := Prod.mk.inj (Option.some.inj hx)
  exact eq_of_magnitude hsign.symm (Decimal.eq_of_readsAs (Decimal.readsAs_shortest x.magnitude)
    (Decimal.readsAs_shortest y.magnitude) (hd.symm.trans he))

end Binary64

end Recordset
