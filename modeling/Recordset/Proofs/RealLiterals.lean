import Recordset.Proofs.NearestDouble

/-!
# A real literal denotes its constant

The text of a literal is read by the rules of decimal notation and the decimal is rounded to a
double (`Binary64.read?`), which is the nearest one to the decimal, a tie going to the even one, and
has its sign, so that zero has one too (`isRounded_of_read?`). The text of a finite double is
positional for zero and from `1e-4` up to `1e16`, and has an exponent otherwise (`positional_iff`);
either way it reads back as the double that was written (`read?_text`). `real_reads_back` is the top
lemma and says what the text of a finite constant tells.
-/

set_option autoImplicit false

namespace Recordset

namespace Binary64

open Decimal (Within)

/-- The double nearest to a decimal with a sign. -/
def round (negative : Bool) (d : Decimal) : Binary64 :=
  ofMagnitude negative
    (Binary64.nearest (d.coefficient * 10 ^ d.exponent.toNat) (10 ^ (-d.exponent).toNat))

/-- The double that a numeral spells. -/
def read? (cs : List Char) : Option Binary64 :=
  (Decimal.real? cs).map fun s => round s.1 s.2

example : read? ['-', '0', '.', '0'] = some ⟨0x8000000000000000⟩ := by decide +kernel

example : read? ['0', '.', '1'] = some ⟨0x3FB999999999999A⟩ := by decide +kernel

theorem ofMagnitude_eq (x : Binary64) : ofMagnitude x.isNegative x.magnitude = x := by
  have hbits := x.bits.toNat_lt
  have hweight : signWeight = 9223372036854775808 := rfl
  have hparts : (if x.isNegative then signWeight else 0) + x.magnitude = x.bits.toNat := by
    unfold isNegative magnitude
    rw [hweight]
    by_cases hneg : 9223372036854775808 ≤ x.bits.toNat
    · rw [if_pos (decide_eq_true hneg)]
      omega
    · rw [if_neg (by simpa using hneg)]
      omega
  unfold ofMagnitude
  rw [hparts, UInt64.ofNat_toNat]

theorem ofMagnitude_parts (negative : Bool) {m : Nat} (hm : m ≤ infinityMagnitude) :
    (ofMagnitude negative m).isNegative = negative ∧ (ofMagnitude negative m).magnitude = m := by
  have hweight : signWeight = 9223372036854775808 := rfl
  have hinfinity : infinityMagnitude = 9218868437227405312 := rfl
  rw [hinfinity] at hm
  unfold isNegative magnitude ofMagnitude
  rw [hweight]
  cases negative with
  | true =>
    have hbits : (UInt64.ofNat (9223372036854775808 + m)).toNat = 9223372036854775808 + m :=
      UInt64.toNat_ofNat_of_lt' (by show _ < 18446744073709551616; omega)
    simp only [if_true, hbits]
    exact ⟨decide_eq_true (by omega), by omega⟩
  | false =>
    have hbits : (UInt64.ofNat (0 + m)).toNat = 0 + m :=
      UInt64.toNat_ofNat_of_lt' (by show _ < 18446744073709551616; omega)
    simp only [Bool.false_eq_true, if_false, hbits]
    exact ⟨decide_eq_false (by omega), by omega⟩

/-- A decimal is the quotient that is rounded for it. -/
theorem value_eq_div (d : Decimal) :
    d.value = ((d.coefficient * 10 ^ d.exponent.toNat : Nat) : ℚ) /
      ((10 ^ (-d.exponent).toNat : Nat) : ℚ) := by
  have hten : (10 : ℚ) ≠ 0 := by decide
  have hexponent : d.exponent = (d.exponent.toNat : Int) - ((-d.exponent).toNat : Int) := by omega
  have hpow : (10 : ℚ) ^ d.exponent = 10 ^ d.exponent.toNat / 10 ^ (-d.exponent).toNat := by
    conv_lhs => rw [hexponent]
    rw [zpow_sub₀ hten, zpow_natCast, zpow_natCast]
  unfold Decimal.value
  rw [hpow]
  push_cast
  rw [mul_div_assoc]

/-- If a decimal rounds to a finite double, that double is what it rounds to, and has its sign. -/
theorem isRounded_round {negative : Bool} {d : Decimal}
    (h : (round negative d).isFinite = true) :
    (round negative d).isNegative = negative ∧
      IsRounded (signed negative d.value) (round negative d) := by
  have hq : 0 < 10 ^ (-d.exponent).toNat := Nat.pow_pos (by decide)
  obtain ⟨hsign, hmagnitude⟩ := ofMagnitude_parts negative (nearest_le_infinityMagnitude
    (d.coefficient * 10 ^ d.exponent.toNat) (10 ^ (-d.exponent).toNat))
  have hfinite := of_decide_eq_true h
  unfold round at hfinite ⊢
  rw [hmagnitude] at hfinite
  have hwithin := within_nearest hq hfinite
  rw [← value_eq_div, ← hmagnitude] at hwithin
  have hvalue : 0 ≤ d.value := by
    rw [value_eq_div]
    exact div_nonneg (Nat.cast_nonneg _) (Nat.cast_nonneg _)
  have hrounded := isRounded_of_within hvalue hwithin
  rw [hsign] at hrounded
  exact ⟨hsign, hrounded⟩

/-- A decimal between the midpoints around a finite double rounds to that double. -/
theorem round_eq_of_within {x : Binary64} (hx : x.isFinite = true) {d : Decimal}
    (h : Within x.magnitude d.counts) : round x.isNegative d = x := by
  have hq : 0 < 10 ^ (-d.exponent).toNat := Nat.pow_pos (by decide)
  unfold Decimal.counts at h
  rw [value_eq_div] at h
  have hnearest := nearest_eq_of_within hq (of_decide_eq_true hx) h
  unfold round
  rw [hnearest, ofMagnitude_eq]

/-- The text of a finite double spells that double. -/
theorem read?_text {x : Binary64} (hx : x.isFinite = true) : read? x.text = some x := by
  obtain ⟨d, hreal, hvalue⟩ := x.real?_text
  have hshortest := (Decimal.readsAs_iff x.magnitude _).1 (Decimal.readsAs_shortest x.magnitude)
  have hcounts : d.counts = (Decimal.shortest x.magnitude).counts :=
    congrArg (· * 2 ^ 1075) hvalue
  unfold read?
  rw [hreal, Option.map_some, round_eq_of_within hx (hcounts ▸ hshortest)]

/-- Whatever numeral spells a finite double, the double is what the numeral rounds to. -/
theorem isRounded_of_read? {cs : List Char} {x : Binary64} (h : read? cs = some x)
    (hx : x.isFinite = true) : ∃ d : Decimal, Decimal.real? cs = some (x.isNegative, d) ∧
      IsRounded (signed x.isNegative d.value) x := by
  obtain ⟨⟨negative, d⟩, hreal, rfl⟩ := Option.map_eq_some_iff.1 h
  obtain ⟨hsign, hrounded⟩ := isRounded_round hx
  refine ⟨d, ?_, ?_⟩
  · rw [hreal, hsign]
  · rwa [hsign]

end Binary64

namespace Decimal

open Binary64 (units units_strictMono)

/-! The form of a numeral -/

/-- Greater magnitudes have greater numerals. -/
theorem value_shortest_strictMono : StrictMono fun m => (shortest m).value := by
  intro m n h
  have hm := (readsAs_iff m _).1 (readsAs_shortest m)
  have hn := (readsAs_iff n _).1 (readsAs_shortest n)
  have hcounts := lt_of_within h hm hn
  unfold counts at hcounts
  exact lt_of_mul_lt_mul_right hcounts (pow_nonneg (by decide) _)

theorem value_shortest_zero : (shortest 0).value = 0 := by
  have hshortest : shortest 0 = ⟨0, 0⟩ := by decide +kernel
  rw [hshortest]
  exact zero_mul _

/-- The leading place of a decimal tells between which powers of ten it lies. -/
theorem leadingPlace_lt_iff {d : Decimal} (hd : d.value ≠ 0) (k : Int) :
    d.leadingPlace < k ↔ d.value < 10 ^ k := by
  have hten : (1 : ℚ) < 10 := by decide
  have hpos : (0 : ℚ) < 10 ^ d.exponent := zpow_pos (by decide) _
  have hsplit : (10 : ℚ) ^ k = 10 ^ (k - d.exponent) * 10 ^ d.exponent := by
    rw [← zpow_add₀ (by decide), sub_add_cancel]
  have hcoefficient : d.coefficient ≠ 0 := by
    rintro hzero
    exact hd (by rw [value, hzero, Nat.cast_zero, zero_mul])
  have hdigits : 0 < d.digits.length := List.length_pos_iff.2 d.digits_ne_nil
  have hvalue : d.value < 10 ^ k ↔ (d.coefficient : ℚ) < 10 ^ (k - d.exponent) := by
    rw [value, hsplit, mul_lt_mul_iff_left₀ hpos]
  rw [hvalue]
  unfold leadingPlace
  by_cases hplaces : 0 < k - d.exponent
  · obtain ⟨places, hk⟩ := Int.eq_ofNat_of_zero_le hplaces.le
    have hlength : d.digits.length ≤ places ↔ d.coefficient < 10 ^ places :=
      Nat.length_toDigits_le_iff (by decide) (by omega)
    rw [hk, zpow_natCast]
    have hcast : (d.coefficient : ℚ) < 10 ^ places ↔ d.coefficient < 10 ^ places := by
      exact_mod_cast Iff.rfl
    rw [hcast, ← hlength]
    omega
  · -- Not even the first digit stands below the power.
    have hone : (1 : ℚ) ≤ d.coefficient := Nat.one_le_cast.2 (Nat.pos_of_ne_zero hcoefficient)
    have hsmall : (10 : ℚ) ^ (k - d.exponent) ≤ 1 := zpow_le_one_of_nonpos₀ hten.le (by omega)
    constructor
    · intro h
      omega
    · intro h
      linarith

/-- The double that a power of ten is written for parts the numerals that are less from those that
are not. -/
theorem value_shortest_lt_iff {n : Nat} {k : Int} (hn : shortest n = ⟨1, k⟩) (m : Nat) :
    (shortest m).value < 10 ^ k ↔ m < n := by
  have hpower : (shortest n).value = 10 ^ k := by
    rw [hn, value, Nat.cast_one, one_mul]
  rw [← hpower]
  exact value_shortest_strictMono.lt_iff_lt

end Decimal

namespace Binary64

/-- A number is written without an exponent: zero, and what has its first digit from four places
after the point to sixteen before it. -/
def Positional (v : ℚ) : Prop := v = 0 ∨ (10 : ℚ) ^ (-4 : Int) ≤ |v| ∧ |v| < (10 : ℚ) ^ (16 : Int)

/-- The double that `1e16` spells, which it equals. -/
def tenQuadrillion : Binary64 := ⟨0x4341C37937E08000⟩

/-- The double that `1e-4` spells, which is a little more. -/
def tenThousandth : Binary64 := ⟨0x3F1A36E2EB1C432D⟩

theorem size_lt_tenQuadrillion_iff (x : Binary64) :
    x.size < (10 : ℚ) ^ (16 : Int) ↔ x.magnitude < tenQuadrillion.magnitude := by
  have hunits : units tenQuadrillion.magnitude = 10 ^ 16 * Nat.pow 2 1074 := by decide +kernel
  have hsize : tenQuadrillion.size = (10 : ℚ) ^ (16 : Int) := by
    have hstep : (2 : ℚ) ^ 1074 ≠ 0 := pow_ne_zero _ (by decide)
    unfold size
    rw [hunits, Nat.cast_mul, Decimal.cast_natPow, Nat.cast_ofNat, mul_div_cancel_right₀ _ hstep]
    norm_num
  rw [← hsize, size_lt_iff]

theorem tenThousandth_le_size_iff (x : Binary64) :
    (10 : ℚ) ^ (-4 : Int) ≤ x.size ↔ tenThousandth.magnitude ≤ x.magnitude := by
  have hreach : Nat.pow 2 1074 ≤ units tenThousandth.magnitude * 10 ^ 4 := by decide +kernel
  have hmiss : units (tenThousandth.magnitude - 1) * 10 ^ 4 < Nat.pow 2 1074 := by decide +kernel
  have hcross : ∀ u k : Nat, (10 : ℚ) ^ (-4 : Int) ≤ (u : ℚ) / 2 ^ k ↔
      Nat.pow 2 k ≤ u * 10 ^ 4 := by
    intro u k
    have hinverse : (10 : ℚ) ^ (-4 : Int) = 1 / 10 ^ 4 := by norm_num
    rw [hinverse, div_le_div_iff₀ (by decide) (pow_pos (by decide) k), one_mul]
    show _ ↔ 2 ^ k ≤ u * 10 ^ 4
    exact_mod_cast Iff.rfl
  unfold size
  rw [hcross]
  constructor
  · intro hle
    by_contra hlt
    have hunits : units x.magnitude ≤ units (tenThousandth.magnitude - 1) :=
      units_strictMono.monotone (Nat.le_pred_of_lt (Nat.lt_of_not_le hlt))
    exact Nat.not_le_of_lt hmiss (Nat.le_trans hle (Nat.mul_le_mul_right _ hunits))
  · intro hle
    have hunits : units tenThousandth.magnitude ≤ units x.magnitude :=
      units_strictMono.monotone hle
    exact Nat.le_trans hreach (Nat.mul_le_mul_right _ hunits)

/-- The shortest numeral of a double is written without an exponent exactly if the double lies
where numbers are. -/
theorem positional_iff (x : Binary64) :
    (Literal.realLayout.positionalFrom ≤ (Decimal.shortest x.magnitude).leadingPlace ∧
      (Decimal.shortest x.magnitude).leadingPlace < Literal.realLayout.positionalBelow) ↔
      Positional x.value := by
  rcases Nat.eq_zero_or_pos x.magnitude with hzero | hpos
  · have hplace : (Decimal.shortest 0).leadingPlace = 0 := by decide +kernel
    have hsize : x.size = 0 := by
      unfold size
      rw [hzero, units_zero, Nat.cast_zero, zero_div]
    have hvalue : x.value = 0 := by
      unfold value
      rw [hsize, signed_zero]
    rw [hzero, hplace]
    exact iff_of_true (by decide) (Or.inl hvalue)
  · have hpositive := Decimal.value_shortest_strictMono hpos
    dsimp only at hpositive
    rw [Decimal.value_shortest_zero] at hpositive
    have hsize : zero.size < x.size := (size_lt_iff zero x).2 hpos
    rw [size_zero, ← abs_value] at hsize
    have hfrom : -4 ≤ (Decimal.shortest x.magnitude).leadingPlace ↔
        (10 : ℚ) ^ (-4 : Int) ≤ x.size := by
      have hbelow := Decimal.leadingPlace_lt_iff hpositive.ne' (-4)
      have hshortest : Decimal.shortest tenThousandth.magnitude = ⟨1, -4⟩ := by decide +kernel
      rw [Decimal.value_shortest_lt_iff hshortest] at hbelow
      rw [tenThousandth_le_size_iff]
      omega
    have hupto : (Decimal.shortest x.magnitude).leadingPlace < 16 ↔
        x.size < (10 : ℚ) ^ (16 : Int) := by
      have hbelow := Decimal.leadingPlace_lt_iff hpositive.ne' 16
      have hshortest : Decimal.shortest tenQuadrillion.magnitude = ⟨1, 16⟩ := by decide +kernel
      rw [Decimal.value_shortest_lt_iff hshortest] at hbelow
      rw [hbelow, size_lt_tenQuadrillion_iff]
    unfold Positional
    rw [abs_value, ← hfrom, ← hupto]
    exact ⟨Or.inr, fun h => h.resolve_left (abs_pos.1 hsize)⟩

/-- The text of a double has a point or an exponent, and it has no exponent where numbers are
written without one. -/
theorem text_marks (x : Binary64) :
    ('.' ∈ x.text ∨ 'e' ∈ x.text) ∧ ('e' ∉ x.text ↔ Positional x.value) := by
  have hmem : ∀ c : Char, c ≠ '-' →
      (c ∈ x.text ↔ c ∈ (Decimal.shortest x.magnitude).written Literal.realLayout) := by
    intro c hc
    unfold text
    cases x.isNegative <;> simp [hc]
  rw [hmem '.' (by decide), hmem 'e' (by decide), ← positional_iff]
  unfold Decimal.written
  split
  · rename_i hform
    obtain ⟨hmantissa, hpoint, -⟩ := (Decimal.shortest x.magnitude).mantissa?_positional
    exact ⟨Or.inl hpoint, iff_of_true hmantissa.not_mem_power hform⟩
  · rename_i hform
    obtain ⟨m, htext, -, -⟩ := (Decimal.shortest x.magnitude).exists_scientific
    have hpower : 'e' ∈ (Decimal.shortest x.magnitude).scientific := by
      rw [htext]
      exact List.mem_append_right m List.mem_cons_self
    exact ⟨Or.inr hpower, iff_of_false (not_not_intro hpower) hform⟩

end Binary64

/-- An integer is written without a point and without an exponent. -/
theorem Decimal.not_mem_integerText {c : Char} (hdigit : c.isDigit = false) (hminus : c ≠ '-')
    (n : Int) : c ∉ Decimal.integerText n := by
  have hdigits : c ∉ Nat.toDigits 10 n.natAbs :=
    Decimal.not_mem_of_digits hdigit fun d hd => Decimal.isDigit_of_mem_toDigits hd
  unfold Decimal.integerText
  split
  · exact fun hmem => (List.mem_cons.1 hmem).elim hminus hdigits
  · exact hdigits

namespace Literal

open Binary64 (Positional IsRounded signed)

theorem written_real {x : Binary64} (hx : x.isFinite = true) :
    (Literal.real x).written = .ok (String.ofList x.text) := if_pos hx

theorem eq_of_written_real {x : Binary64} {text : String}
    (h : (Literal.real x).written = .ok text) : text = String.ofList x.text := by
  by_cases hx : x.isFinite = true
  · rw [written_real hx] at h
    exact (Except.ok.inj h).symm
  · rw [written, if_neg hx] at h
    exact absurd h (by simp)

/-- The text of a finite constant spells that constant bit for bit: read by the rules of decimal
notation it has the sign of the constant, which a zero has too, and is a number that rounds to it.
There is a point or an exponent in it, so it is no integer's text, and no two doubles have one
text. -/
theorem real_reads_back (x : Binary64) (hx : x.isFinite = true) :
    ∃ text, (Literal.real x).written = .ok text ∧
      Binary64.read? text.toList = some x ∧
      (∃ d : Decimal, Decimal.real? text.toList = some (x.isNegative, d) ∧
        IsRounded (signed x.isNegative d.value) x) ∧
      ('.' ∈ text.toList ∨ 'e' ∈ text.toList) ∧
      ('e' ∉ text.toList ↔ Positional x.value) ∧
      (∀ n, (Literal.integer n).written ≠ .ok text) ∧
      (∀ y : Binary64, (Literal.real y).written = .ok text → y = x) := by
  have hchars : (String.ofList x.text).toList = x.text := String.toList_ofList
  have hread := Binary64.read?_text hx
  obtain ⟨hmark, hform⟩ := x.text_marks
  refine ⟨String.ofList x.text, written_real hx, ?_⟩
  rw [hchars]
  refine ⟨hread, Binary64.isRounded_of_read? hread hx, hmark, hform, ?_, ?_⟩
  · intro n hn
    have htext : Decimal.integerText n.toInt = x.text :=
      String.ofList_injective (Except.ok.inj hn)
    rw [← htext] at hmark
    rcases hmark with hpoint | hpower
    · exact Decimal.not_mem_integerText rfl (by decide) n.toInt hpoint
    · exact Decimal.not_mem_integerText rfl (by decide) n.toInt hpower
  · intro y hy
    exact (Binary64.text_injective (String.ofList_injective (eq_of_written_real hy))).symm

/-- The negative double next to zero is written with one digit, which is far from its exact value
but rounds to it. -/
theorem real_reads_back_least :
    Binary64.isFinite ⟨0x8000000000000001⟩ = true ∧
      (Literal.real ⟨0x8000000000000001⟩).written = .ok "-5e-324" ∧
      Binary64.read? "-5e-324".toList = some ⟨0x8000000000000001⟩ := by
  have hfinite : Binary64.isFinite ⟨0x8000000000000001⟩ = true := by decide
  have hform : (Literal.real ⟨0x8000000000000001⟩).written = .ok "-5e-324" := by decide +kernel
  obtain ⟨text, hwritten, hread, -⟩ := real_reads_back ⟨0x8000000000000001⟩ hfinite
  obtain rfl : "-5e-324" = text := Except.ok.inj (hform.symm.trans hwritten)
  exact ⟨hfinite, hform, hread⟩

end Literal

end Recordset
