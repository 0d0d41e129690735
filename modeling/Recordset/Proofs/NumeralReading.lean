import Mathlib.Algebra.Order.Field.Power
import Mathlib.Algebra.Order.Ring.Rat
import Mathlib.Tactic.FieldSimp
import Mathlib.Tactic.Ring
import Recordset.Decimal.Layout

/-!
# Reading numerals

Numerals are read here by the rules of their notation alone: digits with an optional minus sign,
and for a decimal a fraction after a point and an exponent after an `e`. `value_unsigned?_written`
is the top lemma and says that a written decimal reads back as a decimal of the same value,
whatever the layout; an integer reads back as itself (`integer?_integerText`).
-/

set_option autoImplicit false

namespace Recordset

namespace Decimal

/-- The rational number that a decimal stands for. -/
def value (d : Decimal) : ℚ := d.coefficient * 10 ^ d.exponent

/-- A finer unit with as many more of them is the same number. -/
theorem value_shift (c k : Nat) (e : Int) : value ⟨c * 10 ^ k, e - k⟩ = value ⟨c, e⟩ := by
  have hten : (10 : ℚ) ≠ 0 := by decide
  have hpow : (10 : ℚ) ^ k ≠ 0 := pow_ne_zero k hten
  simp only [value]
  rw [zpow_sub₀ hten, zpow_natCast]
  push_cast
  field_simp

/-- The natural that digits spell, if there is a digit and nothing but digits. -/
def natural? (cs : List Char) : Option Nat :=
  if !cs.isEmpty && cs.all Char.isDigit then some (Nat.ofDigitChars 10 cs 0) else none

/-- Whether a minus sign leads, and what comes after it. -/
def signed (cs : List Char) : Bool × List Char :=
  if cs.head? = some '-' then (true, cs.tail) else (false, cs)

/-- The integer that a numeral without point and exponent spells. -/
def integer? (cs : List Char) : Option Int :=
  (natural? (signed cs).2).map fun (n : Nat) => if (signed cs).1 then -(n : Int) else (n : Int)

/-- What stands before the first `mark`, and what stands after it if there is one. -/
def split (mark : Char) : List Char → List Char × Option (List Char)
  | [] => ([], none)
  | c :: cs => if c = mark then ([], some cs) else (c :: (split mark cs).1, (split mark cs).2)

/-- The decimal that a numeral without sign and exponent spells: digits, and a fraction if there is
a point. -/
def mantissa? (cs : List Char) : Option Decimal := do
  let whole ← natural? (split '.' cs).1
  match (split '.' cs).2 with
  | none => return ⟨whole, 0⟩
  | some fraction => do
    let _ ← natural? fraction
    let finer ← natural? ((split '.' cs).1 ++ fraction)
    return ⟨finer, -fraction.length⟩

/-- The decimal that a numeral without sign spells: a mantissa, and an exponent if there is
an `e`. -/
def unsigned? (cs : List Char) : Option Decimal := do
  let mantissa ← mantissa? (split 'e' cs).1
  match (split 'e' cs).2 with
  | none => return mantissa
  | some power => do
    let p ← integer? power
    return { mantissa with exponent := mantissa.exponent + p }

/-- The sign and the decimal that a numeral spells. -/
def real? (cs : List Char) : Option (Bool × Decimal) :=
  (unsigned? (signed cs).2).map fun d => ((signed cs).1, d)

example : integer? ['-', '4', '0'] = some (-40) := by decide

example : real? ['-', '1', '.', '5', 'e', '-', '7'] = some (true, ⟨15, -8⟩) := by
  decide

theorem natural?_of_digits {cs : List Char} (hne : cs ≠ []) (h : ∀ c ∈ cs, c.isDigit) :
    natural? cs = some (Nat.ofDigitChars 10 cs 0) := by
  apply if_pos
  rw [List.all_eq_true.2 h, List.isEmpty_eq_false_iff.2 hne]
  rfl

theorem natural?_eq_none {cs : List Char} {c : Char} (hmem : c ∈ cs) (hc : c.isDigit = false) :
    natural? cs = none := by
  apply if_neg
  intro h
  have hdigit := List.all_eq_true.1 (Bool.and_eq_true_iff.1 h).2 c hmem
  rw [hc] at hdigit
  exact Bool.false_ne_true hdigit

theorem isDigit_of_mem_toDigits {n : Nat} {c : Char} (h : c ∈ Nat.toDigits 10 n) : c.isDigit :=
  Nat.isDigit_of_mem_toDigits (by decide) (by decide) h

theorem exists_toDigits (n : Nat) : ∃ c cs, Nat.toDigits 10 n = c :: cs ∧ c.isDigit := by
  obtain ⟨c, cs, hcs⟩ := List.exists_cons_of_ne_nil (Nat.toDigits_ne_nil (b := 10) (n := n))
  exact ⟨c, cs, hcs, isDigit_of_mem_toDigits (hcs ▸ List.mem_cons_self)⟩

theorem natural?_toDigits (n : Nat) : natural? (Nat.toDigits 10 n) = some n := by
  rw [natural?_of_digits Nat.toDigits_ne_nil fun c hc => isDigit_of_mem_toDigits hc,
    Nat.ofDigitChars_ten_toDigits]

theorem signed_minus (cs : List Char) : signed ('-' :: cs) = (true, cs) := rfl

theorem signed_of_digit {c : Char} (hc : c.isDigit) (cs : List Char) :
    signed (c :: cs) = (false, c :: cs) := by
  apply if_neg
  intro h
  obtain rfl : c = '-' := by simpa using h
  exact absurd hc (by decide)

theorem integer?_integerText (n : Int) : integer? (integerText n) = some n := by
  unfold integerText
  by_cases hneg : n < 0
  · have habs : -(n.natAbs : Int) = n := by omega
    rw [if_pos hneg, integer?, signed_minus, natural?_toDigits]
    exact congrArg some habs
  · have habs : (n.natAbs : Int) = n := by omega
    obtain ⟨c, cs, hcs, hc⟩ := exists_toDigits n.natAbs
    rw [if_neg hneg, integer?, hcs, signed_of_digit hc, ← hcs, natural?_toDigits]
    exact congrArg some habs

/-- The text of an integer begins with a digit or a minus sign. -/
theorem exists_integerText (n : Int) :
    ∃ c cs, integerText n = c :: cs ∧ (c.isDigit || c == '-') = true := by
  unfold integerText
  by_cases hneg : n < 0
  · rw [if_pos hneg]
    exact ⟨'-', Nat.toDigits 10 n.natAbs, rfl, rfl⟩
  · obtain ⟨c, cs, hcs, hc⟩ := exists_toDigits n.natAbs
    rw [if_neg hneg]
    exact ⟨c, cs, hcs, by rw [hc]; rfl⟩

theorem split_of_not_mem {mark : Char} {cs : List Char} (h : mark ∉ cs) :
    split mark cs = (cs, none) := by
  induction cs with
  | nil => rfl
  | cons c cs ih =>
    have hne : ¬ c = mark := fun heq => h (heq ▸ List.mem_cons_self)
    rw [split, if_neg hne, ih fun hmem => h (List.mem_cons_of_mem c hmem)]

theorem split_append {mark : Char} {xs : List Char} (h : mark ∉ xs) (ys : List Char) :
    split mark (xs ++ mark :: ys) = (xs, some ys) := by
  induction xs with
  | nil => exact if_pos rfl
  | cons x xs ih =>
    have hne : ¬ x = mark := fun heq => h (heq ▸ List.mem_cons_self)
    rw [List.cons_append, split, if_neg hne, ih fun hmem => h (List.mem_cons_of_mem x hmem)]

theorem not_mem_of_digits {mark : Char} (hmark : mark.isDigit = false) {cs : List Char}
    (h : ∀ c ∈ cs, c.isDigit) : mark ∉ cs := by
  intro hmem
  have hdigit := h mark hmem
  rw [hmark] at hdigit
  exact Bool.false_ne_true hdigit

theorem mantissa?_digits {ws : List Char} (hws : ∀ c ∈ ws, c.isDigit) (hne : ws ≠ []) :
    mantissa? ws = some ⟨Nat.ofDigitChars 10 ws 0, 0⟩ := by
  have hpoint : '.' ∉ ws := not_mem_of_digits rfl hws
  rw [mantissa?, split_of_not_mem hpoint, natural?_of_digits hne hws]
  rfl

/-- Digits on either side of a point spell the decimal that counts its last place. -/
theorem mantissa?_point {ws fs : List Char} (hws : ∀ c ∈ ws, c.isDigit) (hwne : ws ≠ [])
    (hfs : ∀ c ∈ fs, c.isDigit) (hfne : fs ≠ []) :
    mantissa? (ws ++ '.' :: fs) = some ⟨Nat.ofDigitChars 10 (ws ++ fs) 0, -fs.length⟩ := by
  have hpoint : '.' ∉ ws := not_mem_of_digits rfl hws
  have hall : ∀ c ∈ ws ++ fs, c.isDigit := by
    intro c hc
    rcases List.mem_append.1 hc with hc | hc
    · exact hws c hc
    · exact hfs c hc
  have hne : ws ++ fs ≠ [] := fun h => hwne (List.append_eq_nil_iff.1 h).1
  rw [mantissa?, split_append hpoint, natural?_of_digits hwne hws]
  simp only [natural?_of_digits hfne hfs, natural?_of_digits hne hall]
  rfl

theorem unsigned?_mantissa {cs : List Char} (h : 'e' ∉ cs) : unsigned? cs = mantissa? cs := by
  rw [unsigned?, split_of_not_mem h]
  cases mantissa? cs <;> rfl

/-- An exponent counts from the last place of the mantissa. -/
theorem unsigned?_power {cs : List Char} (h : 'e' ∉ cs) (p : Int) :
    unsigned? (cs ++ 'e' :: integerText p) =
      (mantissa? cs).map fun m => { m with exponent := m.exponent + p } := by
  rw [unsigned?, split_append h]
  simp only [integer?_integerText]
  cases mantissa? cs <;> rfl

theorem isDigit_of_mem_digits {d : Decimal} {c : Char} (h : c ∈ d.digits) : c.isDigit :=
  isDigit_of_mem_toDigits h

theorem digits_ne_nil (d : Decimal) : d.digits ≠ [] := Nat.toDigits_ne_nil

theorem ofDigitChars_digits (d : Decimal) : Nat.ofDigitChars 10 d.digits 0 = d.coefficient :=
  Nat.ofDigitChars_ten_toDigits

theorem isDigit_of_mem_zeros {n : Nat} {c : Char} (h : c ∈ List.replicate n '0') : c.isDigit := by
  rw [List.eq_of_mem_replicate h]
  rfl

/-- A positional numeral has digits on either side of its point, and they spell the decimal. -/
theorem exists_positional (d : Decimal) :
    ∃ ws fs, d.positional = ws ++ '.' :: fs ∧ ws ≠ [] ∧ fs ≠ [] ∧ (∀ c ∈ ws ++ fs, c.isDigit) ∧
      value ⟨Nat.ofDigitChars 10 (ws ++ fs) 0, -fs.length⟩ = d.value := by
  have hne := d.digits_ne_nil
  have hspell := d.ofDigitChars_digits
  unfold positional
  by_cases hwhole : 0 ≤ d.exponent
  · refine ⟨d.digits ++ List.replicate d.exponent.toNat '0', ['0'], by simp [hwhole],
      by simp [hne], by simp, ?_, ?_⟩
    · intro c hc
      simp only [List.mem_append, List.mem_singleton] at hc
      rcases hc with (hc | hc) | rfl
      · exact isDigit_of_mem_digits hc
      · exact isDigit_of_mem_zeros hc
      · rfl
    · have hshift := value_shift d.coefficient (d.exponent.toNat + 1) d.exponent
      have hexponent : d.exponent - ((d.exponent.toNat + 1 : Nat) : Int) = -1 := by omega
      rw [Nat.ofDigitChars_append, Nat.ofDigitChars_append, hspell,
        Nat.ofDigitChars_replicate_zero]
      rw [hexponent] at hshift
      rw [← hshift]
      congr 2
      simp [Nat.ofDigitChars, pow_succ]
      ring
  · have hplace : -(((-d.exponent).toNat : Nat) : Int) = d.exponent := by omega
    by_cases hplaces : (-d.exponent).toNat < d.digits.length
    · refine ⟨d.digits.take (d.digits.length - (-d.exponent).toNat),
        d.digits.drop (d.digits.length - (-d.exponent).toNat), by simp [hwhole, hplaces], ?_, ?_,
        ?_, ?_⟩
      · intro h
        have hlength := congrArg List.length h
        rw [List.length_take, List.length_nil] at hlength
        omega
      · intro h
        have hlength := congrArg List.length h
        rw [List.length_drop, List.length_nil] at hlength
        omega
      · rw [List.take_append_drop]
        intro c hc
        exact isDigit_of_mem_digits hc
      · have hlength : d.digits.length - (d.digits.length - (-d.exponent).toNat) =
            (-d.exponent).toNat := by omega
        rw [List.take_append_drop, hspell, List.length_drop, hlength, hplace]
    · refine ⟨['0'], List.replicate ((-d.exponent).toNat - d.digits.length) '0' ++ d.digits,
        by simp [hwhole, hplaces], by simp, by simp [hne], ?_, ?_⟩
      · intro c hc
        simp only [List.mem_append, List.mem_singleton] at hc
        rcases hc with rfl | hc | hc
        · rfl
        · exact isDigit_of_mem_zeros hc
        · exact isDigit_of_mem_digits hc
      · have hlength : (-d.exponent).toNat - d.digits.length + d.digits.length =
            (-d.exponent).toNat := by omega
        rw [Nat.ofDigitChars_append, Nat.ofDigitChars_append, Nat.ofDigitChars_replicate_zero,
          List.length_append, List.length_replicate, hlength, hplace]
        have hzero : Nat.ofDigitChars 10 ['0'] 0 = 0 := rfl
        rw [hzero, Nat.mul_zero, hspell]

/-- A text that can stand before an exponent: a digit leads, and there are only digits and
points. -/
structure IsMantissa (m : List Char) : Prop where
  leading : ∃ c cs, m = c :: cs ∧ c.isDigit
  chars : ∀ c ∈ m, c.isDigit ∨ c = '.'

theorem isMantissa_digits {ws : List Char} (hws : ∀ c ∈ ws, c.isDigit) (hne : ws ≠ []) :
    IsMantissa ws := by
  obtain ⟨c, cs, rfl⟩ := List.exists_cons_of_ne_nil hne
  exact ⟨⟨c, cs, rfl, hws c List.mem_cons_self⟩, fun d hd => Or.inl (hws d hd)⟩

theorem isMantissa_point {ws fs : List Char} (hws : ∀ c ∈ ws, c.isDigit) (hne : ws ≠ [])
    (hfs : ∀ c ∈ fs, c.isDigit) : IsMantissa (ws ++ '.' :: fs) := by
  obtain ⟨c, cs, rfl⟩ := List.exists_cons_of_ne_nil hne
  refine ⟨⟨c, cs ++ '.' :: fs, rfl, hws c List.mem_cons_self⟩, ?_⟩
  intro d hd
  rcases List.mem_append.1 hd with hd | hd
  · exact Or.inl (hws d hd)
  · rcases List.mem_cons.1 hd with rfl | hd
    · exact Or.inr rfl
    · exact Or.inl (hfs d hd)

theorem IsMantissa.not_mem_power {m : List Char} (h : IsMantissa m) : 'e' ∉ m := by
  intro hmem
  rcases h.chars 'e' hmem with hdigit | hpoint
  · exact absurd hdigit (by decide)
  · exact absurd hpoint (by decide)

/-- A positional numeral is a mantissa with a point, of the value of the decimal. -/
theorem mantissa?_positional (d : Decimal) :
    IsMantissa d.positional ∧ '.' ∈ d.positional ∧
      (mantissa? d.positional).map value = some d.value := by
  obtain ⟨ws, fs, htext, hwne, hfne, hdigits, hvalue⟩ := d.exists_positional
  have hws : ∀ c ∈ ws, c.isDigit := fun c hc => hdigits c (List.mem_append_left fs hc)
  have hfs : ∀ c ∈ fs, c.isDigit := fun c hc => hdigits c (List.mem_append_right ws hc)
  rw [htext]
  refine ⟨isMantissa_point hws hwne hfs, by simp, ?_⟩
  rw [mantissa?_point hws hwne hfs hfne, Option.map_some, hvalue]

/-- A scientific numeral is a mantissa with an exponent, of the value of the decimal. -/
theorem exists_scientific (d : Decimal) :
    ∃ m, d.scientific = m ++ 'e' :: integerText d.leadingPlace ∧ IsMantissa m ∧
      (mantissa? m).map (fun x => value ⟨x.coefficient, x.exponent + d.leadingPlace⟩) =
        some d.value := by
  have hdigits : ∀ c ∈ d.digits, c.isDigit := fun c hc => isDigit_of_mem_digits hc
  have hspell := d.ofDigitChars_digits
  obtain ⟨c, rest, hds⟩ := List.exists_cons_of_ne_nil d.digits_ne_nil
  have hplace : d.leadingPlace = d.exponent + rest.length := by
    rw [leadingPlace, hds, List.length_cons]
    omega
  rw [hds] at hdigits hspell
  have hc : ∀ x ∈ [c], x.isDigit := by
    intro x hx
    rw [List.mem_singleton.1 hx]
    exact hdigits c List.mem_cons_self
  have hrest : ∀ x ∈ rest, x.isDigit := fun x hx => hdigits x (List.mem_cons_of_mem c hx)
  have hcne : [c] ≠ [] := List.cons_ne_nil c []
  unfold scientific
  rw [hds]
  cases rest with
  | nil =>
    refine ⟨[c], rfl, isMantissa_digits hc hcne, ?_⟩
    rw [mantissa?_digits hc hcne, hspell, Option.map_some, hplace]
    simp [value]
  | cons f fs =>
    have hfne : f :: fs ≠ [] := List.cons_ne_nil f fs
    refine ⟨[c] ++ '.' :: f :: fs, rfl, isMantissa_point hc hcne hrest, ?_⟩
    rw [mantissa?_point hc hcne hrest hfne, List.singleton_append, hspell, Option.map_some, hplace]
    have hexponent : -((f :: fs).length : Int) + (d.exponent + (f :: fs).length) = d.exponent := by
      omega
    rw [hexponent]

def numeralChar (c : Char) : Bool := c.isDigit || c == '-' || c == '.' || c == 'e'

theorem numeralChar_of_isDigit {c : Char} (h : c.isDigit) : numeralChar c := by
  simp [numeralChar, h]

theorem numeralChar_of_mem_integerText {n : Int} {c : Char} (h : c ∈ integerText n) :
    numeralChar c := by
  unfold integerText at h
  split at h
  · rcases List.mem_cons.1 h with rfl | h
    · rfl
    · exact numeralChar_of_isDigit (isDigit_of_mem_toDigits h)
  · exact numeralChar_of_isDigit (isDigit_of_mem_toDigits h)

theorem IsMantissa.numeralChar {m : List Char} (h : IsMantissa m) {c : Char} (hc : c ∈ m) :
    numeralChar c := by
  rcases h.chars c hc with hdigit | rfl
  · exact numeralChar_of_isDigit hdigit
  · rfl

/-- A written decimal begins with a digit and has a point or an exponent. -/
structure IsReal (cs : List Char) : Prop where
  leading : ∃ c rest, cs = c :: rest ∧ c.isDigit
  chars : ∀ c ∈ cs, Decimal.numeralChar c
  mark : ∃ c ∈ cs, c.isDigit = false

theorem isReal_written (layout : DecimalLayout) (d : Decimal) : IsReal (d.written layout) := by
  unfold written
  split
  · obtain ⟨hmantissa, hpoint, -⟩ := d.mantissa?_positional
    exact ⟨hmantissa.leading, fun c hc => hmantissa.numeralChar hc, '.', hpoint, rfl⟩
  · obtain ⟨m, htext, hmantissa, -⟩ := d.exists_scientific
    obtain ⟨c, rest, rfl, hdigit⟩ := hmantissa.leading
    rw [htext]
    refine ⟨⟨c, rest ++ 'e' :: integerText d.leadingPlace, rfl, hdigit⟩, ?_, 'e', by simp, rfl⟩
    intro x hx
    rcases List.mem_append.1 hx with hx | hx
    · exact hmantissa.numeralChar hx
    · rcases List.mem_cons.1 hx with rfl | hx
      · rfl
      · exact numeralChar_of_mem_integerText hx

/-- A written decimal reads back as a decimal of the same value, whatever its layout. -/
theorem value_unsigned?_written (layout : DecimalLayout) (d : Decimal) :
    (unsigned? (d.written layout)).map value = some d.value := by
  unfold written
  split
  · obtain ⟨hmantissa, -, hvalue⟩ := d.mantissa?_positional
    rw [unsigned?_mantissa hmantissa.not_mem_power, hvalue]
  · obtain ⟨m, htext, hmantissa, hvalue⟩ := d.exists_scientific
    rw [htext, unsigned?_power hmantissa.not_mem_power, Option.map_map]
    exact hvalue

end Decimal

end Recordset
