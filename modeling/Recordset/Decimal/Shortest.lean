import Recordset.Binary64.Basic
import Recordset.Decimal.Layout

/-!
# The shortest decimal that reads back

A decimal reads back as a finite double when it lies between the midpoints to the two neighbouring
doubles; a midpoint itself reads back as the neighbour whose magnitude is even (`readsAs`). The
multiples of one power of ten form a grid, and a coarser grid needs fewer digits. `shortest` is
the numeral on the coarsest grid that holds one which reads back, the one nearest to the double if
there are two, and the greater of two that are equally near. On each grid only the two multiples
around the double can qualify, so these are the ones tried.
-/

set_option autoImplicit false

namespace Recordset

namespace Decimal

open Binary64 (units)

/-- The factors that bring multiples of `10 ^ k` and counts of `2 ^ -1075` to one measure: `c`
such multiples against `n` such counts is `c * (scale k).1` against `n * (scale k).2`. -/
def scale (k : Int) : Nat × Nat := (Nat.pow 10 k.toNat * Nat.pow 2 1075, Nat.pow 10 (-k).toNat)

/-- The midpoint between a magnitude and the one before it, in counts of `2 ^ -1075`. -/
def midpointBelow (m : Nat) : Nat := units (m - 1) + units m

/-- The midpoint between a magnitude and the one after it, in counts of `2 ^ -1075`. -/
def midpointAbove (m : Nat) : Nat := units m + units (m + 1)

/-- Whether a decimal rounds to the magnitude `m`, a tie going to the even magnitude. -/
def readsAs (m : Nat) (d : Decimal) : Bool :=
  let (up, down) := scale d.exponent
  let point := d.coefficient * up
  if m % 2 = 0 then midpointBelow m * down ≤ point && point ≤ midpointAbove m * down
  else midpointBelow m * down < point && point < midpointAbove m * down

/-- The numeral with exponent `k` that reads back as magnitude `m` and is nearest to it, if there
is one. -/
def onGrid (m : Nat) (k : Int) : Option Decimal :=
  let (up, down) := scale k
  let value := 2 * units m * down
  let lower : Decimal := ⟨value / up, k⟩
  let upper : Decimal := ⟨value / up + 1, k⟩
  match readsAs m lower, readsAs m upper with
  | true, false => some lower
  | false, true => some upper
  | true, true =>
    if value - lower.coefficient * up < upper.coefficient * up - value then some lower
    else some upper
  | false, false => none

/-- The numeral that equals the magnitude `m`: a unit is a whole multiple of `10 ^ -1074`. -/
def exact (m : Nat) : Decimal := ⟨units m * Nat.pow 5 1074, -1074⟩

/-- The numeral on the first grid that has one, from exponent `k` downward over the given count of
grids, or the exact numeral if none of them has. -/
def search (m : Nat) : Nat → Int → Decimal
  | 0, _ => exact m
  | grids + 1, k =>
    match onGrid m k with
    | some d => d
    | none => search m grids (k - 1)

/-- An exponent of ten whose grid is too coarse for the magnitude, or just coarse enough. It
overstates the decimal order by at most two, as `30103 / 100000` is just above the logarithm of
two. -/
def coarseExponent (m : Nat) : Int :=
  ((midpointAbove m).log2 - 1074 : Int) * 30103 / 100000 + 1

/-- The shortest numeral that reads back as the finite magnitude `m`. Seventeen digits always
suffice, so twenty grids from a coarse one down include one with a hit. -/
def shortest (m : Nat) : Decimal :=
  if m = 0 then ⟨0, 0⟩ else search m 20 (coarseExponent m)

end Decimal

end Recordset
