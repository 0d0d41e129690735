import Recordset.Binary64.Basic

/-!
# Rounding to the nearest double

`nearest p q` is the magnitude nearest to the quotient `p / q`, a tie going to the magnitude that
is even. The step of the grid around a size is the power of two that leaves the quotient
fifty-three significant bits, and magnitudes are numbered so that a carry out of the fraction
moves to the next exponent by itself.
-/

set_option autoImplicit false

namespace Recordset

namespace Binary64

/-- The natural nearest to `p / q`, a tie going to the even one. -/
def divideToEven (p q : Nat) : Nat :=
  let floor := p / q
  let twice := 2 * (p % q)
  if twice < q then floor
  else if q < twice then floor + 1
  else if floor % 2 = 0 then floor else floor + 1

/-- How many bits a count of units loses to the fifty-three that a double keeps. -/
def droppedBits (count : Nat) : Nat := count.log2 - 52

/-- The magnitude nearest to `p / q`, a tie going to the even one; a quotient past the greatest
finite size by half a step or more gives infinity. -/
def nearest (p q : Nat) : Nat :=
  let scaled := p * Nat.pow 2 1074
  let dropped := droppedBits (scaled / q)
  let kept := divideToEven scaled (q * Nat.pow 2 dropped)
  min (kept + dropped * binade) infinityMagnitude

/-- The double nearest to an integer, a tie going to the even one. -/
def ofInt (n : Int) : Binary64 := ofMagnitude (n < 0) (nearest n.natAbs 1)

end Binary64

end Recordset
