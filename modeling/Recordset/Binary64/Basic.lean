/-!
# Double-precision numbers by their bits

A `Binary64` is the 64 bits of a double-precision number: a sign above a magnitude. Magnitudes
below `infinityMagnitude` are finite numbers in ascending order of size, that magnitude itself is
infinity, and those above it are no number. Every finite size is a whole count of units of
`2 ^ -1074` (`units`), so all arithmetic on sizes here is exact arithmetic on naturals.
-/

set_option autoImplicit false

namespace Recordset

/-- A double-precision number, held as its 64 bits. -/
structure Binary64 where
  /-- The sign bit above eleven exponent bits and fifty-two fraction bits. -/
  bits : UInt64
  deriving DecidableEq

namespace Binary64

/-- How many magnitudes share one exponent. -/
def binade : Nat := 0x10000000000000

/-- The magnitude of both infinities. -/
def infinityMagnitude : Nat := 0x7FF * binade

/-- The weight of the sign bit. -/
def signWeight : Nat := 0x8000000000000000

def isNegative (x : Binary64) : Bool := signWeight ≤ x.bits.toNat

def magnitude (x : Binary64) : Nat := x.bits.toNat % signWeight

def ofMagnitude (negative : Bool) (m : Nat) : Binary64 :=
  ⟨UInt64.ofNat ((if negative then signWeight else 0) + m)⟩

def isFinite (x : Binary64) : Bool := x.magnitude < infinityMagnitude

/-- Whether the bits stand for no number at all. -/
def isNaN (x : Binary64) : Bool := infinityMagnitude < x.magnitude

/-- Positive zero, whose bits are all clear. -/
def zero : Binary64 := ⟨0⟩

/-- Numeric equality: the two zeros are equal, and what is no number equals nothing, not even
itself. -/
def equal (x y : Binary64) : Bool :=
  !x.isNaN && !y.isNaN && (x.bits == y.bits || (x.magnitude == 0 && y.magnitude == 0))

/-- The size of a finite magnitude, counted in units of `2 ^ -1074`. In the lowest binade the
steps are single units, and from the second binade on they double with each. -/
def units (m : Nat) : Nat :=
  if m < binade then m else (binade + m % binade) * Nat.pow 2 (m / binade - 1)

end Binary64

end Recordset
