/-!
# Decimal numerals and their layout

A `Decimal` is a coefficient times a power of ten. `DecimalLayout` holds the decisions that a
format takes when it writes one: numerals whose leading digit stands in a given range of places
are written positionally, always with a fractional part, and all others with one digit before the
point and an exponent, where a point is written only when a digit follows it.
-/

set_option autoImplicit false

namespace Recordset

/-- The number `coefficient * 10 ^ exponent`. -/
structure Decimal where
  /-- The digits, read as a natural. -/
  coefficient : Nat
  /-- The power of ten that the last digit counts. -/
  exponent : Int
  deriving DecidableEq

/-- Which numerals are written positionally. -/
structure DecimalLayout where
  /-- The lowest leading place that is written positionally. -/
  positionalFrom : Int
  /-- The lowest leading place above those that are written positionally. -/
  positionalBelow : Int

namespace Decimal

def digits (d : Decimal) : List Char := Nat.toDigits 10 d.coefficient

/-- The power of ten that the leading digit counts. -/
def leadingPlace (d : Decimal) : Int := d.exponent + (d.digits.length - 1 : Int)

/-- The numeral with a point at its place and at least one digit on either side of it. -/
def positional (d : Decimal) : List Char :=
  let ds := d.digits
  if 0 ≤ d.exponent then ds ++ List.replicate d.exponent.toNat '0' ++ ['.', '0']
  else
    let places := (-d.exponent).toNat
    if places < ds.length then ds.take (ds.length - places) ++ '.' :: ds.drop (ds.length - places)
    else ['0', '.'] ++ List.replicate (places - ds.length) '0' ++ ds

/-- The decimal digits of an integer, after a minus sign if it is negative. -/
def integerText (n : Int) : List Char :=
  if n < 0 then '-' :: Nat.toDigits 10 n.natAbs else Nat.toDigits 10 n.natAbs

/-- The numeral with its first digit before the point and its leading place as an exponent. -/
def scientific (d : Decimal) : List Char :=
  let mantissa := match d.digits with
    | [] => []
    | [c] => [c]
    | c :: rest => c :: '.' :: rest
  mantissa ++ 'e' :: integerText d.leadingPlace

/-- The numeral in the form that the layout gives its leading place. -/
def written (layout : DecimalLayout) (d : Decimal) : List Char :=
  if layout.positionalFrom ≤ d.leadingPlace ∧ d.leadingPlace < layout.positionalBelow then
    d.positional
  else d.scientific

end Decimal

end Recordset
