/-!
# Ranges of code points

A set of characters is listed by closed ranges of code points, in ascending order and apart from
each other, so that no shorter list holds the same set.
-/

set_option autoImplicit false

namespace Recordset

namespace Text

/-- Whether one of the ranges holds the code point. -/
def inRanges (ranges : List (Nat × Nat)) (code : Nat) : Bool :=
  ranges.any fun r => r.1 ≤ code && code ≤ r.2

/-- Whether every range is in order and a gap stands before the next one. -/
def areApart : List (Nat × Nat) → Bool
  | [] => true
  | [r] => r.1 ≤ r.2
  | r :: s :: rest => r.1 ≤ r.2 && r.2 + 1 < s.1 && areApart (s :: rest)

/-- How many code points the ranges hold together. -/
def sizeOfRanges (ranges : List (Nat × Nat)) : Nat :=
  ranges.foldl (fun n r => n + (r.2 + 1 - r.1)) 0

end Text

end Recordset
