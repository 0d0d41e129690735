import Recordset.Text.Ranges

/-!
# Characters that may be ignored where they are drawn

The code points with the property Default_Ignorable_Code_Point in Unicode 17: nothing is drawn for
them where they are not supported. The fillers among them count as letters, so their category
alone does not tell that they are blank.
-/

set_option autoImplicit false

namespace Recordset

namespace Text

def ignorable : List (Nat × Nat) := [
  (0xAD, 0xAD), (0x34F, 0x34F), (0x61C, 0x61C), (0x115F, 0x1160), (0x17B4, 0x17B5),
  (0x180B, 0x180F), (0x200B, 0x200F), (0x202A, 0x202E), (0x2060, 0x206F), (0x3164, 0x3164),
  (0xFE00, 0xFE0F), (0xFEFF, 0xFEFF), (0xFFA0, 0xFFA0), (0xFFF0, 0xFFF8), (0x1BCA0, 0x1BCA3),
  (0x1D173, 0x1D17A), (0xE0000, 0xE0FFF)]

example : areApart ignorable := by decide +kernel

example : sizeOfRanges ignorable = 4174 := by decide +kernel

/-- Whether nothing need be drawn for a character. -/
def isIgnorable (c : Char) : Bool := inRanges ignorable c.toNat

end Text

end Recordset
