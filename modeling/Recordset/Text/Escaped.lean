import Recordset.Text.Extending
import Recordset.Text.Ignorable
import Recordset.Text.Invisible

/-!
# Escaped text

A text is shown on one line between double quotes. A double quote, a backslash and the four
control characters that have a letter of their own are written with a backslash. Any other
character that has no glyph of its own or may be drawn as nothing, and any mark that would be drawn
together with the character before it, is written by its code point in hexadecimal.
-/

set_option autoImplicit false

namespace Recordset

namespace Text

/-- The letter that stands for a character after a backslash, if it has one. -/
def escapeLetter? (c : Char) : Option Char :=
  if c = '"' then some '"'
  else if c = '\\' then some '\\'
  else if c = '\n' then some 'n'
  else if c = '\t' then some 't'
  else if c = '\r' then some 'r'
  else if c = '\x00' then some '0'
  else none

/-- How one character of an escaped text is written. -/
def escapedChar (c : Char) : List Char :=
  match escapeLetter? c with
  | some letter => ['\\', letter]
  | none =>
    if isExtending c || isIgnorable c || isInvisible c then
      ['\\', 'u', '\x7b'] ++ Nat.toDigits 16 c.toNat ++ ['\x7d']
    else [c]

/-- A text between double quotes, escaped character by character. -/
def escaped (s : String) : String :=
  String.ofList ('"' :: (s.toList.flatMap escapedChar ++ ['"']))

end Text

end Recordset
