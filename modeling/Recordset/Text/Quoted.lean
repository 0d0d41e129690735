/-!
# Quoted text

A text is quoted by single quotes on either side, and each quote inside it is written twice, so
that a quote followed by anything but another quote always ends the quoted text.
-/

set_option autoImplicit false

namespace Recordset

namespace Text

/-- The characters with every single quote written twice. -/
def doubleQuotes : List Char → List Char
  | [] => []
  | c :: rest => if c = '\'' then '\'' :: '\'' :: doubleQuotes rest else c :: doubleQuotes rest

/-- The characters of a text between single quotes, the quotes inside it doubled. -/
def quotedChars (cs : List Char) : List Char := '\'' :: (doubleQuotes cs ++ ['\''])

/-- A text as a quoted literal. -/
def quoted (s : String) : String := String.ofList (quotedChars s.toList)

end Text

end Recordset
