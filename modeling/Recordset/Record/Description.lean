import Recordset.Record.Mapping
import Recordset.Text.Escaped

/-!
# Mappings in words

A mapping is described on one line: each bound column, its name escaped, with the type that its
field is declared with, in the order of the bindings.
-/

set_option autoImplicit false

namespace Recordset

variable {R : RecordType}

/-- A binding as descriptions show it. -/
def Binding.description (b : Binding R) : String :=
  "ColumnBinding \x7b column: " ++ Text.escaped b.column ++ ", data_type: " ++ b.type.name ++
    " \x7d"

/-- A mapping as one line of text. -/
def Mapping.description (m : Mapping R) : String :=
  "SchemaDescriptor \x7b columns: [" ++ ", ".intercalate (m.bindings.map Binding.description) ++
    "] \x7d"

end Recordset
