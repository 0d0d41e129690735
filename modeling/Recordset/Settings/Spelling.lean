import Recordset.Document
import Recordset.Settings.Basic

/-!
# Settings read from documents

Settings are spelled as a structure of a section on statements, which holds the allowed methods,
and a policy for rows that do not fit. Whatever a spelling leaves out is as in the standard
settings. A document that is no spelling gives no settings.
-/

set_option autoImplicit false

namespace Recordset

/-- The allowance that a document spells: null for every method, or a list of names. -/
def Allowance.ofDocument? : Document → Option Allowance
  | .null => some .any
  | .list items => (items.mapM Document.text?).map fun names => .only (NameSet.ofNames names)
  | _ => none

/-- The allowance that a section on statements spells. -/
def Allowance.ofSection? (d : Document) : Option Allowance := do
  let fields ← d.fields? ["allowed_methods"]
  Document.readField "allowed_methods" .any Allowance.ofDocument? fields

/-- The policy of that name. -/
def OnMismatch.ofName? (name : String) : Option OnMismatch :=
  if name = "fail" then some .fail else if name = "skip_row" then some .skipRow else none

/-- The policy that a document spells: its name, or an object with null under its name and nothing
else. -/
def OnMismatch.ofDocument? : Document → Option OnMismatch
  | .text name => ofName? name
  | .object [(name, .null)] => ofName? name
  | _ => none

/-- The settings that a document spells. -/
def Settings.ofDocument? (d : Document) : Option Settings := do
  let fields ← d.fields? ["translator", "mismatch_policy"]
  let methods ← Document.readField "translator" standard.methods Allowance.ofSection? fields
  let onMismatch ←
    Document.readField "mismatch_policy" standard.onMismatch OnMismatch.ofDocument? fields
  return ⟨methods, onMismatch⟩

end Recordset
