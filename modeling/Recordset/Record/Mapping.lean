import Recordset.Failure
import Recordset.Record.Basic
import Recordset.Record.Heading
import Recordset.Row

/-!
# Mappings from columns to fields

A `Mapping` binds columns, no two of one name, to the fields of a record type; several columns may
be bound to one field. `decode` reads a row through it: every binding whose column holds a value
sets its field, in order, and the first value that its field cannot take is the failure.
Everything else in the row is ignored, and fields that no binding sets keep their initial value.
-/

set_option autoImplicit false

namespace Recordset

/-- A column bound to a field. -/
structure Binding (R : RecordType) where
  column : String
  /-- The field that takes what the column holds. -/
  field : R.Place

namespace Binding

variable {R : RecordType}

/-- The column type of the bound field. -/
def type (b : Binding R) : ScalarType := (R.field b.field).type.column

/-- The record after one binding has been applied to a row. -/
def apply (b : Binding R) (row : Row) (r : Record R) : Except Failure (Record R) :=
  match row.get? b.column with
  | none => .ok r
  | some c =>
    match c.type? with
    | none => .ok r
    | some actual =>
      match (R.field b.field).type.coerce c with
      | some x => .ok (r.set b.field x)
      | none => .error (.mismatch b.column b.type actual)

end Binding

/-- The first name of a list that stands among the names before it or in the list given. -/
def firstRepeat? (seen : List String) : List String → Option String
  | [] => none
  | name :: rest => if name ∈ seen then some name else firstRepeat? (name :: seen) rest

/-- Names of which none repeats an earlier one are pairwise different, and different from the
names given. -/
theorem nodup_of_firstRepeat? {seen names : List String} (h : firstRepeat? seen names = none) :
    names.Nodup ∧ ∀ name ∈ names, name ∉ seen := by
  induction names generalizing seen with
  | nil => simp
  | cons n rest ih =>
    simp only [firstRepeat?] at h
    split at h
    · cases h
    · rename_i hn
      have ⟨hnodup, hseen⟩ := ih h
      refine ⟨List.nodup_cons.2 ⟨fun hmem => ?_, hnodup⟩, fun name hname => ?_⟩
      · exact hseen n hmem List.mem_cons_self
      · rcases List.mem_cons.1 hname with rfl | hmem
        · exact hn
        · exact fun hs => hseen name hmem (List.mem_cons_of_mem _ hs)

/-- A column was bound a second time. -/
structure DuplicateColumn where
  /-- The column whose binding repeats an earlier one. -/
  column : String

def DuplicateColumn.message (d : DuplicateColumn) : String :=
  "Duplicate column '" ++ d.column ++ "' in schema descriptor"

/-- Columns, no two of one name, bound to the fields of a record type. -/
structure Mapping (R : RecordType) where
  /-- The bindings in the order in which they apply. -/
  bindings : List (Binding R)
  /-- No column is bound twice. -/
  distinct : (bindings.map Binding.column).Nodup

namespace Mapping

variable {R : RecordType}

/-- The mapping with the given bindings, or the earliest column that repeats one before it. -/
def ofBindings? (bindings : List (Binding R)) : Except DuplicateColumn (Mapping R) :=
  match h : firstRepeat? [] (bindings.map Binding.column) with
  | some column => .error ⟨column⟩
  | none => .ok ⟨bindings, (nodup_of_firstRepeat? h).1⟩

def columns (m : Mapping R) : List String := m.bindings.map Binding.column

/-- The record after each binding in turn has been applied to a row. -/
def decodeFrom (row : Row) : List (Binding R) → Record R → Except Failure (Record R)
  | [], r => .ok r
  | b :: rest, r =>
    match b.apply row r with
    | .ok r' => decodeFrom row rest r'
    | .error e => .error e

/-- A row read as a record. -/
def decode (m : Mapping R) (row : Row) : Except Failure (Record R) :=
  decodeFrom row m.bindings (Record.initial R)

/-- The row that gives each bound column the cell of its field. -/
def encode (m : Mapping R) (r : Record R) : Row :=
  Row.ofList (m.bindings.map fun b => (b.column, (R.field b.field).type.cell (r b.field)))

end Mapping

/-- A record type with the columns that its records are read from. -/
structure Model where
  /-- Tells the record type from every other one. -/
  key : Nat
  /-- What log records call it. -/
  name : String
  /-- The types that its description looks at, each after those that it looks at itself. -/
  consulted : List Heading
  /-- What the records hold. -/
  type : RecordType
  /-- Where it is read from. -/
  mapping : Mapping type

namespace Model

abbrev Record (M : Model) : Type := Recordset.Record M.type

def heading (M : Model) : Heading := ⟨M.key, M.name, M.mapping.columns⟩

/-- The types that are described when this one is looked up, in order. A process that knows the
type knows them all. -/
def headings (M : Model) : List Heading := M.consulted ++ [M.heading]

end Model

end Recordset
