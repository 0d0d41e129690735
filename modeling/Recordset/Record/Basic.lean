import Recordset.Record.FieldType

/-!
# Records

A `RecordType` lists fields by name, each with its type and the value it starts from. A `Record`
of that type gives every field a value of the field's own type.
-/

set_option autoImplicit false

namespace Recordset

/-- One field of a record type. -/
structure Field where
  /-- The name that records show the field under. -/
  name : String
  type : FieldType
  /-- What the field holds at first. -/
  initial : type.Carrier

/-- The fields of a kind of record. -/
structure RecordType where
  /-- The fields in the order of their declaration. -/
  fields : List Field

namespace RecordType

/-- The places of the fields of a record type. -/
abbrev Place (R : RecordType) : Type := Fin R.fields.length

def field (R : RecordType) (i : R.Place) : Field := R.fields.get i

/-- The values of the field at a place. -/
abbrev Carrier (R : RecordType) (i : R.Place) : Type := (R.field i).type.Carrier

/-- The place of the first field of that name, if there is one. -/
def place? (R : RecordType) (name : String) : Option R.Place :=
  (List.finRange R.fields.length).find? fun i => (R.field i).name == name

end RecordType

/-- A value for every field of a record type. -/
def Record (R : RecordType) : Type := (i : R.Place) → R.Carrier i

namespace Record

variable {R : RecordType}

/-- The record in which every field holds what it holds at first. -/
def initial (R : RecordType) : Record R := fun i => (R.field i).initial

def set (r : Record R) (i : R.Place) (x : R.Carrier i) : Record R :=
  fun j => if h : i = j then h ▸ x else r j

@[simp] theorem set_same (r : Record R) (i : R.Place) (x : R.Carrier i) : r.set i x i = x := by
  simp [set]

theorem set_other (r : Record R) {i j : R.Place} (x : R.Carrier i) (h : i ≠ j) :
    r.set i x j = r j := by
  simp [set, h]

end Record

end Recordset
