import Recordset.Record.Mapping

/-!
# Ready models

Record types with their usual columns. In `customer` every column goes to a field of its own,
while `latest` reads the columns of `customer` into a single field; `preferences` starts from
values other than zero; `wide` has a field of every type.
-/

set_option autoImplicit false

namespace Recordset

namespace Field

/-- A field that holds false at first. -/
def boolean (name : String) : Field := ⟨name, .scalar .boolean, false⟩

/-- A short integer field that holds zero at first. -/
def int32 (name : String) : Field := ⟨name, .scalar .int32, (0 : Int32)⟩

/-- A long integer field that holds zero at first. -/
def int64 (name : String) : Field := ⟨name, .scalar .int64, (0 : Int64)⟩

/-- A number field that holds zero at first. -/
def float64 (name : String) : Field := ⟨name, .scalar .float64, Binary64.zero⟩

/-- A text field that is empty at first. -/
def varchar (name : String) : Field := ⟨name, .scalar .varchar, ""⟩

/-- A field that holds no value at first. -/
def absent (name : String) (inner : FieldType) : Field := ⟨name, .optional inner, none⟩

end Field

namespace Model

/-- The identity, name and age of a customer. -/
def customer : Model where
  key := 0
  name := "Customer"
  consulted := []
  type := ⟨[.int32 "id", .varchar "name", .int32 "age"]⟩
  mapping := {
    bindings := [⟨"ID", (0 : Fin 3)⟩, ⟨"NAME", (1 : Fin 3)⟩, ⟨"AGE", (2 : Fin 3)⟩]
    distinct := by simp }

/-- An account with its balance, until it is closed. -/
def account : Model where
  key := 1
  name := "Account"
  consulted := []
  type := ⟨[.varchar "owner", .float64 "balance", .boolean "active",
    .absent "closed_at" (.scalar .int64)]⟩
  mapping := {
    bindings := [⟨"owner", (0 : Fin 4)⟩, ⟨"balance", (1 : Fin 4)⟩, ⟨"active", (2 : Fin 4)⟩,
      ⟨"closed_at", (3 : Fin 4)⟩]
    distinct := by simp }

/-- A field of every column type, with and without an optional layer, and one with two. -/
def wideType : RecordType :=
  ⟨[.boolean "b", .int32 "i", .int64 "l", .float64 "f", .varchar "s",
    .absent "ob" (.scalar .boolean), .absent "oi" (.scalar .int32),
    .absent "ol" (.scalar .int64), .absent "of" (.scalar .float64),
    .absent "os" (.scalar .varchar), .absent "ooi" (.optional (.scalar .int32))]⟩

/-- A field of every kind, some under column names that are no identifiers. -/
def wide : Model where
  key := 2
  name := "Wide"
  consulted := []
  type := wideType
  mapping := {
    bindings := [⟨"b", (0 : Fin 11)⟩, ⟨"I", (1 : Fin 11)⟩, ⟨"l", (2 : Fin 11)⟩,
      ⟨"F F", (3 : Fin 11)⟩, ⟨"s", (4 : Fin 11)⟩, ⟨"ob", (5 : Fin 11)⟩, ⟨"Größe", (6 : Fin 11)⟩,
      ⟨"ol", (7 : Fin 11)⟩, ⟨"of", (8 : Fin 11)⟩, ⟨"", (9 : Fin 11)⟩, ⟨"ooi", (10 : Fin 11)⟩]
    distinct := by simp }

def empty : Model where
  key := 3
  name := "Empty"
  consulted := []
  type := ⟨[]⟩
  mapping := ⟨[], List.nodup_nil⟩

/-- Preferences that hold a choice before any is read. -/
def preferences : Model where
  key := 4
  name := "Prefs"
  consulted := []
  type := ⟨[⟨"volume", .scalar .int32, (50 : Int32)⟩, ⟨"theme", .scalar .varchar, "dark"⟩,
    ⟨"ratio", .scalar .float64, Binary64.mk 0x3FF8000000000000⟩,
    ⟨"enabled", .scalar .boolean, true⟩,
    ⟨"nick", .optional (.scalar .varchar), some "anon"⟩]⟩
  mapping := {
    bindings := [⟨"volume", (0 : Fin 5)⟩, ⟨"THEME", (1 : Fin 5)⟩, ⟨"ratio", (2 : Fin 5)⟩,
      ⟨"enabled", (3 : Fin 5)⟩, ⟨"nick", (4 : Fin 5)⟩]
    distinct := by simp }

/-- The last text among the columns of a customer, which it takes from there. -/
def latest : Model where
  key := 5
  name := "Mirror"
  consulted := [customer.heading]
  type := ⟨[.varchar "last"]⟩
  mapping := {
    bindings := customer.mapping.columns.map fun column => ⟨column, (0 : Fin 1)⟩
    distinct := by simp [customer, Mapping.columns] }

end Model

end Recordset
