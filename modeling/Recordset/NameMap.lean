/-!
# Finite maps from names

A `NameMap α` gives each of finitely many names one value. Its entries are kept in strictly
ascending order of name, compared by code point, so two maps that answer every look-up alike are
the same map (`NameMap.ext_get?`), and the order in which `toList` lists the entries is the order
in which a map is shown. A later insertion of a name replaces an earlier one (`get?_insert`).
A `NameSet` is a map that keeps names alone.
-/

set_option autoImplicit false

namespace Recordset

/-- Finitely many names, each with one value, in strictly ascending order of name. -/
structure NameMap (α : Type) where
  entries : List (String × α)
  /-- Each name stands strictly after those before it. -/
  ascending : entries.Pairwise (fun a b => a.1 < b.1)

namespace NameMap

variable {α : Type}

/-- Puts a name with its value at its place in an ascending list, replacing an entry of that
name. -/
def insertEntry (name : String) (x : α) : List (String × α) → List (String × α)
  | [] => [(name, x)]
  | e :: rest =>
    if name < e.1 then (name, x) :: e :: rest
    else if name = e.1 then (name, x) :: rest
    else e :: insertEntry name x rest

/-- The value of the first entry under a name. -/
def findEntry (name : String) : List (String × α) → Option α
  | [] => none
  | e :: rest => if name = e.1 then some e.2 else findEntry name rest

theorem name_of_mem_insertEntry {name : String} {x : α} {es : List (String × α)}
    {e : String × α} (h : e ∈ insertEntry name x es) : e.1 = name ∨ e ∈ es := by
  induction es with
  | nil => simp_all [insertEntry]
  | cons d rest ih =>
    simp only [insertEntry] at h
    split at h
    · rcases List.mem_cons.1 h with rfl | h
      · exact Or.inl rfl
      · exact Or.inr h
    · split at h
      · rcases List.mem_cons.1 h with rfl | h
        · exact Or.inl rfl
        · exact Or.inr (List.mem_cons_of_mem _ h)
      · rcases List.mem_cons.1 h with rfl | h
        · exact Or.inr List.mem_cons_self
        · exact (ih h).imp id (List.mem_cons_of_mem _)

theorem ascending_insertEntry (name : String) (x : α) {es : List (String × α)}
    (h : es.Pairwise (fun a b => a.1 < b.1)) :
    (insertEntry name x es).Pairwise (fun a b => a.1 < b.1) := by
  induction es with
  | nil => simp [insertEntry]
  | cons d rest ih =>
    have hd : ∀ e ∈ rest, d.1 < e.1 := (List.pairwise_cons.1 h).1
    have hrest := (List.pairwise_cons.1 h).2
    simp only [insertEntry]
    split
    · rename_i hlt
      refine List.pairwise_cons.2 ⟨fun e he => ?_, h⟩
      rcases List.mem_cons.1 he with rfl | he
      · exact hlt
      · exact String.lt_trans hlt (hd e he)
    · split
      · rename_i heq
        exact List.pairwise_cons.2 ⟨fun e he => heq ▸ hd e he, hrest⟩
      · rename_i hlt heq
        refine List.pairwise_cons.2 ⟨fun e he => ?_, ih hrest⟩
        rcases name_of_mem_insertEntry he with hname | he
        · have hle : d.1 ≤ name := String.not_lt.1 hlt
          rw [hname]
          exact Std.lt_of_le_of_ne hle (fun h' => heq h'.symm)
        · exact hd e he

/-- The map that gives no name a value. -/
def empty : NameMap α := ⟨[], List.Pairwise.nil⟩

/-- The map with `name` given the value `x`, whatever it was before. -/
def insert (m : NameMap α) (name : String) (x : α) : NameMap α :=
  ⟨insertEntry name x m.entries, ascending_insertEntry name x m.ascending⟩

/-- The map without a value for `name`. -/
def erase (m : NameMap α) (name : String) : NameMap α :=
  ⟨m.entries.filter fun e => !decide (name = e.1), m.ascending.filter _⟩

/-- The value of a name, if the map gives it one. -/
def get? (m : NameMap α) (name : String) : Option α := findEntry name m.entries

def size (m : NameMap α) : Nat := m.entries.length

def isEmpty (m : NameMap α) : Bool := m.entries.isEmpty

/-- The entries in ascending order of name. -/
def toList (m : NameMap α) : List (String × α) := m.entries

/-- The map built by inserting the entries in order; of two with one name the later stays. -/
def ofList (es : List (String × α)) : NameMap α := es.foldl (fun m e => m.insert e.1 e.2) empty

@[simp] theorem get?_empty (name : String) : (empty : NameMap α).get? name = none := rfl

theorem findEntry_insertEntry (name k : String) (x : α) (es : List (String × α)) :
    findEntry k (insertEntry name x es) = if k = name then some x else findEntry k es := by
  induction es with
  | nil => rfl
  | cons d rest ih =>
    simp only [insertEntry]
    split
    · rfl
    · split
      · rename_i heq
        by_cases hk : k = name <;> simp [findEntry, ← heq, hk]
      · rename_i heq
        by_cases hk : k = name
        · subst hk
          simp [findEntry, ih, heq]
        · simp [findEntry, ih, hk]

/-- The last insertion of a name decides its value and touches no other name. -/
@[simp] theorem get?_insert (m : NameMap α) (name k : String) (x : α) :
    (m.insert name x).get? k = if k = name then some x else m.get? k :=
  findEntry_insertEntry name k x m.entries

theorem findEntry_filter (name k : String) (es : List (String × α)) :
    findEntry k (es.filter fun e => !decide (name = e.1)) =
      if k = name then none else findEntry k es := by
  induction es with
  | nil => by_cases hk : k = name <;> simp [findEntry]
  | cons d rest ih =>
    by_cases hn : name = d.1
    · rw [List.filter_cons_of_neg (by simp [hn]), ih]
      by_cases hk : k = name
      · simp [hk]
      · have hd : ¬ k = d.1 := fun h => hk (h.trans hn.symm)
        simp [findEntry, hk, hd]
    · rw [List.filter_cons_of_pos (by simp [hn])]
      by_cases hk : k = name
      · subst hk
        simp [findEntry, hn, ih]
      · simp [findEntry, hk, ih]

/-- Erasing a name leaves it without a value and touches no other. -/
@[simp] theorem get?_erase (m : NameMap α) (name k : String) :
    (m.erase name).get? k = if k = name then none else m.get? k :=
  findEntry_filter name k m.entries

theorem mem_of_findEntry {k : String} {x : α} {es : List (String × α)}
    (h : findEntry k es = some x) : (k, x) ∈ es := by
  induction es with
  | nil => cases h
  | cons d rest ih =>
    simp only [findEntry] at h
    split at h
    · rename_i hk
      cases h
      exact hk ▸ List.mem_cons_self
    · exact List.mem_cons_of_mem _ (ih h)

/-- In an ascending list each entry is the one found under its name. -/
theorem findEntry_of_mem {e : String × α} {es : List (String × α)}
    (h : es.Pairwise (fun a b => a.1 < b.1)) (he : e ∈ es) : findEntry e.1 es = some e.2 := by
  induction es with
  | nil => cases he
  | cons d rest ih =>
    rcases List.mem_cons.1 he with rfl | he
    · simp [findEntry]
    · have hlt : d.1 < e.1 := (List.pairwise_cons.1 h).1 e he
      have hne : ¬ e.1 = d.1 := fun heq => String.lt_irrefl d.1 (heq ▸ hlt)
      simp only [findEntry, hne, if_false]
      exact ih (List.pairwise_cons.1 h).2 he

/-- Two ascending lists that hold the same entries are one list. -/
theorem eq_of_mem_iff {es ds : List (String × α)}
    (he : es.Pairwise (fun a b => a.1 < b.1)) (hd : ds.Pairwise (fun a b => a.1 < b.1))
    (h : ∀ e, e ∈ es ↔ e ∈ ds) : es = ds := by
  induction es generalizing ds with
  | nil =>
    cases ds with
    | nil => rfl
    | cons d _ => exact absurd ((h d).2 List.mem_cons_self) List.not_mem_nil
  | cons e es ih =>
    cases ds with
    | nil => exact absurd ((h e).1 List.mem_cons_self) List.not_mem_nil
    | cons d ds =>
      have hes := List.pairwise_cons.1 he
      have hds := List.pairwise_cons.1 hd
      have head : e = d := by
        rcases List.mem_cons.1 ((h e).1 List.mem_cons_self) with heq | hmem
        · exact heq
        · rcases List.mem_cons.1 ((h d).2 List.mem_cons_self) with heq | hmem'
          · exact heq.symm
          · exact absurd (hes.1 d hmem') (String.lt_asymm (hds.1 e hmem))
      subst head
      congr 1
      refine ih hes.2 hds.2 fun c => ⟨fun hc => ?_, fun hc => ?_⟩
      · rcases List.mem_cons.1 ((h c).1 (List.mem_cons_of_mem _ hc)) with rfl | hmem
        · exact absurd (hes.1 c hc) (String.lt_irrefl _)
        · exact hmem
      · rcases List.mem_cons.1 ((h c).2 (List.mem_cons_of_mem _ hc)) with rfl | hmem
        · exact absurd (hds.1 c hc) (String.lt_irrefl _)
        · exact hmem

/-- An entry belongs to a map exactly when looking up its name finds its value. -/
theorem mem_entries_iff (m : NameMap α) (e : String × α) :
    e ∈ m.entries ↔ m.get? e.1 = some e.2 :=
  ⟨findEntry_of_mem m.ascending, fun h => mem_of_findEntry h⟩

/-- Maps that answer every look-up alike are equal. -/
theorem ext_get? {m n : NameMap α} (h : ∀ k, m.get? k = n.get? k) : m = n := by
  have : m.entries = n.entries := eq_of_mem_iff m.ascending n.ascending fun e => by
    rw [mem_entries_iff, mem_entries_iff, h]
  cases m
  cases n
  simp_all

instance [DecidableEq α] : DecidableEq (NameMap α) := fun m n =>
  if h : m.entries = n.entries then
    isTrue (by cases m; cases n; simp_all)
  else
    isFalse (fun heq => h (heq ▸ rfl))

end NameMap

/-- A finite set of names. -/
abbrev NameSet := NameMap Unit

namespace NameSet

/-- The set of the names listed, in whatever order and however often. -/
def ofNames (names : List String) : NameSet := NameMap.ofList (names.map fun n => (n, ()))

/-- Whether a name, compared exactly, belongs to the set. -/
def contains (s : NameSet) (name : String) : Bool := (NameMap.get? s name).isSome

def names (s : NameSet) : List String := (NameMap.toList s).map Prod.fst

/-- Building a set from a list keeps exactly the names of the list. -/
theorem contains_ofNames (ns : List String) (name : String) :
    (ofNames ns).contains name = ns.contains name := by
  have fold : ∀ (m : NameSet), (NameMap.get?
      ((ns.map fun n => (n, ())).foldl (fun m e => NameMap.insert m e.1 e.2) m) name).isSome =
        (ns.contains name || (NameMap.get? m name).isSome) := by
    induction ns with
    | nil => simp
    | cons n ns ih =>
      intro m
      simp only [List.map_cons, List.foldl_cons, ih, NameMap.get?_insert, List.contains_cons]
      by_cases h : name = n <;> simp [h, beq_eq_false_iff_ne.2]
  simpa [ofNames, contains, NameMap.ofList] using fold NameMap.empty

end NameSet

end Recordset
