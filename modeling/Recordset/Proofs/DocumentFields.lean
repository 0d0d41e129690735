import Mathlib.Data.List.Perm.Basic
import Mathlib.Data.List.Nodup
import Recordset.Document

/-!
# How documents spell a structure

A structure with given fields is spelled by an object or by a list. An object has the fields that
are written in any order, among entries under other keys that hold anything, and a list has the
first of the fields one by one and nothing else; either way the fields that are left out must be as
they are by default (`Document.Structured`). `structured_iff` is the top lemma: such a spelling is
one that can be read field by field, under the keys of the fields.
-/

set_option autoImplicit false

namespace Recordset

/-- A field of a structure that holds a certain value, seen from the documents that spell it. -/
structure FieldSpelling where
  /-- The key under which objects have the field. -/
  key : String
  /-- The document spells what the field holds. -/
  Spelled : Document → Prop
  /-- The field holds what it holds by default, and so it may be left out. -/
  IsDefault : Prop

namespace Document

/-- No object in the document, at whatever depth, has two entries under one key. -/
inductive DistinctKeys : Document → Prop
  | null : DistinctKeys .null
  | boolean (b : Bool) : DistinctKeys (.boolean b)
  | number (mantissa : Int) (scale : Nat) : DistinctKeys (.number mantissa scale)
  | text (s : String) : DistinctKeys (.text s)
  | list {items : List Document} (h : ∀ d ∈ items, DistinctKeys d) : DistinctKeys (.list items)
  | object {entries : List (String × Document)} (distinct : (entries.map Prod.fst).Nodup)
    (h : ∀ e ∈ entries, DistinctKeys e.2) : DistinctKeys (.object entries)

/-- The document spells a structure with these fields: each of them is written with a document that
spells it, or is left out and holds its default. -/
inductive Structured (fields : List FieldSpelling) : Document → Prop
  /-- An object has the written fields under their keys and anything under other keys, all of it in
  any order. -/
  | object {written : List (FieldSpelling × Document)} {left : List FieldSpelling}
    {other entries : List (String × Document)}
    (fields_perm : fields.Perm (written.map Prod.fst ++ left))
    (spelled : ∀ w ∈ written, w.1.Spelled w.2)
    (left_default : ∀ f ∈ left, f.IsDefault)
    (other_keys : ∀ e ∈ other, e.1 ∉ fields.map FieldSpelling.key)
    (entries_perm : entries.Perm (written.map (fun w => (w.1.key, w.2)) ++ other)) :
    Structured fields (.object entries)
  /-- A list has the written fields in the order of the structure, and only the last fields are left
  out. -/
  | list {written : List (FieldSpelling × Document)} {left : List FieldSpelling}
    (fields_eq : fields = written.map Prod.fst ++ left)
    (spelled : ∀ w ∈ written, w.1.Spelled w.2)
    (left_default : ∀ f ∈ left, f.IsDefault) :
    Structured fields (.list (written.map Prod.snd))

end Document

namespace FieldSpelling

/-- The first entry under the key of the field spells it, or there is none and the field holds its
default. -/
def Found (f : FieldSpelling) (entries : List (String × Document)) : Prop :=
  match entries.lookup f.key with
  | none => f.IsDefault
  | some d => f.Spelled d

theorem found_of_lookup_none {f : FieldSpelling} {entries : List (String × Document)}
    (h : entries.lookup f.key = none) : f.Found entries ↔ f.IsDefault := by
  rw [Found, h]

theorem found_of_lookup_some {f : FieldSpelling} {entries : List (String × Document)}
    {d : Document} (h : entries.lookup f.key = some d) : f.Found entries ↔ f.Spelled d := by
  rw [Found, h]

end FieldSpelling

namespace Document

variable {entries : List (String × Document)} {key : String} {fields : List FieldSpelling}

theorem lookup_eq_none_iff_not_mem : entries.lookup key = none ↔ key ∉ entries.map Prod.fst := by
  rw [List.lookup_eq_none_iff, List.mem_map]
  constructor
  · rintro h ⟨e, he, rfl⟩
    simpa using h e he
  · intro h e he
    rw [bne_iff_ne]
    rintro rfl
    exact h ⟨e, he, rfl⟩

/-- Among entries under different keys, each is the one found under its key. -/
theorem lookup_eq_some_iff_mem (h : (entries.map Prod.fst).Nodup) {d : Document} :
    entries.lookup key = some d ↔ (key, d) ∈ entries := by
  induction entries with
  | nil => simp
  | cons e entries ih =>
    obtain ⟨hhead, hrest⟩ := List.nodup_cons.1 h
    by_cases hkey : key = e.1
    · subst hkey
      have hother : (e.1, d) ∉ entries := fun hd => hhead (List.mem_map.2 ⟨(e.1, d), hd, rfl⟩)
      rw [List.lookup_cons_self, List.mem_cons, Option.some.injEq, Prod.ext_iff]
      simp [hother, eq_comm]
    · have hne : (key == e.1) = false := beq_false_of_ne hkey
      rw [List.lookup_cons, hne, List.mem_cons, Prod.ext_iff]
      simp [hkey, ih hrest]

/-- The fields that an object with these entries gives, each with its document. -/
def writtenIn (entries : List (String × Document)) (fields : List FieldSpelling) :
    List (FieldSpelling × Document) :=
  fields.filterMap fun f => (entries.lookup f.key).map fun d => (f, d)

theorem mem_writtenIn {w : FieldSpelling × Document} :
    w ∈ writtenIn entries fields ↔ w.1 ∈ fields ∧ entries.lookup w.1.key = some w.2 := by
  rw [writtenIn, List.mem_filterMap]
  constructor
  · rintro ⟨f, hf, h⟩
    obtain ⟨d, hd, rfl⟩ := Option.map_eq_some_iff.1 h
    exact ⟨hf, hd⟩
  · rintro ⟨hf, hd⟩
    exact ⟨w.1, hf, by rw [hd]; rfl⟩

theorem map_fst_writtenIn : (writtenIn entries fields).map Prod.fst =
    fields.filter fun f => (entries.lookup f.key).isSome := by
  induction fields with
  | nil => rfl
  | cons f fields ih =>
    rw [writtenIn] at ih ⊢
    cases hd : entries.lookup f.key with
    | none => simp [hd, ih]
    | some d => simp [hd, ih]

/-- An object spells a structure only if each field is found in it or left out by default: a field
that is left out is under no key of the object, since the keys of the fields are different. -/
theorem Structured.found (hfields : (fields.map FieldSpelling.key).Nodup)
    (hentries : (entries.map Prod.fst).Nodup) (h : Structured fields (.object entries)) :
    ∀ f ∈ fields, f.Found entries := by
  cases h with
  | @object written left other _ hsplit hspelled hleft hother horder =>
  intro f hf
  rcases List.mem_append.1 (hsplit.mem_iff.1 hf) with hwritten | hdefault
  · obtain ⟨w, hw, rfl⟩ := List.mem_map.1 hwritten
    have hentry : (w.1.key, w.2) ∈ entries :=
      horder.mem_iff.2 (List.mem_append_left _ (List.mem_map.2 ⟨w, hw, rfl⟩))
    rw [FieldSpelling.found_of_lookup_some ((lookup_eq_some_iff_mem hentries).2 hentry)]
    exact hspelled w hw
  · have hnone : entries.lookup f.key = none := by
      rw [lookup_eq_none_iff_not_mem, List.mem_map]
      rintro ⟨e, he, hkey⟩
      rcases List.mem_append.1 (horder.mem_iff.1 he) with hknown | hunknown
      · obtain ⟨w, hw, rfl⟩ := List.mem_map.1 hknown
        have hkeys := (hsplit.map FieldSpelling.key).nodup_iff.1 hfields
        rw [List.map_append, List.nodup_append] at hkeys
        have hmem : w.1.key ∈ (written.map Prod.fst).map FieldSpelling.key :=
          List.mem_map_of_mem (List.mem_map_of_mem hw)
        exact hkeys.2.2 _ hmem _ (List.mem_map_of_mem hdefault) hkey
      · exact hother e hunknown (hkey ▸ List.mem_map_of_mem hf)
    rw [FieldSpelling.found_of_lookup_none hnone]
    exact hleft f hdefault

/-- The entries of an object are those of the written fields and the rest. -/
theorem perm_writtenIn (hfields : (fields.map FieldSpelling.key).Nodup)
    (hentries : (entries.map Prod.fst).Nodup) :
    (entries.filter fun e => decide (e.1 ∈ fields.map FieldSpelling.key)).Perm
      ((writtenIn entries fields).map fun w => (w.1.key, w.2)) := by
  have hkeys : ((writtenIn entries fields).map fun w => (w.1.key, w.2)).map Prod.fst =
      (fields.filter fun f => (entries.lookup f.key).isSome).map FieldSpelling.key := by
    rw [← map_fst_writtenIn, List.map_map, List.map_map]
    rfl
  have hwritten : ((writtenIn entries fields).map fun w => (w.1.key, w.2)).Nodup := by
    apply List.Nodup.of_map Prod.fst
    rw [hkeys]
    exact hfields.sublist (List.filter_sublist.map _)
  apply (List.perm_ext_iff_of_nodup ((hentries.of_map _).filter _) hwritten).2
  intro e
  simp only [List.mem_filter, decide_eq_true_eq, List.mem_map, mem_writtenIn]
  constructor
  · rintro ⟨he, f, hf, hkey⟩
    exact ⟨(f, e.2), ⟨hf, (lookup_eq_some_iff_mem hentries).2 (hkey ▸ he)⟩, by rw [hkey]⟩
  · rintro ⟨w, ⟨hw, hlookup⟩, rfl⟩
    exact ⟨(lookup_eq_some_iff_mem hentries).1 hlookup, w.1, hw, rfl⟩

theorem structured_object (hfields : (fields.map FieldSpelling.key).Nodup)
    (hentries : (entries.map Prod.fst).Nodup) (h : ∀ f ∈ fields, f.Found entries) :
    Structured fields (.object entries) := by
  refine @Structured.object fields (writtenIn entries fields)
    (fields.filter fun f => !(entries.lookup f.key).isSome)
    (entries.filter fun e => !decide (e.1 ∈ fields.map FieldSpelling.key)) entries ?_ ?_ ?_ ?_ ?_
  · rw [map_fst_writtenIn]
    exact (List.filter_append_perm _ fields).symm
  · intro w hw
    obtain ⟨hfield, hlookup⟩ := mem_writtenIn.1 hw
    exact (FieldSpelling.found_of_lookup_some hlookup).1 (h w.1 hfield)
  · intro f hf
    obtain ⟨hfield, hnone⟩ := List.mem_filter.1 hf
    have hlookup : entries.lookup f.key = none := by simpa using hnone
    exact (FieldSpelling.found_of_lookup_none hlookup).1 (h f hfield)
  · intro e he
    simpa using (List.mem_filter.1 he).2
  · have hsplit := List.filter_append_perm
      (fun e : String × Document => decide (e.1 ∈ fields.map FieldSpelling.key)) entries
    exact hsplit.symm.trans ((perm_writtenIn hfields hentries).append_right _)

theorem found_cons_of_ne {f : FieldSpelling} {e : String × Document} (h : f.key ≠ e.1) :
    f.Found (e :: entries) ↔ f.Found entries := by
  have hlookup : (e :: entries).lookup f.key = entries.lookup f.key := by
    rw [List.lookup_cons, beq_false_of_ne h]
  rw [FieldSpelling.Found, FieldSpelling.Found, hlookup]

theorem structured_list_nil :
    Structured fields (.list []) ↔ ∀ f ∈ fields, f.IsDefault := by
  constructor
  · intro h
    generalize hitems : Document.list [] = d at h
    cases h with
    | object => cases hitems
    | list hfields hspelled hleft =>
      have hwritten := List.map_eq_nil_iff.1 (Document.list.inj hitems).symm
      rw [hfields, hwritten]
      exact hleft
  · intro h
    have hnone : ∀ w ∈ ([] : List (FieldSpelling × Document)), w.1.Spelled w.2 := nofun
    exact @Structured.list fields [] fields rfl hnone h

theorem structured_list_cons {f : FieldSpelling} {d : Document} {items : List Document} :
    Structured (f :: fields) (.list (d :: items)) ↔
      f.Spelled d ∧ Structured fields (.list items) := by
  constructor
  · intro h
    generalize hitems : Document.list (d :: items) = spelling at h
    cases h with
    | object => cases hitems
    | @list written left hfields hspelled hleft =>
      cases written with
      | nil => cases hitems
      | cons w written =>
        cases hitems
        cases hfields
        rw [List.forall_mem_cons] at hspelled
        exact ⟨hspelled.1, .list rfl hspelled.2 hleft⟩
  · rintro ⟨hspelled, h⟩
    generalize hitems : Document.list items = spelling at h
    cases h with
    | object => cases hitems
    | @list written left hfields hrest hleft =>
      cases hitems
      exact @Structured.list (f :: fields) ((f, d) :: written) left (congrArg (f :: ·) hfields)
        (List.forall_mem_cons.2 ⟨hspelled, hrest⟩) hleft

theorem length_le_of_structured {items : List Document} (h : Structured fields (.list items)) :
    items.length ≤ fields.length := by
  generalize hitems : Document.list items = spelling at h
  cases h with
  | object => cases hitems
  | list hfields =>
    cases hitems
    rw [hfields, List.length_append, List.length_map, List.length_map]
    exact Nat.le_add_right _ _

/-- A list spells a structure exactly if it is not too long and each field is found at its place or
left out by default, by induction over the list. -/
theorem structured_list_iff (hfields : (fields.map FieldSpelling.key).Nodup)
    (items : List Document) : Structured fields (.list items) ↔
      items.length ≤ fields.length ∧
        ∀ f ∈ fields, f.Found ((fields.map FieldSpelling.key).zip items) := by
  induction items generalizing fields with
  | nil =>
    have hfound : ∀ f : FieldSpelling, f.Found [] ↔ f.IsDefault :=
      fun f => FieldSpelling.found_of_lookup_none rfl
    simp [structured_list_nil, hfound]
  | cons d items ih =>
    cases fields with
    | nil =>
      have htoo : ¬ (d :: items).length ≤ ([] : List FieldSpelling).length := by simp
      exact iff_of_false (fun h => htoo (length_le_of_structured h)) fun h => htoo h.1
    | cons f fields =>
      rw [List.map_cons, List.nodup_cons] at hfields
      have hhead : f.Found ((f.key, d) :: (fields.map FieldSpelling.key).zip items) ↔
          f.Spelled d := FieldSpelling.found_of_lookup_some List.lookup_cons_self
      have hrest : ∀ g ∈ fields,
          g.Found ((f.key, d) :: (fields.map FieldSpelling.key).zip items) ↔
            g.Found ((fields.map FieldSpelling.key).zip items) := by
        intro g hg
        apply found_cons_of_ne
        intro hkey
        have hmem : g.key ∈ fields.map FieldSpelling.key := List.mem_map_of_mem hg
        rw [hkey] at hmem
        exact hfields.1 hmem
      rw [structured_list_cons, ih hfields.2, List.map_cons, List.zip_cons_cons,
        List.forall_mem_cons, hhead, forall₂_congr hrest, List.length_cons, List.length_cons,
        Nat.add_le_add_iff_right]
      exact and_left_comm

/-- The entries in which a structure with these fields is read from a document have different
keys. -/
theorem nodup_of_fields? {keys : List String} (hkeys : keys.Nodup) {d : Document}
    (hd : d.DistinctKeys) (h : d.fields? keys = some entries) :
    (entries.map Prod.fst).Nodup := by
  cases hd with
  | object distinct =>
    cases h
    exact distinct
  | @list items =>
    rw [fields?] at h
    split at h
    · cases h
      rw [List.zip_eq_zip_take_min, List.map_fst_zip (by simp)]
      exact hkeys.sublist (List.take_sublist _ _)
    · cases h
  | _ => cases h

/-- A document spells a structure exactly if it can be read as one and each field is found there or
left out by default. -/
theorem structured_iff (hfields : (fields.map FieldSpelling.key).Nodup) {d : Document}
    (hd : d.DistinctKeys) : Structured fields d ↔
      ∃ entries, d.fields? (fields.map FieldSpelling.key) = some entries ∧
        ∀ f ∈ fields, f.Found entries := by
  cases hd with
  | @object entries distinct =>
    constructor
    · intro h
      exact ⟨entries, rfl, h.found hfields distinct⟩
    · rintro ⟨_, hsome, hfound⟩
      cases hsome
      exact structured_object hfields distinct hfound
  | @list items =>
    rw [structured_list_iff hfields, fields?, List.length_map]
    split
    · simp [*]
    · simp [*]
  | _ =>
    constructor
    · intro h
      cases h
    · rintro ⟨_, hsome, -⟩
      cases hsome

/-- What a document gives as the fields of a structure is part of it, so keys are different there,
too. -/
theorem distinctKeys_of_fields? {keys : List String} {d : Document} (hd : d.DistinctKeys)
    (h : d.fields? keys = some entries) : ∀ e ∈ entries, e.2.DistinctKeys := by
  cases hd with
  | object distinct hentries =>
    cases h
    exact hentries
  | @list items hitems =>
    rw [fields?] at h
    split at h
    · cases h
      intro e he
      exact hitems e.2 (List.of_mem_zip he).2
    · cases h
  | _ => cases h

/-- The document gives a structure with these keys the field under one of them: an object by its
key, and a list at its place. -/
def Gives (d : Document) (keys : List String) (key : String) (field : Document) : Prop :=
  match d with
  | object entries => (key, field) ∈ entries
  | list items => (key, field) ∈ keys.zip items
  | null | boolean _ | number _ _ | text _ => False

/-- A document gives a field exactly if the field is found where the structure is read from. -/
theorem gives_iff_lookup {keys : List String} (hkeys : keys.Nodup) {d field : Document}
    (hd : d.DistinctKeys) (h : d.fields? keys = some entries) :
    d.Gives keys key field ↔ entries.lookup key = some field := by
  rw [lookup_eq_some_iff_mem (nodup_of_fields? hkeys hd h)]
  cases d with
  | object =>
    cases h
    rfl
  | list =>
    rw [fields?] at h
    split at h
    · cases h
      rfl
    · cases h
  | _ => cases h

theorem DistinctKeys.of_gives {keys : List String} {d field : Document} (hd : d.DistinctKeys)
    (h : d.Gives keys key field) : field.DistinctKeys := by
  cases hd with
  | object distinct hentries => exact hentries _ h
  | list hitems => exact hitems _ (List.of_mem_zip h).2
  | _ => cases h

namespace Structured

variable {d field : Document} {f : FieldSpelling}

/-- What a spelling of a structure gives as one of the fields spells the field. -/
theorem spelled_of_gives (h : Structured fields d)
    (hfields : (fields.map FieldSpelling.key).Nodup) (hd : d.DistinctKeys) (hf : f ∈ fields)
    (hgives : d.Gives (fields.map FieldSpelling.key) f.key field) : f.Spelled field := by
  obtain ⟨entries, hentries, hfound⟩ := (structured_iff hfields hd).1 h
  have hlookup := (gives_iff_lookup hfields hd hentries).1 hgives
  exact (FieldSpelling.found_of_lookup_some hlookup).1 (hfound f hf)

/-- A spelling of a structure gives each field that does not hold its default. -/
theorem exists_gives (h : Structured fields d) (hfields : (fields.map FieldSpelling.key).Nodup)
    (hd : d.DistinctKeys) (hf : f ∈ fields) (hdefault : ¬ f.IsDefault) :
    ∃ field, d.Gives (fields.map FieldSpelling.key) f.key field := by
  obtain ⟨entries, hentries, hfound⟩ := (structured_iff hfields hd).1 h
  cases hlookup : entries.lookup f.key with
  | none => exact absurd ((FieldSpelling.found_of_lookup_none hlookup).1 (hfound f hf)) hdefault
  | some field => exact ⟨field, (gives_iff_lookup hfields hd hentries).2 hlookup⟩

end Structured

end Document

end Recordset
