import Mathlib.Tactic.Tauto
import Recordset.Source.Journal

/-!
# Record types are described once

A process leaves a record out that describes a type which it knows (`LogRecord.once`). Records that
come after others are left as if the types that these describe were known (`once_append`), so each
type is described at most once, however often it is looked up (`nodup_once`). A process that knows
more types leaves what one leaves that knows fewer, but for the descriptions of those that only the
first one knows (`once_eq_filter`).
-/

set_option autoImplicit false

namespace Recordset

namespace LogRecord

variable {known : List Nat} {rs : List LogRecord}

@[simp] theorem once_nil (known : List Nat) : once known [] = [] := rfl

theorem isStale_iff {r : LogRecord} :
    r.isStale known = true ↔ ∃ key ∈ known, r.key? = some key := by
  unfold isStale
  cases r.key? <;> simp

theorem filterMap_key?_cons (r : LogRecord) (rest : List LogRecord) :
    (r :: rest).filterMap key? = r.key?.toList ++ rest.filterMap key? := by
  cases hkey : r.key? with
  | none => rw [List.filterMap_cons_none hkey]; rfl
  | some key => rw [List.filterMap_cons_some hkey]; rfl

theorem once_append (known : List Nat) (rs rs' : List LogRecord) :
    once known (rs ++ rs') = once known rs ++ once (known ++ rs.filterMap key?) rs' := by
  induction rs generalizing known with
  | nil => simp
  | cons r rest ih =>
    rw [List.cons_append, once, once, ih, filterMap_key?_cons, List.append_assoc]
    split <;> rfl

/-- Records that describe no types are all left. -/
theorem once_eq_self (h : rs.filterMap key? = []) : once known rs = rs := by
  induction rs generalizing known with
  | nil => rfl
  | cons r rest ih =>
    obtain ⟨hkey, hrest⟩ : r.key? = none ∧ rest.filterMap key? = [] := by
      cases hkey : r.key? with
      | none => exact ⟨rfl, by simpa [hkey] using h⟩
      | some key => simp [hkey] at h
    have hfresh : r.isStale known = false := by rw [isStale, hkey]; rfl
    simp only [once, hfresh, Bool.false_eq_true, if_false, ih hrest]

/-- Leaving records out that describe a type does not change what is said of the others. -/
theorem countP_once {p : LogRecord → Bool} (h : ∀ heading, p (.described heading) = false)
    (known : List Nat) (rs : List LogRecord) : (once known rs).countP p = rs.countP p := by
  induction rs generalizing known with
  | nil => rfl
  | cons r rest ih =>
    rw [once, List.countP_cons]
    split
    · rename_i hstale
      obtain ⟨key, -, hkey⟩ := isStale_iff.1 hstale
      have hnot : p r = false := by
        cases r with
        | described heading => exact h heading
        | _ => cases hkey
      rw [ih, hnot]
      rfl
    · rw [List.countP_cons, ih]

/-- A process that knows more types leaves the same records, without those that describe the types
that it knows besides. -/
theorem once_eq_filter {more besides : List Nat}
    (h : ∀ key, key ∈ more ↔ key ∈ known ∨ key ∈ besides) (rs : List LogRecord) :
    once more rs = (once known rs).filter fun r => !r.isStale besides := by
  induction rs generalizing known more with
  | nil => rfl
  | cons r rest ih =>
    have hkeys : ∀ key, key ∈ more ++ r.key?.toList ↔
        key ∈ known ++ r.key?.toList ∨ key ∈ besides := by
      intro key
      simp only [List.mem_append, h]
      tauto
    have hrest := ih hkeys
    have hstale : r.isStale more = (r.isStale known || r.isStale besides) := by
      unfold isStale
      cases r.key? with
      | none => rfl
      | some key => simp [h]
    simp only [once, hrest, hstale]
    cases r.isStale known <;> cases hbesides : r.isStale besides <;> simp [hbesides]

/-- The types that are known after records are those known before and those that the records left
describe. -/
theorem mem_known_iff {key : Nat} :
    key ∈ known ++ rs.filterMap key? ↔ key ∈ known ∨ key ∈ (once known rs).filterMap key? := by
  induction rs generalizing known with
  | nil => simp
  | cons r rest ih =>
    rw [filterMap_key?_cons, ← List.append_assoc, ih, once, List.mem_append]
    split
    · rename_i hstale
      obtain ⟨k, hk, hkey⟩ := isStale_iff.1 hstale
      have hold : key ∈ r.key?.toList → key ∈ known := by
        rw [hkey, Option.toList_some, List.mem_singleton]
        exact fun heq => heq ▸ hk
      tauto
    · rw [filterMap_key?_cons, List.mem_append, or_assoc]

/-- No type is described twice, and none that was known before. -/
theorem nodup_once (known : List Nat) (rs : List LogRecord) :
    ((once known rs).filterMap key?).Nodup ∧
      ∀ key ∈ (once known rs).filterMap key?, key ∉ known := by
  induction rs generalizing known with
  | nil => simp
  | cons r rest ih =>
    obtain ⟨hnodup, hnew⟩ := ih (known ++ r.key?.toList)
    simp only [List.mem_append, not_or] at hnew
    rw [once]
    split
    · exact ⟨hnodup, fun key hkey => (hnew key hkey).1⟩
    · rename_i hfresh
      cases hkey : r.key? with
      | none =>
        rw [hkey] at hnodup hnew
        rw [List.filterMap_cons_none hkey]
        exact ⟨hnodup, fun key h => (hnew key h).1⟩
      | some k =>
        rw [hkey] at hnodup hnew
        rw [List.filterMap_cons_some hkey, List.nodup_cons]
        refine ⟨⟨fun hk => (hnew k hk).2 (by simp), hnodup⟩, ?_⟩
        intro key hmem
        rcases List.mem_cons.1 hmem with rfl | hrest
        · exact fun hknown => hfresh (isStale_iff.2 ⟨key, hknown, hkey⟩)
        · exact (hnew key hrest).1

end LogRecord

end Recordset
