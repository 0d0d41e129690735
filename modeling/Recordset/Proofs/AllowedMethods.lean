import Recordset.Proofs.TermRefusal

/-!
# What an allowance can change

An allowance is asked about the methods that a term calls (`Term.called`) and about nothing else, so
two allowances that agree on them give the term one text or one failure (`text_eq_of_agree`). A term
that has a text calls permitted methods only (`permits_of_text`). `statement_only_iff` is the top
theorem: listing the allowed methods keeps a statement or takes it away, but never alters it.
-/

set_option autoImplicit false

namespace Recordset

namespace NameSet

/-- A set gives its names the one value there is, so sets of the same names are one set. -/
theorem ext_contains {s t : NameSet} (h : ∀ name, s.contains name = t.contains name) : s = t := by
  apply NameMap.ext_get?
  intro name
  have hname := h name
  rw [contains, contains] at hname
  cases hs : NameMap.get? s name <;> cases ht : NameMap.get? t name <;> simp_all

/-- A set is the one built from a list exactly if its names are those of the list. -/
theorem eq_ofNames_iff {s : NameSet} {names : List String} :
    s = ofNames names ↔ ∀ name, s.contains name = true ↔ name ∈ names := by
  constructor
  · rintro rfl name
    rw [contains_ofNames, List.contains_iff_mem]
  · intro h
    apply ext_contains
    intro name
    rw [contains_ofNames, Bool.eq_iff_iff, h name, List.contains_iff_mem]

/-- Lists of the same names, in whatever order and however often, are one set. -/
theorem ofNames_eq_of_mem_iff {names others : List String}
    (h : ∀ name, name ∈ names ↔ name ∈ others) : ofNames names = ofNames others := by
  rw [eq_ofNames_iff]
  intro name
  rw [contains_ofNames, List.contains_iff_mem, h name]

end NameSet

theorem Allowance.permits_only_ofNames (names : List String) (method : String) :
    (Allowance.only (NameSet.ofNames names)).permits method = true ↔ method ∈ names := by
  rw [permits, NameSet.contains_ofNames, List.contains_iff_mem]

namespace Term

/-- The method that a node calls, if it is a call. -/
def method? : Term → Option String
  | call method _ => some method
  | binary _ _ _ | unary _ _ | wrap _ | lambda _ _ | member _ | parameter _ | literal _
  | embed _ => none

/-- The methods that a term calls, wherever in it a call stands. -/
def called (t : Term) : List String := t.nodes.filterMap method?

theorem mem_called_iff {method : String} {t : Term} :
    method ∈ t.called ↔ ∃ arguments, call method arguments ∈ t.nodes := by
  rw [called, List.mem_filterMap]
  constructor
  · rintro ⟨node, hnode, hmethod⟩
    cases node with
    | call m arguments =>
      cases hmethod
      exact ⟨arguments, hnode⟩
    | _ => cases hmethod
  · rintro ⟨arguments, hnode⟩
    exact ⟨call method arguments, hnode, rfl⟩

theorem called_binary (op : BinaryOp) (l r : Term) :
    (binary op l r).called = l.called ++ r.called := by
  rw [called, nodes, List.filterMap_cons_none rfl, List.filterMap_append, called, called]

theorem called_call (method : String) (arguments : List Term) :
    (call method arguments).called = method :: arguments.flatMap called := by
  have hmethod : method? (call method arguments) = some method := rfl
  rw [called, nodes, List.filterMap_cons_some hmethod, nodesAll_eq_flatMap, List.filterMap_flatMap]
  rfl

variable {methods others : Allowance}

/-- Allowances that agree on the methods of a term give it the same text or the same failure, by
induction over the term: a call asks for its own method, and its arguments for theirs. -/
theorem text_eq_of_agree {t : Term}
    (h : ∀ method ∈ t.called, methods.permits method = others.permits method) :
    t.text methods = t.text others := by
  induction t with
  | binary op l r ihl ihr =>
    rw [called_binary, List.forall_mem_append] at h
    rw [text, text, ihl h.1, ihr h.2]
  | unary op t ih => rfl
  | wrap t ih => exact ih h
  | lambda p body ih => exact ih h
  | call method arguments ih =>
    rw [called_call, List.forall_mem_cons] at h
    obtain ⟨hmethod, harguments⟩ := h
    have hall : ∀ t ∈ arguments, (id t).text methods = t.text others := by
      intro t ht
      apply ih t ht
      intro m hm
      exact harguments m (List.mem_flatMap.2 ⟨t, ht, hm⟩)
    have htexts := texts_map hall
    rw [List.map_id] at htexts
    rw [text, text, hmethod, htexts]
  | member name => rfl
  | parameter name => rfl
  | literal l => rfl
  | embed inner ih => exact ih h

/-- A term that has a text calls no method that is not permitted: such a call would be an offending
node. -/
theorem permits_of_text {t : Term} {s : String} (h : t.text methods = .ok s) :
    ∀ method ∈ t.called, methods.permits method = true := by
  intro method hmethod
  obtain ⟨arguments, hnode⟩ := mem_called_iff.1 hmethod
  have hnone : t.nodes.find? (unsupported methods) = none := t.settles_text.ok_iff.1 ⟨s, h⟩
  have hsupported : ¬ (call method arguments).unsupported methods = true :=
    List.find?_eq_none.1 hnone _ hnode
  simpa only [unsupported, Bool.not_eq_true', Bool.not_eq_false] using hsupported

end Term

namespace Clause

variable {methods others : Allowance} {table : String} {clause : Clause}

theorem statement_eq_of_agree
    (h : ∀ method ∈ clause.term.called, methods.permits method = others.permits method) :
    clause.statement methods table = clause.statement others table := by
  cases clause with
  | filter predicate =>
    have htext : predicate.text methods = predicate.text others := Term.text_eq_of_agree h
    rw [statement, statement, htext]
  | project projection =>
    have htext : projection.text methods = projection.text others := Term.text_eq_of_agree h
    rw [statement, statement, htext]

theorem permits_of_statement {s : Statement} (h : clause.statement methods table = .ok s) :
    ∀ method ∈ clause.term.called, methods.permits method = true := by
  cases clause with
  | filter predicate =>
    obtain ⟨condition, hcondition, -⟩ := Term.exists_of_bind_eq_ok h
    exact Term.permits_of_text hcondition
  | project projection =>
    obtain ⟨text, htext, -⟩ := Term.exists_of_bind_eq_ok h
    exact Term.permits_of_text htext

/-- An allowance that permits what a term calls is as good as one that permits everything. -/
theorem statement_of_permits
    (h : ∀ method ∈ clause.term.called, methods.permits method = true) :
    clause.statement methods table = clause.statement .any table := by
  apply statement_eq_of_agree
  intro method hmethod
  rw [h method hmethod, Allowance.permits]

/-- An allowance keeps the statement that a clause has where every method is allowed, if it permits
the methods that the term calls, and gives it no statement otherwise. -/
theorem statement_eq_ok_iff (s : Statement) :
    clause.statement methods table = .ok s ↔
      clause.statement .any table = .ok s ∧
        ∀ method ∈ clause.term.called, methods.permits method = true := by
  constructor
  · intro h
    have hpermits := permits_of_statement h
    rw [← statement_of_permits hpermits]
    exact ⟨h, hpermits⟩
  · rintro ⟨h, hpermits⟩
    rw [statement_of_permits hpermits]
    exact h

/-- Under a list of allowed methods a clause has a statement exactly if it has this statement where
every method is allowed and each method that its term calls anywhere is one of the list. So no two
allowances give a clause different statements, a longer list keeps every statement, and neither the
order of the list nor a repetition in it matters. -/
theorem statement_only_iff (table : String) (clause : Clause) :
    let under := fun names => clause.statement (.only (NameSet.ofNames names)) table
    (∀ names s, under names = .ok s ↔
        clause.statement .any table = .ok s ∧ ∀ method ∈ clause.term.called, method ∈ names) ∧
      (∀ methods others s s', clause.statement methods table = .ok s →
        clause.statement others table = .ok s' → s = s') ∧
      (∀ names more s, names ⊆ more → under names = .ok s → under more = .ok s) ∧
      ∀ names others, (∀ name, name ∈ names ↔ name ∈ others) → under names = under others := by
  intro under
  have hunder : ∀ names s, under names = .ok s ↔
      clause.statement .any table = .ok s ∧ ∀ method ∈ clause.term.called, method ∈ names := by
    intro names s
    rw [statement_eq_ok_iff]
    simp only [Allowance.permits_only_ofNames]
  refine ⟨hunder, ?_, ?_, ?_⟩
  · intro methods others s s' h h'
    have hany := (statement_eq_ok_iff s).1 h
    have hany' := (statement_eq_ok_iff s').1 h'
    exact Except.ok.inj (hany.1.symm.trans hany'.1)
  · intro names more s hsubset h
    obtain ⟨hany, hnames⟩ := (hunder names s).1 h
    exact (hunder more s).2 ⟨hany, fun method hmethod => hsubset (hnames method hmethod)⟩
  · intro names others hsame
    simp only [under, NameSet.ofNames_eq_of_mem_iff hsame]

end Clause

end Recordset
