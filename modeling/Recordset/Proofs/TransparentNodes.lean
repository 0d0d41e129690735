import Recordset.Proofs.TermGrouping
import Recordset.Proofs.TermRefusal

/-!
# Nodes that add nothing

A wrapper, a lambda and an embedded term add nothing to what they hold, and one disjunction is
written as the other. `Term.bare` leaves the former out and takes the latter for one, at every
depth, and `Term.Reclad` relates two terms that such nodes alone tell apart. A term and its bare
form have one text or one failure (`text_bare`), and two terms have one bare form exactly if they
are the same but for such nodes (`reclad_iff_bare_eq`). `statement_withTerm_bare` is the top
theorem: what adds nothing to a term never shows in a statement, nor in a failure to make one.
-/

set_option autoImplicit false

namespace Recordset

theorem BinaryOp.token?_plain (op : BinaryOp) : op.plain.token? = op.token? := by
  cases op <;> rfl

/-- An operator that no statement can hold is none of the two disjunctions. -/
theorem BinaryOp.plain_of_token? {op : BinaryOp} (h : op.token? = none) : op.plain = op := by
  cases op with
  | orElse => cases h
  | _ => rfl

namespace Term

/-- The term without wrappers, lambdas and embeddings, its disjunctions taken for one and its
operators left where they are. -/
def bare (t : Term) : Term := t.normal fun _ _ => false

theorem bare_binary (op : BinaryOp) (l r : Term) :
    (binary op l r).bare = binary op.plain l.bare r.bare := by
  rcases joined_cases (fun _ _ => false) op.plain l.bare with ⟨_, _, _, -, hpast, -⟩ | hfront
  · cases hpast
  · exact hfront r.bare

theorem bare_call (method : String) (arguments : List Term) :
    (call method arguments).bare = call method (arguments.map bare) := by
  rw [bare, normal, normalAll_eq_map]
  rfl

/-- Whether a node adds nothing to what it holds, or is the disjunction that is written as the
other one. -/
def isTransparent : Term → Bool
  | wrap _ | lambda _ _ | embed _ | binary .orElse _ _ => true
  | binary _ _ _ | unary _ _ | call _ _ | member _ | parameter _ | literal _ => false

theorem isTransparent_plain (op : BinaryOp) (l r : Term) :
    (binary op.plain l r).isTransparent = false := by
  cases op <;> rfl

/-- A bare form holds no transparent node at any depth. -/
theorem isTransparent_of_mem_bare {t node : Term} (h : node ∈ t.bare.nodes) :
    node.isTransparent = false := by
  induction t with
  | binary op l r ihl ihr =>
    rw [bare_binary, nodes, List.mem_cons, List.mem_append] at h
    rcases h with rfl | h | h
    · exact isTransparent_plain op l.bare r.bare
    · exact ihl h
    · exact ihr h
  | unary op t ih =>
    rcases List.mem_cons.1 h with rfl | h
    · rfl
    · exact ih h
  | wrap t ih => exact ih h
  | lambda p body ih => exact ih h
  | call method arguments ih =>
    rw [bare_call, nodes, List.mem_cons, nodesAll_eq_flatMap, List.mem_flatMap] at h
    rcases h with rfl | ⟨u, hu, hnode⟩
    · rfl
    · obtain ⟨t, ht, rfl⟩ := List.mem_map.1 hu
      exact ih t ht hnode
  | member name =>
    rw [List.mem_singleton.1 h]
    rfl
  | parameter name =>
    rw [List.mem_singleton.1 h]
    rfl
  | literal l =>
    rw [List.mem_singleton.1 h]
    rfl
  | embed inner ih => exact ih h

variable {methods : Allowance}

/-- A term and its bare form have one text or one failure, by induction over the term: what is left
out hands on what it holds, and a node that is blamed stays in the bare form under its name. -/
theorem text_bare (t : Term) : t.bare.text methods = t.text methods := by
  induction t with
  | binary op l r ihl ihr =>
    rw [bare_binary, text, text, BinaryOp.token?_plain, ihl, ihr]
    cases htoken : op.token? with
    | some token => rfl
    | none =>
      rw [BinaryOp.plain_of_token? htoken]
      rfl
  | unary op t ih => rfl
  | wrap t ih => exact ih
  | lambda p body ih => exact ih
  | call method arguments ih =>
    rw [bare_call, text, text, texts_map ih]
    rfl
  | member name => rfl
  | parameter name => rfl
  | literal l => rfl
  | embed inner ih => exact ih

/-- The second term comes from the first by putting in transparent nodes and taking them out, any
number of them at any depth. -/
inductive Reclad : Term → Term → Prop
  | refl (t : Term) : Reclad t t
  | symm {t u : Term} (h : Reclad t u) : Reclad u t
  | trans {t u v : Term} (h : Reclad t u) (h' : Reclad u v) : Reclad t v
  | wrap (t : Term) : Reclad t (.wrap t)
  | lambda (p : String) (t : Term) : Reclad t (.lambda p t)
  | embed (t : Term) : Reclad t (.embed t)
  | orElse (l r : Term) : Reclad (.binary .or l r) (.binary .orElse l r)
  | left (op : BinaryOp) {l l' : Term} (r : Term) (h : Reclad l l') :
    Reclad (.binary op l r) (.binary op l' r)
  | right (op : BinaryOp) (l : Term) {r r' : Term} (h : Reclad r r') :
    Reclad (.binary op l r) (.binary op l r')
  | operand (op : UnaryOp) {t u : Term} (h : Reclad t u) : Reclad (.unary op t) (.unary op u)
  | argument (method : String) (pre post : List Term) {t u : Term} (h : Reclad t u) :
    Reclad (.call method (pre ++ t :: post)) (.call method (pre ++ u :: post))

theorem Reclad.bare_eq {t u : Term} (h : Reclad t u) : t.bare = u.bare := by
  induction h with
  | refl t => rfl
  | symm h ih => exact ih.symm
  | trans h h' ih ih' => exact ih.trans ih'
  | wrap t => rfl
  | lambda p t => rfl
  | embed t => rfl
  | orElse l r =>
    rw [bare_binary, bare_binary]
    rfl
  | left op r h ih => rw [bare_binary, bare_binary, ih]
  | right op l h ih => rw [bare_binary, bare_binary, ih]
  | operand op h ih => exact congrArg (unary op) ih
  | argument method pre post h ih =>
    rw [bare_call, bare_call, List.map_append, List.map_append, List.map_cons, List.map_cons, ih]

/-- The arguments of a call can be replaced one after another. -/
theorem Reclad.call (method : String) {f : Term → Term} (pre : List Term) {ts : List Term}
    (h : ∀ t ∈ ts, Reclad t (f t)) :
    Reclad (.call method (pre ++ ts)) (.call method (pre ++ ts.map f)) := by
  induction ts generalizing pre with
  | nil => exact Reclad.refl _
  | cons t ts ih =>
    have hhead : Reclad (.call method (pre ++ t :: ts)) (.call method (pre ++ f t :: ts)) :=
      Reclad.argument method pre ts (h t List.mem_cons_self)
    have hrest : Reclad (.call method ((pre ++ [f t]) ++ ts))
        (.call method ((pre ++ [f t]) ++ ts.map f)) := by
      apply ih
      intro u hu
      exact h u (List.mem_cons_of_mem t hu)
    rw [List.append_assoc, List.append_assoc] at hrest
    exact hhead.trans hrest

theorem Reclad.plain (op : BinaryOp) (l r : Term) :
    Reclad (.binary op l r) (.binary op.plain l r) := by
  cases op with
  | orElse => exact (Reclad.orElse l r).symm
  | _ => exact Reclad.refl _

theorem reclad_bare (t : Term) : Reclad t t.bare := by
  induction t with
  | binary op l r ihl ihr =>
    rw [bare_binary]
    exact ((ihl.left op r).trans (ihr.right op l.bare)).trans (Reclad.plain op l.bare r.bare)
  | unary op t ih => exact ih.operand op
  | wrap t ih => exact (Reclad.wrap t).symm.trans ih
  | lambda p body ih => exact (Reclad.lambda p body).symm.trans ih
  | call method arguments ih =>
    rw [bare_call]
    exact Reclad.call method [] ih
  | member name => exact Reclad.refl _
  | parameter name => exact Reclad.refl _
  | literal l => exact Reclad.refl _
  | embed inner ih => exact (Reclad.embed inner).symm.trans ih

/-- Transparent nodes are all that tells two terms of one bare form apart. -/
theorem reclad_iff_bare_eq {t u : Term} : Reclad t u ↔ t.bare = u.bare := by
  constructor
  · exact Reclad.bare_eq
  · intro h
    have ht : Reclad t u.bare := h ▸ reclad_bare t
    exact ht.trans (reclad_bare u).symm

end Term

namespace Clause

/-- The clause of the same kind with another term. -/
def withTerm : Clause → Term → Clause
  | filter _, t => filter t
  | project _, t => project t

theorem statement_withTerm {methods : Allowance} (table : String) {clause : Clause} {t : Term}
    (h : t.text methods = clause.term.text methods) :
    (clause.withTerm t).statement methods table = clause.statement methods table := by
  cases clause with
  | filter predicate =>
    have htext : t.text methods = predicate.text methods := h
    rw [withTerm, statement, statement, htext]
  | project projection =>
    have htext : t.text methods = projection.text methods := h
    rw [withTerm, statement, statement, htext]

/-- A clause and the one whose term is bare have one statement, or fail alike, and the bare term
has no transparent node left. So putting transparent nodes into a term or taking them out, however
many and wherever, changes neither the statement nor the failure. -/
theorem statement_withTerm_bare (methods : Allowance) (table : String) (clause : Clause) :
    (clause.withTerm clause.term.bare).statement methods table = clause.statement methods table ∧
      (∀ node ∈ clause.term.bare.nodes, node.isTransparent = false) ∧
      ∀ t, clause.term.Reclad t →
        (clause.withTerm t).statement methods table = clause.statement methods table := by
  refine ⟨?_, fun node hnode => Term.isTransparent_of_mem_bare hnode, ?_⟩
  · exact statement_withTerm table clause.term.text_bare
  · intro t hreclad
    apply statement_withTerm table
    rw [← t.text_bare, ← Term.reclad_iff_bare_eq.1 hreclad, clause.term.text_bare]

end Clause

end Recordset
