import Recordset.Proofs.TermTokens

/-!
# The node that a statement cannot hold

A term is turned into text node by node, and it is refused when one of its nodes cannot stand in a
statement. `Term.nodes` lists the nodes in the order in which they are met, `Term.unsupported` tells
the offending ones apart without any text, and `Term.blame` spells out what each of them is called.
`refuses_first_unsupported` is the top theorem: a clause is refused exactly when its term has an
offending node anywhere, the failure names the first one, and it does not matter what the clause
does with the term.
-/

set_option autoImplicit false

namespace Recordset

namespace Term

mutual

/-- The nodes of a term, each before those that it holds, operands and arguments in order. -/
def nodes : Term → List Term
  | binary op l r => binary op l r :: (l.nodes ++ r.nodes)
  | unary op t => unary op t :: t.nodes
  | wrap t => wrap t :: t.nodes
  | lambda p body => lambda p body :: body.nodes
  | call method arguments => call method arguments :: nodesAll arguments
  | member name => [member name]
  | parameter name => [parameter name]
  | literal l => [literal l]
  | embed inner => embed inner :: inner.nodes

def nodesAll : List Term → List Term
  | [] => []
  | t :: ts => t.nodes ++ nodesAll ts

end

theorem nodesAll_eq_flatMap (ts : List Term) : nodesAll ts = ts.flatMap nodes := by
  induction ts with
  | nil => rfl
  | cons t ts ih => rw [nodesAll, ih, List.flatMap_cons]

/-- Whether a node cannot stand in a statement, whatever it holds. -/
def unsupported (methods : Allowance) : Term → Bool
  | binary .eq _ _ | binary .lt _ _ | binary .gt _ _ => false
  | binary .or _ _ | binary .orElse _ _ => false
  | binary _ _ _ | unary _ _ | parameter _ => true
  | call method _ => !methods.permits method
  | literal (.real x) => !x.isFinite
  | literal _ | wrap _ | lambda _ _ | member _ | embed _ => false

/-- What a failure calls a node that cannot stand in a statement. No failure is about any of the
other nodes. -/
def blame : Term → String
  | binary .add _ _ => "binary operator +"
  | binary .sub _ _ => "binary operator -"
  | binary .mul _ _ => "binary operator *"
  | binary .div _ _ => "binary operator /"
  | binary .ne _ _ => "binary operator !="
  | binary .le _ _ => "binary operator <="
  | binary .ge _ _ => "binary operator >="
  | binary .and _ _ => "binary operator AND"
  | unary .not _ => "unary operator NOT"
  | unary .negate _ => "unary operator -"
  | parameter name => "parameter " ++ name
  | call method _ => "method call " ++ method
  | literal (.real x) =>
    if x.isNaN then "non-finite float constant NaN"
    else if x.isNegative then "non-finite float constant -inf"
    else "non-finite float constant inf"
  | binary .eq _ _ | binary .lt _ _ | binary .gt _ _ | binary .or _ _ | binary .orElse _ _ => ""
  | wrap _ | lambda _ _ | member _ | literal _ | embed _ => ""

variable {methods : Allowance}

theorem isSome_token? (op : BinaryOp) (l r : Term) :
    op.token?.isSome = !(binary op l r).unsupported methods := by
  cases op <;> rfl

/-- The kind by which messages name a node is what it is blamed as, unless it is a number. -/
theorem kind_eq_blame {t : Term} (h : t.unsupported methods = true) (hl : ∀ l, t ≠ literal l) :
    t.kind = t.blame := by
  cases t with
  | binary op l r => cases op <;> first | rfl | cases h
  | unary op t => cases op <;> rfl
  | call method arguments => rfl
  | parameter name => rfl
  | literal l => exact absurd rfl (hl l)
  | wrap _ | lambda _ _ | member _ | embed _ => cases h

theorem specialName_eq_blame (x : Binary64) :
    "non-finite float constant " ++ x.specialName = (literal (.real x)).blame := by
  simp only [Binary64.specialName, blame]
  by_cases hnan : x.isNaN = true
  · rw [if_pos hnan, if_pos hnan]
    rfl
  · rw [if_neg hnan, if_neg hnan]
    split <;> rfl

/-- What a search for an offending node says of a computation: it fails with the name of the node
that was found, and succeeds if none was. -/
def Settles {α : Type} (found : Option Term) (x : Except Failure α) : Prop :=
  match found with
  | some node => x = .error (.unsupported node.blame)
  | none => ∃ y, x = .ok y

/-- Of two steps the first one decides, unless it finds nothing. -/
theorem Settles.bind {α β : Type} {found more : Option Term} {x : Except Failure α}
    {f : α → Except Failure β} (hx : Settles found x) (hf : ∀ y, Settles more (f y)) :
    Settles (found.or more) (x >>= f) := by
  cases found with
  | some node =>
    have hfail : x = .error (.unsupported node.blame) := hx
    rw [hfail]
    rfl
  | none =>
    obtain ⟨y, hy⟩ := hx
    rw [hy]
    exact hf y

theorem Settles.map {α β : Type} {found : Option Term} {x : Except Failure α} (f : α → β)
    (hx : Settles found x) : Settles found (x >>= fun y => pure (f y)) := by
  have hpure : ∀ y, Settles none (pure (f y) : Except Failure β) := fun y => ⟨f y, rfl⟩
  simpa only [Option.or_none] using hx.bind hpure

theorem Settles.ok_iff {α : Type} {found : Option Term} {x : Except Failure α}
    (h : Settles found x) : (∃ y, x = .ok y) ↔ found = none := by
  cases found with
  | none => exact ⟨fun _ => rfl, fun _ => h⟩
  | some node =>
    have hfail : x = .error (.unsupported node.blame) := h
    rw [hfail]
    constructor
    · intro ⟨y, hy⟩
      cases hy
    · intro hnone
      cases hnone

theorem Settles.error_iff {α : Type} {found : Option Term} {x : Except Failure α}
    (h : Settles found x) (e : Failure) :
    x = .error e ↔ ∃ node, found = some node ∧ e = .unsupported node.blame := by
  cases found with
  | none =>
    obtain ⟨y, hy⟩ := h
    rw [hy]
    constructor
    · intro hfail
      cases hfail
    · intro ⟨node, hnode, _⟩
      cases hnode
  | some node =>
    have hfail : x = .error (.unsupported node.blame) := h
    rw [hfail]
    constructor
    · intro he
      cases he
      exact ⟨node, rfl, rfl⟩
    · intro ⟨other, hother, he⟩
      cases hother
      rw [he]

theorem settles_texts {ts : List Term}
    (h : ∀ t ∈ ts, Settles (t.nodes.find? (unsupported methods)) (t.text methods)) :
    Settles ((nodesAll ts).find? (unsupported methods)) (texts methods ts) := by
  induction ts with
  | nil => exact ⟨[], rfl⟩
  | cons t ts ih =>
    rw [nodesAll, List.find?_append, texts]
    apply (h t List.mem_cons_self).bind
    intro text
    exact (ih fun u hu => h u (List.mem_cons_of_mem t hu)).map _

/-- The texts of a list are those of another if its terms have the same texts one by one. -/
theorem texts_map {others : Allowance} {f : Term → Term} {ts : List Term}
    (h : ∀ t ∈ ts, (f t).text methods = t.text others) :
    texts methods (ts.map f) = texts others ts := by
  induction ts with
  | nil => rfl
  | cons t ts ih =>
    have hrest : texts methods (ts.map f) = texts others ts := by
      apply ih
      intro u hu
      exact h u (List.mem_cons_of_mem t hu)
    rw [List.map_cons, texts, texts, h t List.mem_cons_self, hrest]

theorem settles_written (l : Literal) :
    Settles ([literal l].find? (unsupported methods)) l.written := by
  cases l with
  | text s => exact ⟨_, rfl⟩
  | integer n => exact ⟨_, rfl⟩
  | truth b => cases b <;> exact ⟨_, rfl⟩
  | real x =>
    cases hfinite : x.isFinite with
    | true =>
      simp only [List.find?_cons, List.find?_nil, unsupported, hfinite, Literal.written]
      exact ⟨_, rfl⟩
    | false =>
      simp only [List.find?_cons, unsupported, hfinite, Literal.written, specialName_eq_blame]
      rfl

/-- The text of a term is settled by the first offending node, by induction over the term: a node
is met before those that it holds, and a text is put together from left to right. -/
theorem settles_text (t : Term) :
    Settles (t.nodes.find? (unsupported methods)) (t.text methods) := by
  induction t with
  | binary op l r ihl ihr =>
    have htoken : op.token?.isSome = !(binary op l r).unsupported methods := isSome_token? op l r
    rw [nodes, text, List.find?_cons]
    cases hoffends : (binary op l r).unsupported methods with
    | true =>
      rw [hoffends, Bool.not_true, Option.isSome_eq_false_iff, Option.isNone_iff_eq_none] at htoken
      have hkind : (binary op l r).kind = (binary op l r).blame := by
        apply kind_eq_blame hoffends
        intro l h
        cases h
      rw [htoken, hkind]
      rfl
    | false =>
      rw [hoffends, Bool.not_false, Option.isSome_iff_exists] at htoken
      obtain ⟨token, htoken⟩ := htoken
      rw [htoken, List.find?_append]
      apply ihl.bind
      intro left
      exact ihr.map _
  | unary op t ih => cases op <;> rfl
  | wrap t ih => exact ih
  | lambda p body ih => exact ih
  | call method arguments ih =>
    rw [nodes, text, List.find?_cons]
    cases hpermits : methods.permits method with
    | true =>
      simp only [unsupported, hpermits]
      exact (settles_texts ih).map _
    | false =>
      simp only [unsupported, hpermits]
      rfl
  | member name => exact ⟨name, rfl⟩
  | parameter name => rfl
  | literal l => exact settles_written l
  | embed inner ih => exact ih

end Term

namespace Clause

theorem settles_statement (methods : Allowance) (table : String) (clause : Clause) :
    Term.Settles (clause.term.nodes.find? (Term.unsupported methods))
      (clause.statement methods table) := by
  cases clause with
  | filter predicate => exact predicate.settles_text.map _
  | project projection => exact projection.settles_text.map _

/-- A clause has a statement exactly when no node of its term is one that statements cannot hold.
Otherwise it fails, and the failure names the first such node. A projection fails as a filter by
the same term does, and when it does not fail its statement fetches the whole table. -/
theorem refuses_first_unsupported (methods : Allowance) (table : String) (clause : Clause) :
    let nodes := clause.term.nodes
    ((∃ s, clause.statement methods table = .ok s) ↔
        ∀ node ∈ nodes, node.unsupported methods = false) ∧
      (∀ e, clause.statement methods table = .error e ↔
        ∃ node, nodes.find? (Term.unsupported methods) = some node ∧
          e = .unsupported node.blame) ∧
      (project clause.term).statement methods table =
        ((filter clause.term).statement methods table).map
          fun _ => ⟨"SELECT * FROM " ++ table⟩ := by
  intro nodes
  have hsettles := settles_statement methods table clause
  refine ⟨?_, hsettles.error_iff, ?_⟩
  · rw [hsettles.ok_iff, List.find?_eq_none]
    simp only [Bool.not_eq_true, nodes]
  · simp only [statement]
    cases clause.term.text methods <;> rfl

end Clause

end Recordset
