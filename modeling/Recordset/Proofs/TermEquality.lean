import Recordset.Proofs.TransparentNodes
import Recordset.Proofs.ValueEquality

/-!
# Equal terms and their statements

Equality of terms compares their numbers as numbers and all else as it stands, so two terms are
equal exactly if they are one term once zero stands for every negative zero (`Term.plainZeros`) and
hold nothing that is no number (`Term.equalUpTo`). Such zeros never decide whether a term has a
text, and a failure never names one (`settles_plainZeros`). `statements_of_equal_terms` is the top
theorem: equal terms are refused alike or have statements that differ at most in the sign of a zero.
-/

set_option autoImplicit false

namespace Recordset

namespace Term

/-- The number with a fraction that a node is, if it is one. -/
def real? : Term → Option Binary64
  | literal (.real x) => some x
  | _ => none

/-- The numbers with a fraction that a term holds, wherever in it they stand. -/
def reals (t : Term) : List Binary64 := t.nodes.filterMap real?

theorem reals_binary (op : BinaryOp) (l r : Term) :
    (binary op l r).reals = l.reals ++ r.reals := by
  rw [reals, nodes, List.filterMap_cons_none rfl, List.filterMap_append, reals, reals]

theorem reals_call (method : String) (arguments : List Term) :
    (call method arguments).reals = arguments.flatMap reals := by
  rw [reals, nodes, List.filterMap_cons_none rfl, nodesAll_eq_flatMap, List.filterMap_flatMap]
  rfl

mutual

/-- The term with zero in the place of every negative zero, at any depth. -/
def plainZeros : Term → Term
  | binary op l r => binary op l.plainZeros r.plainZeros
  | unary op t => unary op t.plainZeros
  | wrap t => wrap t.plainZeros
  | lambda p body => lambda p body.plainZeros
  | call method arguments => call method (plainZerosAll arguments)
  | member name => member name
  | parameter name => parameter name
  | literal l => literal l.plainZero
  | embed inner => embed inner.plainZeros

def plainZerosAll : List Term → List Term
  | [] => []
  | t :: ts => t.plainZeros :: plainZerosAll ts

end

theorem plainZerosAll_eq_map (ts : List Term) : plainZerosAll ts = ts.map plainZeros := by
  induction ts with
  | nil => rfl
  | cons t ts ih => rw [plainZerosAll, ih, List.map_cons]

/-- Zeros are replaced node by node. -/
theorem nodes_plainZeros (t : Term) : t.plainZeros.nodes = t.nodes.map plainZeros := by
  induction t with
  | binary op l r ihl ihr => simp [plainZeros, nodes, ihl, ihr]
  | unary op t ih => simp [plainZeros, nodes, ih]
  | wrap t ih => simp [plainZeros, nodes, ih]
  | lambda p body ih => simp [plainZeros, nodes, ih]
  | call method arguments ih =>
    have hall : arguments.flatMap (fun t => t.plainZeros.nodes) =
        arguments.flatMap fun t => t.nodes.map plainZeros := by
      apply List.flatMap_congr
      exact ih
    simp only [plainZeros, nodes, nodesAll_eq_flatMap, plainZerosAll_eq_map, List.map_cons,
      List.flatMap_map, List.map_flatMap, hall]
  | member name => rfl
  | parameter name => rfl
  | literal l => rfl
  | embed inner ih => simp [plainZeros, nodes, ih]

theorem real?_plainZeros (t : Term) : t.plainZeros.real? = t.real?.map Binary64.plainZero := by
  cases t with
  | literal l => cases l <;> rfl
  | _ => rfl

theorem reals_plainZeros (t : Term) :
    t.plainZeros.reals = t.reals.map Binary64.plainZero := by
  rw [reals, reals, nodes_plainZeros, List.filterMap_map, List.map_filterMap]
  congr 1
  funext node
  exact node.real?_plainZeros

/-- What does not tell the two zeros apart holds of a term's numbers after the replacement exactly
if it held of them before. -/
theorem forall_reals_plainZeros {p : Binary64 → Prop} (hp : ∀ x, p x.plainZero ↔ p x) (t : Term) :
    (∀ x ∈ t.plainZeros.reals, p x) ↔ ∀ x ∈ t.reals, p x := by
  rw [reals_plainZeros, List.forall_mem_map]
  simp only [hp]

theorem plainZeros_of_forall_ne_zero {t : Term} (h : ∀ x ∈ t.reals, x.magnitude ≠ 0) :
    t.plainZeros = t := by
  induction t with
  | binary op l r ihl ihr =>
    rw [reals_binary, List.forall_mem_append] at h
    rw [plainZeros, ihl h.1, ihr h.2]
  | unary op t ih => rw [plainZeros, ih h]
  | wrap t ih => rw [plainZeros, ih h]
  | lambda p body ih => rw [plainZeros, ih h]
  | call method arguments ih =>
    rw [reals_call, List.forall_mem_flatMap] at h
    have hall : arguments.map plainZeros = arguments.map id :=
      List.map_congr_left fun t ht => ih t ht (h t ht)
    rw [plainZeros, plainZerosAll_eq_map, hall, List.map_id]
  | member name => rfl
  | parameter name => rfl
  | literal l =>
    cases l with
    | real x =>
      have hx : x.magnitude ≠ 0 := h x List.mem_cons_self
      rw [plainZeros, Literal.plainZero, Binary64.plainZero_of_ne_zero hx]
    | _ => rfl
  | embed inner ih => rw [plainZeros, ih h]

theorem equalAll_iff {ts us : List Term}
    (h : ∀ t ∈ ts, ∀ u, t.equal u = true ↔
      t.plainZeros = u.plainZeros ∧ ∀ x ∈ t.reals, x.isNaN = false) :
    equalAll ts us = true ↔
      ts.map plainZeros = us.map plainZeros ∧ ∀ x ∈ ts.flatMap reals, x.isNaN = false := by
  induction ts generalizing us with
  | nil => cases us <;> simp [equalAll]
  | cons t ts ih =>
    cases us with
    | nil => simp [equalAll]
    | cons u us =>
      have hhead := h t List.mem_cons_self u
      have hrest : equalAll ts us = true ↔ ts.map plainZeros = us.map plainZeros ∧
          ∀ x ∈ ts.flatMap reals, x.isNaN = false := ih fun t ht => h t (List.mem_cons_of_mem _ ht)
      rw [equalAll, Bool.and_eq_true, hhead, hrest, List.map_cons, List.map_cons, List.cons.injEq,
        List.flatMap_cons, List.forall_mem_append]
      exact and_and_and_comm

/-- Two terms agree in every node exactly if they are one term up to the signs of zeros and hold
nothing that is no number, by induction over the first of them. -/
theorem equal_iff (t u : Term) : t.equal u = true ↔
    t.plainZeros = u.plainZeros ∧ ∀ x ∈ t.reals, x.isNaN = false := by
  induction t generalizing u with
  | binary op l r ihl ihr =>
    cases u with
    | binary op' l' r' =>
      rw [equal, Bool.and_eq_true, Bool.and_eq_true, beq_iff_eq, ihl, ihr, plainZeros, plainZeros,
        binary.injEq, reals_binary, List.forall_mem_append]
      tauto
    | _ => simp [equal, plainZeros]
  | unary op t ih =>
    cases u with
    | unary op' t' =>
      rw [equal, Bool.and_eq_true, beq_iff_eq, ih, plainZeros, plainZeros, unary.injEq, and_assoc]
      rfl
    | _ => simp [equal, plainZeros]
  | wrap t ih =>
    cases u with
    | wrap t' =>
      rw [equal, ih, plainZeros, plainZeros, wrap.injEq]
      rfl
    | _ => simp [equal, plainZeros]
  | lambda p body ih =>
    cases u with
    | lambda p' body' =>
      rw [equal, Bool.and_eq_true, beq_iff_eq, ih, plainZeros, plainZeros, lambda.injEq, and_assoc]
      rfl
    | _ => simp [equal, plainZeros]
  | call method arguments ih =>
    cases u with
    | call method' arguments' =>
      rw [equal, Bool.and_eq_true, beq_iff_eq, equalAll_iff ih, plainZeros, plainZeros, call.injEq,
        plainZerosAll_eq_map, plainZerosAll_eq_map, reals_call, and_assoc]
    | _ => simp [equal, plainZeros]
  | member name => cases u <;> simp [equal, plainZeros, reals, nodes, real?]
  | parameter name => cases u <;> simp [equal, plainZeros, reals, nodes, real?]
  | literal l =>
    cases u with
    | literal k =>
      rw [equal, Literal.equalUpTo.iff, plainZeros, plainZeros, literal.injEq]
      cases l <;> simp [reals, nodes, real?]
    | _ => simp [equal, plainZeros]
  | embed inner ih =>
    cases u with
    | embed inner' =>
      rw [equal, ih, plainZeros, plainZeros, embed.injEq]
      rfl
    | _ => simp [equal, plainZeros]

theorem equalUpTo : EqualUpTo plainZeros (fun t => ∀ x ∈ t.reals, x.isNaN = false) equal where
  iff := equal_iff
  proper_congr t u h := by
    have hproper := fun t => forall_reals_plainZeros (p := fun x => x.isNaN = false)
      (fun x => by rw [x.isNaN_plainZero]) t
    rw [← hproper t, h, hproper u]

/-- Of two equal terms neither has a zero if one of them has none, and then they are one term. -/
theorem eq_of_equal_of_forall_ne_zero {t u : Term} (h : t.equal u = true)
    (hzero : ∀ x ∈ t.reals, x.magnitude ≠ 0) : t = u := by
  have hplain : t.plainZeros = u.plainZeros := ((equal_iff t u).1 h).1
  have hzeros := fun t => forall_reals_plainZeros (p := fun x => x.magnitude ≠ 0)
    (fun x => by rw [x.magnitude_plainZero]) t
  have hother : ∀ x ∈ u.reals, x.magnitude ≠ 0 := by
    rw [← hzeros u, ← hplain, hzeros t]
    exact hzero
  rw [← plainZeros_of_forall_ne_zero hzero, hplain, plainZeros_of_forall_ne_zero hother]

variable {methods : Allowance}

theorem unsupported_plainZeros (t : Term) :
    t.plainZeros.unsupported methods = t.unsupported methods := by
  cases t with
  | binary op l r => cases op <;> rfl
  | literal l =>
    cases l with
    | real x => simp [plainZeros, Literal.plainZero, unsupported]
    | _ => rfl
  | _ => rfl

/-- A node that statements cannot hold is no zero, and so it keeps its name. -/
theorem blame_plainZeros {t : Term} (h : t.unsupported methods = true) :
    t.plainZeros.blame = t.blame := by
  cases t with
  | binary op l r => cases op <;> rfl
  | unary op t => cases op <;> rfl
  | literal l =>
    cases l with
    | real x =>
      have hsize : x.magnitude ≠ 0 := by
        intro hzero
        simp [unsupported, Binary64.isFinite, hzero, Binary64.infinityMagnitude,
          Binary64.binade] at h
      rw [plainZeros, Literal.plainZero, Binary64.plainZero_of_ne_zero hsize]
    | _ => rfl
  | _ => rfl

/-- What settles the text of a term settles its text without negative zeros, too. -/
theorem settles_plainZeros (t : Term) :
    Settles (t.nodes.find? (unsupported methods)) (t.plainZeros.text methods) := by
  have hsettles : Settles (t.plainZeros.nodes.find? (unsupported methods))
      (t.plainZeros.text methods) := t.plainZeros.settles_text
  have hfind : t.plainZeros.nodes.find? (unsupported methods) =
      (t.nodes.find? (unsupported methods)).map plainZeros := by
    rw [nodes_plainZeros, List.find?_map]
    congr 2
    funext node
    exact node.unsupported_plainZeros
  rw [hfind] at hsettles
  cases hnode : t.nodes.find? (unsupported methods) with
  | none =>
    rw [hnode] at hsettles
    exact hsettles
  | some node =>
    have hunsupported : node.unsupported methods = true := List.find?_some hnode
    have hblame : node.plainZeros.blame = node.blame := blame_plainZeros hunsupported
    rw [hnode, Option.map_some, Settles, hblame] at hsettles
    exact hsettles

end Term

namespace Clause

variable {methods : Allowance} {t u : Term}

theorem settles_withTerm (clause : Clause) (table : String) {found : Option Term}
    (h : Term.Settles found (u.text methods)) :
    Term.Settles found ((clause.withTerm u).statement methods table) := by
  cases clause with
  | filter predicate => exact h.map _
  | project projection => exact h.map _

/-- Equal terms are refused with the same failure, or have statements that are one statement once
zero stands for every negative zero. -/
theorem statements_of_equal (table : String) (clause : Clause) (h : t.equal u = true) :
    let statement := fun t => (clause.withTerm t).statement methods table
    (∃ kind, statement t = .error (.unsupported kind) ∧
        statement u = .error (.unsupported kind)) ∨
      ∃ s s' plain, statement t = .ok s ∧ statement u = .ok s' ∧
        statement t.plainZeros = .ok plain ∧ statement u.plainZeros = .ok plain := by
  intro statement
  have hplain : t.plainZeros = u.plainZeros := ((Term.equal_iff t u).1 h).1
  have hsettles : ∀ v : Term, Term.Settles (v.nodes.find? (Term.unsupported methods)) (statement v) :=
    fun v => settles_withTerm clause table v.settles_text
  have hzeros : ∀ v : Term, Term.Settles (v.nodes.find? (Term.unsupported methods))
      (statement v.plainZeros) := fun v => settles_withTerm clause table v.settles_plainZeros
  -- The statement without negative zeros is the same for both, and settled by either search.
  cases hresult : statement t.plainZeros with
  | error e =>
    obtain ⟨node, hnode, rfl⟩ := ((hzeros t).error_iff e).1 hresult
    rw [hplain] at hresult
    obtain ⟨other, hother, hblame⟩ := ((hzeros u).error_iff _).1 hresult
    refine Or.inl ⟨node.blame, ?_, ?_⟩
    · exact ((hsettles t).error_iff _).2 ⟨node, hnode, rfl⟩
    · exact ((hsettles u).error_iff _).2 ⟨other, hother, hblame⟩
  | ok plain =>
    have hnone := (hzeros t).ok_iff.1 ⟨plain, hresult⟩
    obtain ⟨s, hs⟩ := (hsettles t).ok_iff.2 hnone
    rw [hplain] at hresult
    have hnone' := (hzeros u).ok_iff.1 ⟨plain, hresult⟩
    obtain ⟨s', hs'⟩ := (hsettles u).ok_iff.2 hnone'
    exact Or.inr ⟨s, s', plain, hs, hs', rfl, hresult⟩

/-- Equality of terms is symmetric and transitive, and a term equals itself exactly if it holds
nothing that is no number. Whatever the allowance, the table and the kind of clause, equal terms
are both refused, and the failures name the same kind, or both have statements, which are one
statement once zero stands for every negative zero in the terms. So equal terms have one statement,
or one failure, wherever they hold no zero. -/
theorem statements_of_equal_terms :
    (∀ t u : Term, t.equal u = u.equal t) ∧
      (∀ t u v : Term, t.equal u = true → u.equal v = true → t.equal v = true) ∧
      (∀ t : Term, t.equal t = true ↔ ∀ x ∈ t.reals, x.isNaN = false) ∧
      ∀ (t u : Term) (methods : Allowance) (table : String) (clause : Clause),
        let statement := fun t => (clause.withTerm t).statement methods table
        t.equal u = true →
          ((∃ kind, statement t = .error (.unsupported kind) ∧
              statement u = .error (.unsupported kind)) ∨
            ∃ s s' plain, statement t = .ok s ∧ statement u = .ok s' ∧
              statement t.plainZeros = .ok plain ∧ statement u.plainZeros = .ok plain) ∧
          ((∀ x ∈ t.reals, x.magnitude ≠ 0) → statement t = statement u) := by
  refine ⟨Term.equalUpTo.symm, fun _ _ _ => Term.equalUpTo.trans, Term.equalUpTo.self_iff, ?_⟩
  intro t u methods table clause statement h
  refine ⟨statements_of_equal table clause h, ?_⟩
  intro hzero
  rw [Term.eq_of_equal_of_forall_ne_zero h hzero]

/-- Equal terms may have different statements, if only by the sign of a zero. -/
example : (Term.literal (.real .zero)).equal (.literal (.real ⟨0x8000000000000000⟩)) = true ∧
    (filter (.literal (.real .zero))).statement .any "T" = .ok ⟨"SELECT * FROM T WHERE 0.0"⟩ ∧
    (filter (.literal (.real ⟨0x8000000000000000⟩))).statement .any "T" =
      .ok ⟨"SELECT * FROM T WHERE -0.0"⟩ := by decide +kernel

end Clause

end Recordset
