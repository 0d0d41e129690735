import Recordset.Proofs.TermTokens

/-!
# The grouping of a term

Two terms are the same predicate if they are grouped alike: `Term.grouped` leaves out what adds
nothing to a predicate, reads both disjunctions as one, and lets chains of disjunctions lean to
the right. A statement shows less than that, since it has no brackets around operands: the chain of
operators that it shows is `Term.flat`, in which every chain leans to the right. A term is
unambiguous if no chain in it can be grouped in two ways; `grouped_eq_flat` is the top lemma and
says that its chains then say all there is.
-/

set_option autoImplicit false

namespace Recordset

namespace BinaryOp

def isOr : BinaryOp → Bool
  | or | orElse => true
  | add | sub | mul | div | eq | ne | lt | le | gt | ge | and => false

/-- The operator, both disjunctions taken for one. -/
def plain : BinaryOp → BinaryOp
  | orElse => or
  | op => op

theorem isOr_plain (op : BinaryOp) : op.plain.isOr = op.isOr := by
  cases op <;> rfl

theorem mark?_plain (op : BinaryOp) : op.plain.mark? = op.mark? := by
  cases op <;> rfl

end BinaryOp

namespace Term

/-- Joins two terms by an operator and moves the join to the right, past those operators of the
first term that `past` admits. -/
def joined (past : BinaryOp → BinaryOp → Bool) (op : BinaryOp) : Term → Term → Term
  | binary o x y, r =>
    if past o op then binary o x (joined past op y r) else binary op (binary o x y) r
  | t, r => binary op t r

mutual

/-- The term without wrappers, lambdas and embeddings, its disjunctions taken for one and its
operators moved to the right as far as `past` admits. -/
def normal (past : BinaryOp → BinaryOp → Bool) : Term → Term
  | binary op l r => joined past op.plain (l.normal past) (r.normal past)
  | unary op t => unary op (t.normal past)
  | wrap t => t.normal past
  | lambda _ body => body.normal past
  | call method arguments => call method (normalAll past arguments)
  | member name => member name
  | parameter name => parameter name
  | literal l => literal l
  | embed inner => inner.normal past

def normalAll (past : BinaryOp → BinaryOp → Bool) : List Term → List Term
  | [] => []
  | t :: ts => t.normal past :: normalAll past ts

end

theorem normalAll_eq_map (past : BinaryOp → BinaryOp → Bool) (ts : List Term) :
    normalAll past ts = ts.map (normal past) := by
  induction ts with
  | nil => rfl
  | cons t ts ih => rw [normalAll, ih, List.map_cons]

/-- Disjunctions alone may be grouped anew. -/
def bothOr (o op : BinaryOp) : Bool := o.isOr && op.isOr

/-- The predicate that a term stands for. -/
def grouped (t : Term) : Term := t.normal bothOr

/-- The chains that a term shows in its text, where nothing tells how they are grouped. -/
def flat (t : Term) : Term := t.normal fun _ _ => true

/-- The operators of the chain at the top of a term are disjunctions. -/
def onlyOr : Term → Bool
  | binary op l r => op.isOr && l.onlyOr && r.onlyOr
  | wrap t => t.onlyOr
  | lambda _ body => body.onlyOr
  | embed inner => inner.onlyOr
  | unary _ _ | call _ _ | member _ | parameter _ | literal _ => true

/-- There is no operator at the top of a term. -/
def isOperand : Term → Bool
  | binary _ _ _ => false
  | wrap t => t.isOperand
  | lambda _ body => body.isOperand
  | embed inner => inner.isOperand
  | unary _ _ | call _ _ | member _ | parameter _ | literal _ => true

mutual

/-- Every chain of operators in a term has one operator at most, or only disjunctions. -/
def unambiguous : Term → Bool
  | binary op l r =>
    l.unambiguous && r.unambiguous &&
      (op.isOr && l.onlyOr && r.onlyOr || l.isOperand && r.isOperand)
  | unary _ t => t.unambiguous
  | wrap t => t.unambiguous
  | lambda _ body => body.unambiguous
  | call _ arguments => allUnambiguous arguments
  | embed inner => inner.unambiguous
  | member _ | parameter _ | literal _ => true

def allUnambiguous : List Term → Bool
  | [] => true
  | t :: ts => t.unambiguous && allUnambiguous ts

end

theorem allUnambiguous_iff {ts : List Term} :
    allUnambiguous ts = true ↔ ∀ t ∈ ts, t.unambiguous = true := by
  induction ts with
  | nil => simp [allUnambiguous]
  | cons t ts ih => simp [allUnambiguous, ih]

/-- A join moves past the operator at the top of the first term or stays in front of it. -/
theorem joined_cases (past : BinaryOp → BinaryOp → Bool) (op : BinaryOp) (t : Term) :
    (∃ o x y, t = binary o x y ∧ past o op = true ∧
      ∀ r, joined past op t r = binary o x (joined past op y r)) ∨
    ∀ r, joined past op t r = binary op t r := by
  cases t with
  | binary o x y =>
    cases hpast : past o op with
    | true => exact Or.inl ⟨o, x, y, rfl, hpast, fun r => by rw [joined, if_pos hpast]⟩
    | false =>
      apply Or.inr
      intro r
      rw [joined, if_neg (by rw [hpast]; exact Bool.false_ne_true)]
  | _ => exact Or.inr fun r => rfl

/-- Joining anywhere shows the tokens of both terms with the operator between them. -/
theorem tokens_joined (past : BinaryOp → BinaryOp → Bool) (op : BinaryOp) (l r : Term) :
    (joined past op l r).tokens = l.tokens ++ op.mark?.toList ++ r.tokens := by
  induction l with
  | binary o x y ihx ihy =>
    rw [joined]
    split
    · rw [tokens, ihy, tokens]
      simp only [List.append_assoc]
    · rw [tokens]
  | _ => simp only [joined, tokens]

/-- No normal form changes the tokens of a term. -/
theorem tokens_normal (past : BinaryOp → BinaryOp → Bool) (t : Term) :
    (t.normal past).tokens = t.tokens := by
  induction t with
  | binary op l r ihl ihr =>
    rw [normal, tokens_joined, ihl, ihr, BinaryOp.mark?_plain, tokens]
  | unary op t ih => exact ih
  | wrap t ih => exact ih
  | lambda p t ih => exact ih
  | call m ts ih =>
    have hts : (ts.map (normal past)).map tokens = ts.map tokens := by
      rw [List.map_map]
      exact List.map_congr_left ih
    rw [normal, tokens, tokens, normalAll_eq_map, tokensAll_eq_map, tokensAll_eq_map, hts]
  | member n => rfl
  | parameter n => rfl
  | literal l => rfl
  | embed t ih => exact ih

theorem onlyOr_joined (past : BinaryOp → BinaryOp → Bool) (op : BinaryOp) (l r : Term) :
    (joined past op l r).onlyOr = (op.isOr && l.onlyOr && r.onlyOr) := by
  induction l with
  | binary o x y ihx ihy =>
    rw [joined]
    split
    · rw [onlyOr, ihy, onlyOr]
      ac_rfl
    · rfl
  | _ => rfl

theorem isOperand_joined (past : BinaryOp → BinaryOp → Bool) (op : BinaryOp) (l r : Term) :
    (joined past op l r).isOperand = false := by
  rcases joined_cases past op l with ⟨o, x, y, -, -, h⟩ | h
  · rw [h]
    rfl
  · rw [h]
    rfl

/-- Whether a chain is ambiguous does not depend on where its joins stand. -/
theorem unambiguous_joined (past : BinaryOp → BinaryOp → Bool) (op : BinaryOp) (l r : Term) :
    (joined past op l r).unambiguous = (binary op l r).unambiguous := by
  induction l with
  | binary o x y ihx ihy =>
    rw [joined]
    split
    · -- Both sides ask for the parts to be unambiguous and for disjunctions throughout.
      simp only [unambiguous, ihy, onlyOr_joined, isOperand_joined, onlyOr, isOperand]
      grind
    · rfl
  | _ => rfl

theorem onlyOr_normal (past : BinaryOp → BinaryOp → Bool) (t : Term) :
    (t.normal past).onlyOr = t.onlyOr := by
  induction t with
  | binary op l r ihl ihr => rw [normal, onlyOr_joined, ihl, ihr, BinaryOp.isOr_plain, onlyOr]
  | wrap t ih => exact ih
  | lambda p t ih => exact ih
  | embed t ih => exact ih
  | _ => rfl

theorem isOperand_normal (past : BinaryOp → BinaryOp → Bool) (t : Term) :
    (t.normal past).isOperand = t.isOperand := by
  induction t with
  | binary op l r ihl ihr => exact isOperand_joined past op.plain _ _
  | wrap t ih => exact ih
  | lambda p t ih => exact ih
  | embed t ih => exact ih
  | _ => rfl

/-- A term and its normal forms are ambiguous together. -/
theorem unambiguous_normal (past : BinaryOp → BinaryOp → Bool) (t : Term) :
    (t.normal past).unambiguous = t.unambiguous := by
  induction t with
  | binary op l r ihl ihr =>
    rw [normal, unambiguous_joined, unambiguous, ihl, ihr, onlyOr_normal, onlyOr_normal,
      isOperand_normal, isOperand_normal, BinaryOp.isOr_plain, unambiguous]
  | unary op t ih => exact ih
  | wrap t ih => exact ih
  | lambda p t ih => exact ih
  | call m ts ih =>
    rw [Bool.eq_iff_iff, normal, unambiguous, unambiguous, allUnambiguous_iff, allUnambiguous_iff,
      normalAll_eq_map, List.forall_mem_map]
    exact forall₂_congr fun t ht => by rw [ih t ht]
  | member n => rfl
  | parameter n => rfl
  | literal l => rfl
  | embed t ih => exact ih

theorem joined_of_isOperand (past : BinaryOp → BinaryOp → Bool) (op : BinaryOp) {t : Term}
    (h : t.isOperand = true) (r : Term) : joined past op t r = binary op t r := by
  rcases joined_cases past op t with ⟨o, x, y, rfl, -, -⟩ | hjoin
  · exact absurd h Bool.false_ne_true
  · exact hjoin r

/-- Among disjunctions a join of disjunctions moves as far as any join. -/
theorem joined_bothOr {op : BinaryOp} (hop : op.isOr = true) {t : Term} (h : t.onlyOr = true)
    (r : Term) : joined bothOr op t r = joined (fun _ _ => true) op t r := by
  induction t with
  | binary o x y ihx ihy =>
    simp only [onlyOr, Bool.and_eq_true] at h
    obtain ⟨⟨ho, -⟩, hy⟩ := h
    have hpast : bothOr o op = true := by
      rw [bothOr, ho, hop]
      rfl
    rw [joined, if_pos hpast, joined, if_pos rfl, ihy hy]
  | _ => rfl

/-- Where nothing can be grouped anew, moving every join or only those of disjunctions is the
same. -/
theorem grouped_eq_flat {t : Term} (h : t.unambiguous = true) : t.grouped = t.flat := by
  unfold grouped flat
  induction t with
  | binary op l r ihl ihr =>
    simp only [unambiguous, Bool.and_eq_true, Bool.or_eq_true] at h
    obtain ⟨⟨hl, hr⟩, hchain⟩ := h
    rw [normal, normal, ihl hl, ihr hr]
    rcases hchain with ⟨⟨hop, hlor⟩, -⟩ | ⟨hloperand, -⟩
    · rw [← BinaryOp.isOr_plain] at hop
      rw [← onlyOr_normal fun _ _ => true] at hlor
      exact joined_bothOr hop hlor _
    · rw [← isOperand_normal fun _ _ => true] at hloperand
      rw [joined_of_isOperand _ _ hloperand, joined_of_isOperand _ _ hloperand]
  | unary op t ih => exact congrArg (unary op) (ih h)
  | wrap t ih => exact ih h
  | lambda p t ih => exact ih h
  | call m ts ih =>
    have hts := allUnambiguous_iff.1 h
    rw [normal, normal, normalAll_eq_map, normalAll_eq_map]
    exact congrArg (call m) (List.map_congr_left fun t ht => ih t ht (hts t ht))
  | member n => rfl
  | parameter n => rfl
  | literal l => rfl
  | embed t ih => exact ih h

end Term

end Recordset
