import Recordset.Binary64.Basic
import Recordset.Term.Operator

/-!
# Terms

A `Term` is a predicate or projection before it becomes text. Wrappers, lambdas and embedded terms
are carried along but add nothing to the text of what they hold. `Term.equal` compares two terms
node by node; literal numbers with a fraction are compared as numbers, so a term that holds one
that is no number differs from itself, and terms may be equal although their zeros differ in sign.
-/

set_option autoImplicit false

namespace Recordset

/-- A literal constant. -/
inductive Literal where
  | text (s : String)
  | integer (n : Int64)
  | real (x : Binary64)
  | truth (b : Bool)

/-- A predicate or projection. -/
inductive Term where
  | binary (op : BinaryOp) (left right : Term)
  | unary (op : UnaryOp) (operand : Term)
  /-- A conversion that changes nothing. -/
  | wrap (operand : Term)
  /-- A function of one parameter. -/
  | lambda (parameter : String) (body : Term)
  /-- A method, by its qualified name, applied to arguments. -/
  | call (method : String) (arguments : List Term)
  | member (name : String)
  | parameter (name : String)
  | literal (l : Literal)
  /-- A constant that is itself a term. -/
  | embed (inner : Term)

/-- How messages name the outermost node of a term. -/
def Term.kind : Term → String
  | .binary op _ _ => "binary operator " ++ op.sign
  | .unary op _ => "unary operator " ++ op.sign
  | .wrap _ => "unary wrapper"
  | .lambda _ _ => "lambda"
  | .call method _ => "method call " ++ method
  | .member _ => "member access"
  | .parameter name => "parameter " ++ name
  | .literal _ | .embed _ => "constant"

/-- Whether two constants are of one kind and equal in it. -/
def Literal.equal : Literal → Literal → Bool
  | .text s, .text t => s == t
  | .integer n, .integer k => n == k
  | .real x, .real y => x.equal y
  | .truth a, .truth b => a == b
  | _, _ => false

mutual

/-- Whether two terms agree in every node. -/
def Term.equal : Term → Term → Bool
  | .binary op l r, .binary op' l' r' => op == op' && l.equal l' && r.equal r'
  | .unary op t, .unary op' t' => op == op' && t.equal t'
  | .wrap t, .wrap t' => t.equal t'
  | .lambda p t, .lambda p' t' => p == p' && t.equal t'
  | .call m ts, .call m' ts' => m == m' && Term.equalAll ts ts'
  | .member n, .member n' => n == n'
  | .parameter n, .parameter n' => n == n'
  | .literal l, .literal l' => l.equal l'
  | .embed t, .embed t' => t.equal t'
  | _, _ => false

/-- Whether two lists are equally long and their terms agree one by one. -/
def Term.equalAll : List Term → List Term → Bool
  | [], [] => true
  | t :: ts, t' :: ts' => t.equal t' && Term.equalAll ts ts'
  | _, _ => false

end

end Recordset
