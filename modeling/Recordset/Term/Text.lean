import Recordset.Decimal.Shortest
import Recordset.Failure
import Recordset.Settings.Basic
import Recordset.Term.Basic
import Recordset.Text.Quoted

/-!
# The text of a term

`Term.text` writes a term as it stands in a statement. A term that holds a node no statement can
express has no text; its failure names the first such node, where a node comes before what it
holds and operands and arguments come in order.
-/

set_option autoImplicit false

namespace Recordset

/-- A number with a fraction is written positionally from `0.0001` up to, and not including,
`1e16`. -/
def Literal.realLayout : DecimalLayout := ⟨-4, 16⟩

/-- What a number that is not finite is called. -/
def Binary64.specialName (x : Binary64) : String :=
  if x.isNaN then "NaN" else if x.isNegative then "-inf" else "inf"

/-- The shortest decimal that reads back as a finite number, after a minus sign if the sign bit is
set. -/
def Binary64.text (x : Binary64) : List Char :=
  let size := (Decimal.shortest x.magnitude).written Literal.realLayout
  if x.isNegative then '-' :: size else size

example : Binary64.text ⟨0x3FF8000000000000⟩ = ['1', '.', '5'] := by decide +kernel

example : Binary64.text ⟨0x8000000000000000⟩ = ['-', '0', '.', '0'] := by decide +kernel

example : Binary64.text ⟨0x4341C37937E08000⟩ = ['1', 'e', '1', '6'] := by decide +kernel

example : Binary64.text ⟨1⟩ = ['5', 'e', '-', '3', '2', '4'] := by decide +kernel

/-- A constant as it stands in a statement; numbers that are not finite have no text. -/
def Literal.written : Literal → Except Failure String
  | .text s => .ok (Text.quoted s)
  | .integer n => .ok (String.ofList (Decimal.integerText n.toInt))
  | .real x =>
    if x.isFinite then .ok (String.ofList x.text)
    else .error (.unsupported ("non-finite float constant " ++ x.specialName))
  | .truth true => .ok "TRUE"
  | .truth false => .ok "FALSE"

mutual

/-- The text of a term, or the failure that names the first node which has none. -/
def Term.text (methods : Allowance) : Term → Except Failure String
  | .binary op l r =>
    match op.token? with
    | none => .error (.unsupported (Term.binary op l r).kind)
    | some token => do
      let left ← l.text methods
      let right ← r.text methods
      return left ++ " " ++ token ++ " " ++ right
  | .unary op t => .error (.unsupported (Term.unary op t).kind)
  | .wrap t => t.text methods
  | .lambda _ body => body.text methods
  | .call method arguments =>
    if methods.permits method then do
      let texts ← Term.texts methods arguments
      return method ++ "(" ++ ", ".intercalate texts ++ ")"
    else .error (.unsupported (Term.call method arguments).kind)
  | .member name => .ok name
  | .parameter name => .error (.unsupported (Term.parameter name).kind)
  | .literal l => l.written
  | .embed inner => inner.text methods

def Term.texts (methods : Allowance) : List Term → Except Failure (List String)
  | [] => .ok []
  | t :: ts => do
    let text ← t.text methods
    let rest ← Term.texts methods ts
    return text :: rest

end

end Recordset
