import InfixCalc.Arithmetic

/-!
# `InfixCalc.Expr`: expression trees

A tree is what an expression means once its parentheses and precedences are settled: a numeral, or
an operator over two trees. `evaluate` visits it from left to right, operands before their
operator, and the first fault it meets is its outcome. `postorder` lists the tree as tokens in
that order.
-/

set_option autoImplicit false

namespace InfixCalc

/-- An expression as a tree. -/
inductive Expr where
  | number (text : String)
  | binary (op : Operator) (left right : Expr)
deriving DecidableEq, Repr

namespace Expr

/-- The value of a tree, or the first fault in it, operands being visited before their operator and
the left one before the right one. -/
def evaluate : Expr → Except CalcError Float
  | number text => numeralValue text
  | binary op left right => do
    let l ← left.evaluate
    let r ← right.evaluate
    op.value l r

/-- The tokens of a tree, operands before their operator. -/
def postorder : Expr → List Token
  | number text => [.number text]
  | binary op left right => left.postorder ++ right.postorder ++ [.operator op]

end Expr

end InfixCalc
