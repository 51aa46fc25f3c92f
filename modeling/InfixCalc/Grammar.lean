import InfixCalc.Expr

/-!
# `InfixCalc.Grammar`: the sentences of infix arithmetic

The grammar has three levels. A factor is a numeral or a sum in parentheses; a term is a factor, or
a term, `*` or `/`, and a factor; a sum is a term, or a sum, `+` or `-`, and a term. So `*` and `/`
bind tighter than `+` and `-`, and operators of equal precedence group to the left.

`Derives level tokens e` says that the tokens are a phrase of the level with the tree `e`. A
sentence is a phrase of the level of sums.
-/

set_option autoImplicit false

namespace InfixCalc

/-- The levels of the grammar. -/
inductive Level where
  /-- Terms, added and subtracted. -/
  | sum
  /-- Factors, multiplied and divided. -/
  | term
  /-- Numerals and groups. -/
  | factor
deriving DecidableEq, Repr

/-- The operator joins the terms of a sum. -/
def Operator.IsSum (op : Operator) : Prop :=
  op = .add ∨ op = .subtract

/-- The operator joins the factors of a term. -/
def Operator.IsProduct (op : Operator) : Prop :=
  op = .multiply ∨ op = .divide

instance : DecidablePred Operator.IsSum := fun op =>
  inferInstanceAs (Decidable (op = .add ∨ op = .subtract))

instance : DecidablePred Operator.IsProduct := fun op =>
  inferInstanceAs (Decidable (op = .multiply ∨ op = .divide))

/-- The tokens are a phrase of the level, and the tree is what they mean. -/
inductive Derives : Level → List Token → Expr → Prop where
  /-- A numeral is a factor. -/
  | number (text : String) : Derives .factor [.number text] (.number text)
  /-- A sum in parentheses is a factor. -/
  | group {tokens : List Token} {e : Expr} (inner : Derives .sum tokens e) :
    Derives .factor (.leftParen :: tokens ++ [.rightParen]) e
  /-- A factor is a term. -/
  | factor {tokens : List Token} {e : Expr} (phrase : Derives .factor tokens e) :
    Derives .term tokens e
  /-- A term times or over a factor is a term. -/
  | product {tokens others : List Token} {left right : Expr} {op : Operator}
    (isProduct : op.IsProduct) (first : Derives .term tokens left)
    (second : Derives .factor others right) :
    Derives .term (tokens ++ .operator op :: others) (.binary op left right)
  /-- A term is a sum. -/
  | term {tokens : List Token} {e : Expr} (phrase : Derives .term tokens e) :
    Derives .sum tokens e
  /-- A sum plus or minus a term is a sum. -/
  | sum {tokens others : List Token} {left right : Expr} {op : Operator}
    (isSum : op.IsSum) (first : Derives .sum tokens left)
    (second : Derives .term others right) :
    Derives .sum (tokens ++ .operator op :: others) (.binary op left right)

/-- The tokens are a sentence of infix arithmetic. -/
def IsSentence (tokens : List Token) : Prop :=
  ∃ e, Derives .sum tokens e

end InfixCalc
