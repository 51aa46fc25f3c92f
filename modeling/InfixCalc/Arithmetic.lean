import InfixCalc.Error
import InfixCalc.Numeral

/-!
# `InfixCalc.Arithmetic`: the values of numerals and operators

Evaluation rests on two rules, whatever the order in which it visits an expression: a numeral has
the double nearest to the number that it denotes, and an operator has the value that double
arithmetic gives, except that dividing by zero is refused.
-/

set_option autoImplicit false

namespace InfixCalc

/-- The value of a numeral. -/
def numeralValue (text : String) : Except CalcError Float :=
  match Numeral.readDouble? text with
  | some v => .ok v
  | none => .error (.unreadableNumeral text)

/-- The value of an operator. Zero of either sign is refused as the right operand of a division. -/
def Operator.value (op : Operator) (left right : Float) : Except CalcError Float :=
  if op = .divide && right == 0 then .error (.divisionByZero left right)
  else .ok (op.apply left right)

end InfixCalc
