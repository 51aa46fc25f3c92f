import InfixCalc.Decimal
import InfixCalc.Double.Basic

/-!
# `InfixCalc.Double.Nearest`: the double nearest to a decimal

A decimal is read as the double nearest to it; of two equally near ones, the one with the even
index is taken. A decimal that is nearer to the end of the scale than to the last finite double
is read as infinity.

`nearestIndex` rounds a ratio of natural numbers, and `ofDecimal` brings a decimal into this
form. A decimal beyond `10 ^ 400` or below `10 ^ -400` is answered without writing its power of ten
out, since all finite doubles lie between these bounds.
-/

set_option autoImplicit false

namespace InfixCalc.Double

/-- The whole number nearest to `num / den`, the even one of two equally near ones. -/
def roundHalfEven (num den : Nat) : Nat :=
  let quotient := num / den
  let rest := num % den
  if 2 * rest < den then quotient
  else if den < 2 * rest then quotient + 1
  else quotient + quotient % 2

/-- The index of the double nearest to `num / den` units. -/
def nearestIndex (num den : Nat) : Nat :=
  let doublings := (num / den).log2 - 52
  min (doublings * binade + roundHalfEven num (den * Nat.pow 2 doublings)) infinityIndex

/-- The index of the double nearest to `coefficient * 10 ^ exponent`. -/
def decimalIndex (coefficient : Nat) (exponent : Int) : Nat :=
  if coefficient = 0 then 0
  else if 400 < exponent then infinityIndex
  else if exponent < -(400 + coefficient.log2) then 0
  else
    nearestIndex (coefficient * Nat.pow 10 exponent.toNat * unitsInOne)
      (Nat.pow 10 (-exponent).toNat)

/-- The double nearest to a decimal. A decimal zero gives the zero of its sign. -/
def ofDecimal (d : Decimal) : Float :=
  ofIndex d.negative (decimalIndex d.coefficient d.exponent)

end InfixCalc.Double
