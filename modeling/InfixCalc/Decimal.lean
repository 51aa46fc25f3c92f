/-!
# `InfixCalc.Decimal`: exact decimal numbers

A decimal is a signed coefficient times a power of ten. It is what a numeral denotes and what
the text of a double denotes, and results are rounded as decimals, never as binary fractions.
-/

set_option autoImplicit false

namespace InfixCalc

/-- The number of decimal digits of `n`; zero has one digit. -/
def digitCount (n : Nat) : Nat :=
  if n < 10 then 1 else digitCount (n / 10) + 1

/-- The number that the digits denote, the first one being the most significant. -/
def ofDigits (digits : List Nat) : Nat :=
  digits.foldl (fun n digit => 10 * n + digit) 0

/-- The decimal digits of an integer, after a minus sign if it is negative. -/
def integerText (n : Int) : String :=
  String.ofList (if n < 0 then '-' :: Nat.toDigits 10 n.natAbs else Nat.toDigits 10 n.natAbs)

/-- The number `coefficient * 10 ^ exponent`, or its opposite. The sign is kept for zero too. -/
structure Decimal where
  /-- The number carries a minus sign. -/
  negative : Bool
  /-- The digits, as a whole number. -/
  coefficient : Nat
  /-- The power of ten that the last digit counts. -/
  exponent : Int
deriving DecidableEq, Repr

namespace Decimal

/-- The power of ten that the first digit counts. -/
def leadingExponent (d : Decimal) : Int :=
  digitCount d.coefficient + d.exponent - 1

/-- The decimal with no digit beyond the given number of places after the point; a half goes away
from zero. A negative number of places counts digits before the point. A decimal that has no
digit beyond the places keeps its value. -/
def roundHalfUp (places : Int) (d : Decimal) : Decimal :=
  let dropped := (-places - d.exponent).toNat
  let step := Nat.pow 10 dropped
  { d with
    coefficient := (2 * d.coefficient + step) / (2 * step)
    exponent := d.exponent + dropped }

end Decimal

end InfixCalc
