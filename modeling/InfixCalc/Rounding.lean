import InfixCalc.Double.Text

/-!
# `InfixCalc.Rounding`: results rounded as decimals, and amounts converted

A result is rounded by its shortest decimal, half away from zero, and the rounded decimal is read
as a double again. So the noise of binary fractions goes away: `0.1 + 0.2` rounds to `0.3`. Zeros
keep their sign, and a value that is infinite or no number is left alone.

Decimal arithmetic has limits, on the number of digits it works with and on exponents. A number
of places beyond them is refused (`RoundError`); from `-999999` up to far beyond the length of any
double there is no refusal.

Reading a decimal as a double is assumed to work for decimals of any length. Implementations have a
limit, of about a thousand million digits, which only numbers of places as large can reach. It is no
part of the arithmetic here, and neither is the memory that the digits take.

Conversion multiplies by a rate and rounds to a whole amount, which is given with all its digits.
-/

set_option autoImplicit false

namespace InfixCalc

/-- Why a number of places is refused. -/
inductive RoundError where
  /-- The number of digits to work with is no machine word. -/
  | digitsBeyondWord
  /-- The number of digits to work with is beyond the limit. -/
  | digitsBeyondLimit
  /-- The places are so far before the point that shifting by them is not defined. -/
  | shiftInvalid
  /-- The power of ten to round to is beyond the exponent limit. -/
  | exponentOverflow
deriving DecidableEq, Repr

/-- The sentence for the caller. -/
def RoundError.message : RoundError → String
  | digitsBeyondWord => "Python int too large to convert to C ssize_t"
  | digitsBeyondLimit => "valid range for prec is [1, MAX_PREC]"
  | shiftInvalid => "[<class 'decimal.InvalidOperation'>]"
  | exponentOverflow => "[<class 'decimal.Overflow'>]"

namespace Rounding

/-- The greatest signed machine word. -/
def wordLimit : Int := 0x7FFFFFFFFFFFFFFF

/-- The greatest number of digits to work with: eighteen nines. -/
def digitLimit : Int := 999999999999999999

/-- The number of digits that decimal arithmetic works with at least. -/
def usualDigits : Int := 28

/-- The greatest exponent of a decimal. -/
def exponentLimit : Int := 999999

/-- The number of digits to work with: those before the point, those of the places, and room for
a carry. -/
def workingDigits (places : Int) (d : Decimal) : Int :=
  max usualDigits (d.leadingExponent + places + 2)

/-- Whether a decimal can be rounded to a number of places. -/
def check (places : Int) (d : Decimal) : Except RoundError Unit :=
  let digits := workingDigits places d
  if wordLimit < digits then .error .digitsBeyondWord
  else if digitLimit < digits then .error .digitsBeyondLimit
  else if 2 * (exponentLimit + digits) < places.natAbs then .error .shiftInvalid
  else if exponentLimit < -places then .error .exponentOverflow
  else .ok ()

/-- A finite double rounded to a number of places; any other is left alone. -/
def toPlaces (places : Int) (v : Float) : Float :=
  if Double.isFinite v then Double.ofDecimal ((Double.toDecimal v).roundHalfUp places) else v

end Rounding

/-- A result rounded to a number of places, or as it is if no number is given. -/
def roundResult (places? : Option Int) (v : Float) : Except RoundError Float :=
  match places? with
  | none => .ok v
  | some places =>
    if Double.isFinite v then
      (Rounding.check places (Double.toDecimal v)).map fun _ => Rounding.toPlaces places v
    else .ok v

/-- A number on display: a whole amount, exact however large, or a double. -/
inductive Amount where
  | whole (n : Int)
  | double (v : Float)

/-- The text of an amount. A double has a point or an exponent, a whole amount has neither. -/
def Amount.text : Amount → String
  | whole n => integerText n
  | double v => Double.text v

/-- A value converted by a rate, as a whole amount; what is not finite stays a double. -/
def convert (v rate : Float) : Amount :=
  let rounded := Rounding.toPlaces 0 (v * rate)
  if Double.isFinite rounded then .whole (Double.wholePart rounded) else .double rounded

end InfixCalc
