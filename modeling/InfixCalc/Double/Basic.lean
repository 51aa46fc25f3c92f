/-!
# `InfixCalc.Double.Basic`: doubles as points on an integer scale

Every finite double is a whole number of units of `2 ^ -1074`, the distance from zero to the
next double. The nonnegative doubles in increasing order are numbered from zero: this is the
double's index, and it is also its bit pattern. `units` gives the magnitude at an index, and the
index after the last finite double is infinity, where `units` gives the power of two at which
the next binade would begin. Beyond that lie the bit patterns that are no number.

Working with indices and units keeps every computation about doubles in the natural numbers.
-/

set_option autoImplicit false

namespace InfixCalc.Double

/-- The number of doubles in a binade: `2 ^ 52`. -/
def binade : Nat :=
  0x10000000000000

/-- The bit of the sign, as a number: `2 ^ 63`. -/
def signBit : Nat :=
  0x8000000000000000

/-- The number of units in one: `2 ^ 1074`. -/
def unitsInOne : Nat :=
  Nat.pow 2 1074

/-- The index of infinity. -/
def infinityIndex : Nat :=
  2047 * binade

/-- The magnitude at an index, in units of `2 ^ -1074`. The first two binades are one unit apart;
from then on the distance doubles with every binade. -/
def units (index : Nat) : Nat :=
  let doublings := index / binade - 1
  (index - doublings * binade) * Nat.pow 2 doublings

/-- The double carries a minus sign. -/
def isNegative (v : Float) : Bool :=
  signBit ≤ v.toBits.toNat

/-- The double's place among the nonnegative doubles, the sign left aside. -/
def index (v : Float) : Nat :=
  v.toBits.toNat % signBit

/-- The double with the given sign at the given index. -/
def ofIndex (negative : Bool) (index : Nat) : Float :=
  Float.ofBits (UInt64.ofNat (if negative then signBit + index else index))

/-- The value that is no number. -/
def notANumber : Float :=
  Float.ofBits 0x7FF8000000000000

/-- The double is a number and not infinite. -/
def isFinite (v : Float) : Bool :=
  index v < infinityIndex

/-- The double is no number. -/
def isNotANumber (v : Float) : Bool :=
  infinityIndex < index v

/-- The finite double has no fraction. -/
def isWhole (v : Float) : Bool :=
  units (index v) % unitsInOne == 0

/-- The whole part of a finite double, exact for every magnitude. -/
def wholePart (v : Float) : Int :=
  let magnitude : Nat := units (index v) / unitsInOne
  if isNegative v then -magnitude else magnitude

end InfixCalc.Double
