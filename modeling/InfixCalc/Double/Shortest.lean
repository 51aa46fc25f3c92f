import InfixCalc.Double.Nearest

/-!
# `InfixCalc.Double.Shortest`: the shortest decimal that reads back

Among the decimals that are read as a given double, one with the fewest digits stands for it,
and of those the nearest. A unit of `2 ^ -1074` is `5 ^ 1074` times `10 ^ -1074`, so a double is a
whole number on the decimal scale of `10 ^ -1074`, and the search runs over natural numbers: the
multiples of a power of ten next to the double are tried, from the power of its first digit
downwards. The power one is always a hit, because there the double itself is tried.
-/

set_option autoImplicit false

namespace InfixCalc.Double

/-- The number of decimal units of `10 ^ -1074` in a unit of `2 ^ -1074`. -/
def decimalUnits : Nat :=
  Nat.pow 5 1074

/-- The numbers that are read as one double, on the scale of half units of `10 ^ -1074`. -/
structure Basin where
  /-- The point halfway to the double below. -/
  low : Nat
  /-- The point halfway to the double above. -/
  high : Nat
  /-- The two ends belong to the double. -/
  closed : Bool

/-- The number of the scale of `10 ^ -1074` is read as the double. -/
def Basin.holds (b : Basin) (n : Nat) : Bool :=
  if b.closed then b.low ≤ 2 * n && 2 * n ≤ b.high else b.low < 2 * n && 2 * n < b.high

/-- The numbers that are read as the double at an index: between the points halfway to its
neighbours, which belong to the even index. -/
def basin (index : Nat) : Basin where
  low := (units (index - 1) + units index) * decimalUnits
  high := (units index + units (index + 1)) * decimalUnits
  closed := index % 2 == 0

/-- How many times the step goes into the multiple of it that stands for `exact`: the nearest one
that the basin holds, if it holds any next to `exact`. -/
def multipleIn? (b : Basin) (exact step : Nat) : Option Nat :=
  let below := exact / step
  match b.holds (below * step), b.holds ((below + 1) * step) with
  | true, true => some (roundHalfEven exact step)
  | true, false => some below
  | false, true => some (below + 1)
  | false, false => none

/-- The coarsest power of ten below `10 ^ power` with a multiple in the basin next to `exact`: how
many times it goes into that multiple, and the power. -/
def coarsest (b : Basin) (exact : Nat) : (power : Nat) → Nat × Nat
  | 0 => (exact, 0)
  | power + 1 =>
    match multipleIn? b exact (Nat.pow 10 power) with
    | some multiple => (multiple, power)
    | none => coarsest b exact power

/-- The decimal that stands for a finite double. Zero is written with one place. -/
def toDecimal (v : Float) : Decimal :=
  if index v = 0 then ⟨isNegative v, 0, -1⟩
  else
    let exact := units (index v) * decimalUnits
    let found := coarsest (basin (index v)) exact (digitCount exact)
    ⟨isNegative v, found.1, found.2 - 1074⟩

end InfixCalc.Double
