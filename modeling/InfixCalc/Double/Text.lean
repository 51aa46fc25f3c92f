import InfixCalc.Double.Shortest

/-!
# `InfixCalc.Double.Text`: how a double is written

A finite double is written by the digits of its shortest decimal. The point stands at its place
as long as the first digit counts a power of ten from `10 ^ -4` to `10 ^ 15`, and there is always
a digit behind it; other numbers have the point behind the first digit, unless it is the only
one, and an exponent with a sign and two digits at least.

For display a whole number is written without a point, with all its digits.
-/

set_option autoImplicit false

namespace InfixCalc.Double

/-- The decisions of a number format. -/
structure Layout where
  /-- The least power of the first digit that is written with the point at its place. -/
  positionalFrom : Int
  /-- The first power above it that is written with an exponent again. -/
  positionalBelow : Int
  /-- The least number of digits of an exponent. -/
  exponentWidth : Nat

/-- The point stands at its place from `0.0001` up to `10 ^ 16`; an exponent has two digits. -/
def layout : Layout := ⟨-4, 16, 2⟩

/-- The list, filled up with zeros in front to the given length. -/
def padLeft (width : Nat) (digits : List Char) : List Char :=
  List.replicate (width - digits.length) '0' ++ digits

/-- The list, filled up with zeros behind to the given length. -/
def padRight (width : Nat) (digits : List Char) : List Char :=
  digits ++ List.replicate (width - digits.length) '0'

/-- The digits of a coefficient that is not zero, without the zeros at its end. -/
def significantDigits (coefficient : Nat) : List Char :=
  ((Nat.toDigits 10 coefficient).reverse.dropWhile (· == '0')).reverse

/-- The digits with the point at its place, if the first one counts `10 ^ leading`. -/
def positional (digits : List Char) (leading : Int) : List Char :=
  if leading < 0 then
    '0' :: '.' :: (List.replicate (-leading - 1).toNat '0' ++ digits)
  else
    let width := leading.toNat + 1
    padRight width (digits.take width) ++ '.' :: padRight 1 (digits.drop width)

/-- The digits with the point behind the first one, and the power that this one counts. -/
def scientific (exponentWidth : Nat) (digits : List Char) (leading : Int) : List Char :=
  let fraction := digits.drop 1
  let point := if fraction.isEmpty then [] else ['.']
  let sign := if leading < 0 then '-' else '+'
  digits.take 1 ++ point ++ fraction
    ++ 'e' :: sign :: padLeft exponentWidth (Nat.toDigits 10 leading.natAbs)

/-- The text of a decimal, without its sign. -/
def magnitudeText (l : Layout) (d : Decimal) : List Char :=
  if d.coefficient = 0 then ['0', '.', '0']
  else
    let digits := significantDigits d.coefficient
    let leading := d.leadingExponent
    if l.positionalFrom ≤ leading && leading < l.positionalBelow then positional digits leading
    else scientific l.exponentWidth digits leading

/-- The text of a double, without its sign. -/
def unsignedText (v : Float) : List Char :=
  if isFinite v then magnitudeText layout (toDecimal v) else ['i', 'n', 'f']

/-- The text of a double. The value that is no number has no sign. -/
def text (v : Float) : String :=
  if isNotANumber v then "nan"
  else String.ofList (if isNegative v then '-' :: unsignedText v else unsignedText v)

/-- The text of a double as a result on display: whole numbers have no point. -/
def displayText (v : Float) : String :=
  if isFinite v && isWhole v then integerText (wholePart v) else text v

end InfixCalc.Double
