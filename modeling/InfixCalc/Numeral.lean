import InfixCalc.Double.Nearest
import InfixCalc.Text.Digit
import InfixCalc.Text.Space

/-!
# `InfixCalc.Numeral`: reading a number from a text

A text denotes a number if, apart from white space at its ends, it is an optional sign followed
by digits with at most one point among them and an optional exponent, or by a name of infinity or
of the value that is no number. Digits of every script count. A single underscore may stand between
two digits.

`parse?` reads the text as a `Numeral`, which is exact; `readDouble?` goes on to the nearest
double. The texts that the expression syntax lets through are a small part of this language. The
other part serves numbers that come from elsewhere, such as an exchange rate. `readInteger?`
reads whole numbers, with a limit on their length.
-/

set_option autoImplicit false

namespace InfixCalc

/-- What a text that denotes a number denotes. -/
inductive Numeral where
  | notANumber
  /-- Infinity, with its sign. -/
  | infinite (negative : Bool)
  | finite (d : Decimal)
deriving DecidableEq, Repr

namespace Numeral

open Text

/-- The text without an underscore in front of a digit. -/
def skipUnderscore : List Char → List Char
  | '_' :: next :: rest => if isDigit next then next :: rest else '_' :: next :: rest
  | chars => chars

/-- Passing over an underscore never makes a text longer. -/
theorem length_skipUnderscore_le (chars : List Char) :
    (skipUnderscore chars).length ≤ chars.length := by
  fun_cases skipUnderscore <;> simp

/-- The values of the digits at the front, and the rest of the text. -/
def takeDigits : List Char → List Nat × List Char
  | [] => ([], [])
  | c :: rest =>
    match digitValue? c with
    | none => ([], c :: rest)
    | some value =>
      let (values, tail) := takeDigits (skipUnderscore rest)
      (value :: values, tail)
termination_by chars => chars.length
decreasing_by exact Nat.lt_succ_of_le (length_skipUnderscore_le rest)

/-- Whether a minus sign stands in front, and the rest behind the sign. -/
def takeSign : List Char → Bool × List Char
  | '-' :: rest => (true, rest)
  | '+' :: rest => (false, rest)
  | rest => (false, rest)

/-- The digits behind a point, if one stands in front, and the rest. -/
def takeFraction : List Char → List Nat × List Char
  | '.' :: rest => takeDigits rest
  | rest => ([], rest)

/-- The exponent that the whole text is; the empty text is the exponent zero. -/
def exponent? : List Char → Option Int
  | [] => some 0
  | mark :: rest =>
    if mark = 'e' || mark = 'E' then
      let (negative, digits) := takeSign rest
      match takeDigits digits with
      | ([], _) => none
      | (values, []) => some (if negative then -(ofDigits values) else ofDigits values)
      | _ => none
    else none

/-- The decimal that the whole unsigned text denotes. -/
def decimal? (negative : Bool) (chars : List Char) : Option Decimal :=
  let (whole, rest) := takeDigits chars
  let (fraction, tail) := takeFraction rest
  if whole.isEmpty && fraction.isEmpty then none
  else (exponent? tail).map fun exponent =>
    ⟨negative, ofDigits (whole ++ fraction), exponent - fraction.length⟩

/-- The names of infinity. -/
def infinityNames : List (List Char) :=
  [['i', 'n', 'f'], ['i', 'n', 'f', 'i', 'n', 'i', 't', 'y']]

/-- The name of the value that is no number. -/
def notANumberName : List Char :=
  ['n', 'a', 'n']

/-- The numeral that a text is, white space at its ends left aside. -/
def parse? (text : String) : Option Numeral :=
  let (negative, rest) := takeSign (trim text.toList)
  let name := rest.map Char.toLower
  if name ∈ infinityNames then some (.infinite negative)
  else if name = notANumberName then some .notANumber
  else (decimal? negative rest).map .finite

/-- The double nearest to a numeral. -/
def toDouble : Numeral → Float
  | .notANumber => Double.notANumber
  | .infinite negative => Double.ofIndex negative Double.infinityIndex
  | .finite d => Double.ofDecimal d

/-- The double nearest to the number that a text denotes. -/
def readDouble? (text : String) : Option Float :=
  (parse? text).map toDouble

/-- The greatest number of digits of a whole number. -/
def integerDigitLimit : Nat := 4300

/-- The whole number that a text denotes: a sign and digits, white space at the ends left aside. -/
def readInteger? (text : String) : Option Int :=
  let (negative, rest) := takeSign (trim text.toList)
  match takeDigits rest with
  | ([], _) => none
  | (values, []) =>
    if values.length ≤ integerDigitLimit then
      some (if negative then -(ofDigits values) else ofDigits values)
    else none
  | _ => none

end Numeral

end InfixCalc
