import InfixCalc.Error
import InfixCalc.Text.Digit
import InfixCalc.Text.Space

/-!
# `InfixCalc.Token.Scan`: from a typed line to tokens

`scan` reads a line from left to right: a run of digits and points, as long as it is, makes a
numeral, and each operator and parenthesis is a token of its own. It gives the tokens read and, if
it stopped before the end, why.

`tokenize` is for typed lines. It refuses a line with a character that is neither of the grammar
nor white space, naming the first one; then it drops the white space, so that a numeral may be
typed with spaces inside; then it scans, and gives all tokens or none.
-/

set_option autoImplicit false

namespace InfixCalc

open Text

/-- The character belongs to a numeral. -/
def isNumeralChar (c : Char) : Bool :=
  isAsciiDigit c || c == '.'

namespace Token

/-- The token that a single character makes. -/
def ofChar? : Char → Option Token
  | '+' => some (.operator .add)
  | '-' => some (.operator .subtract)
  | '*' => some (.operator .multiply)
  | '/' => some (.operator .divide)
  | '(' => some .leftParen
  | ')' => some .rightParen
  | _ => none

/-- The number token of a numeral, unless it has two points or more. -/
def ofNumeral (numeral : String) : Except CalcError Token :=
  if 1 < numeral.toList.count '.' then .error (.manyPoints numeral) else .ok (.number numeral)

end Token

/-- The character belongs to the grammar or is white space. -/
def isAllowed (c : Char) : Bool :=
  isNumeralChar c || (Token.ofChar? c).isSome || isSpace c

/-- What was read of a line. -/
structure Scan where
  tokens : List Token
  /-- Why reading stopped before the end of the line, if it did. -/
  stopped : Option CalcError

/-- The scan with one more token in front. -/
def Scan.cons (token : Token) (s : Scan) : Scan :=
  { s with tokens := token :: s.tokens }

/-- All tokens, or the reason why there are not all of them. -/
def Scan.all (s : Scan) : Except CalcError (List Token) :=
  match s.stopped with
  | none => .ok s.tokens
  | some e => .error e

/-- Reads the characters from left to right. -/
def scan : List Char → Scan
  | [] => ⟨[], none⟩
  | c :: rest =>
    if isNumeralChar c then
      match Token.ofNumeral (String.ofList (c :: rest.takeWhile isNumeralChar)) with
      | .ok token => (scan (rest.dropWhile isNumeralChar)).cons token
      | .error e => ⟨[], some e⟩
    else
      match Token.ofChar? c with
      | some token => (scan rest).cons token
      | none => ⟨[], some (.unreadable (String.ofList (c :: rest)))⟩
termination_by chars => chars.length
decreasing_by
  · exact Nat.lt_succ_of_le (List.dropWhile_sublist _).length_le
  · exact Nat.lt_succ_self _

/-- The tokens of a typed line. -/
def tokenize (line : String) : Except CalcError (List Token) :=
  match line.toList.find? (!isAllowed ·) with
  | some c => .error (.foreignCharacter c)
  | none => (scan (line.toList.filter (!isSpace ·))).all

end InfixCalc
