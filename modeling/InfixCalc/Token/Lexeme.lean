import InfixCalc.Token.Scan

/-!
# `InfixCalc.Token.Lexeme`: a token from the named parts of a lexeme

A lexeme can be given by the parts of the grammar that it matched, each with its name and text:
`number`, `operator`, `left` and `right`, as the printed grammar (`grammar`) names them. The first
of these that is there decides.
-/

set_option autoImplicit false

namespace InfixCalc

/-- Why parts of a lexeme make no token. -/
inductive LexemeError where
  /-- The lexeme is at fault. -/
  | user (e : CalcError)
  /-- The parts are none that a lexeme can have. -/
  | caller (e : Misuse)

/-- The token that the parts of a lexeme make. -/
def Token.ofParts (parts : List (String × String)) : Except LexemeError Token :=
  match parts.lookup "number", parts.lookup "operator", parts.lookup "left",
    parts.lookup "right" with
  | some numeral, _, _, _ => (Token.ofNumeral numeral).mapError .user
  | none, some symbol, _, _ => ((Operator.ofSymbol symbol).map .operator).mapError .caller
  | none, none, some _, _ => .ok .leftParen
  | none, none, none, some _ => .ok .rightParen
  | none, none, none, none => .error (.user (.unknownLexeme parts))

/-- The grammar of lexemes as a regular expression with named parts. White space in it has no
meaning. -/
def grammar : String :=
  "(?<number>\n              [0-9.]+\n              )|(?<operator>(?:\\+|\\-|\\*|/))"
    ++ "|(?<left>\\()|(?<right>\\))"

end InfixCalc
