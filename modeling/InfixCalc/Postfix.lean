import InfixCalc.Error

/-!
# `InfixCalc.Postfix`: from infix to postfix order

In postfix order an operator follows its operands, and no parentheses are needed. Tokens are
brought into it in one pass: numbers go out at once, operators and opening parentheses are held
back. An operator first sends out the held operators on top that bind at least as tightly, so equal
precedence groups to the left; a closing parenthesis sends out the operators down to the opening
one, which it takes away; at the end all are sent out.

Only the shape of the token list matters: whether operators have their operands is left to the
evaluation.
-/

set_option autoImplicit false

namespace InfixCalc

/-- What is held back until its place in postfix order comes. -/
inductive Held where
  | operator (op : Operator)
  | leftParen
deriving DecidableEq, Repr

/-- The state of the conversion. -/
structure Yard where
  /-- The tokens sent out, the latest first. -/
  sent : List Token
  /-- What is held back, the latest first. -/
  held : List Held
deriving DecidableEq, Repr

namespace Yard

/-- Nothing is sent out and nothing is held back. -/
def empty : Yard := ⟨[], []⟩

/-- Sends the token out. -/
def send (token : Token) (y : Yard) : Yard :=
  { y with sent := token :: y.sent }

/-- Sends out the operators on top that bind at least as tightly as the given one. -/
def sendTighter (op : Operator) (sent : List Token) : List Held → Yard
  | .operator top :: rest =>
    if op.precedence ≤ top.precedence then sendTighter op (.operator top :: sent) rest
    else ⟨sent, .operator top :: rest⟩
  | held => ⟨sent, held⟩

/-- Sends out the operators down to the latest opening parenthesis and takes it away. -/
def close (sent : List Token) : List Held → Except CalcError Yard
  | .operator top :: rest => close (.operator top :: sent) rest
  | .leftParen :: rest => .ok ⟨sent, rest⟩
  | [] => .error .unmatchedRight

/-- Takes in one token. -/
def step (y : Yard) : Token → Except CalcError Yard
  | .number text => .ok (y.send (.number text))
  | .operator op =>
    let cleared := sendTighter op y.sent y.held
    .ok { cleared with held := .operator op :: cleared.held }
  | .leftParen => .ok { y with held := .leftParen :: y.held }
  | .rightParen => close y.sent y.held
  | .foreign object => .error (.unparsable (.foreign object))

/-- Sends out everything that is held back; an opening parenthesis must not be among it. -/
def flush (sent : List Token) : List Held → Except CalcError (List Token)
  | .operator top :: rest => flush (.operator top :: sent) rest
  | .leftParen :: _ => .error .unmatchedLeft
  | [] => .ok sent.reverse

end Yard

/-- The tokens in postfix order. -/
def toPostfix (tokens : List Token) : Except CalcError (List Token) := do
  let y ← tokens.foldlM Yard.step Yard.empty
  Yard.flush y.sent y.held

end InfixCalc
