import InfixCalc.Arithmetic

/-!
# `InfixCalc.Machine`: evaluation on a stack

The machine takes tokens in postfix order. A number is pushed; an operator takes the two topmost
values, the right operand being on top, and pushes its value. In the end one value must be left.

A step that fails says why and with which stack it stopped. A number that cannot be read, a token
that cannot be run and an operator without two operands leave the stack as it was; a division
by zero has taken its operands.
-/

set_option autoImplicit false

namespace InfixCalc

/-- The values on a machine, topmost first. -/
abbrev Stack := List Float

/-- A machine that stopped: why, and the stack it was left with. -/
structure Halt (ε : Type) where
  /-- Why the machine stopped. -/
  error : ε
  /-- The stack it was left with. -/
  stack : Stack

namespace Machine

/-- Why the machine cannot apply a symbol. -/
inductive ApplyError where
  /-- The operands are at fault. -/
  | user (e : CalcError)
  /-- The symbol is no operator's. -/
  | caller (e : Misuse)

/-- Puts the values on the stack, the last one on top. -/
def push (values : List Float) (stack : Stack) : Stack :=
  values.reverse ++ stack

/-- Takes the given number of values from the stack, topmost first; none, if it is negative. -/
def pop (count : Int) (stack : Stack) : Except CalcError (List Float × Stack) :=
  if stack.length < count then .error (.tooFewElements count)
  else .ok (stack.take count.toNat, stack.drop count.toNat)

/-- Takes the operands of an operator, the left one first. -/
def popOperands : Stack → Except CalcError ((Float × Float) × Stack)
  | right :: left :: rest => .ok ((left, right), rest)
  | _ => .error (.tooFewElements 2)

/-- Applies an operator to the two topmost values. -/
def apply (op : Operator) (stack : Stack) : Except (Halt CalcError) Stack :=
  match popOperands stack with
  | .error e => .error ⟨e, stack⟩
  | .ok ((left, right), rest) =>
    match op.value left right with
    | .error e => .error ⟨e, rest⟩
    | .ok v => .ok (v :: rest)

/-- Applies the operator with the given symbol. The symbol is looked up only when the operands
are taken. -/
def applySymbol (symbol : String) (stack : Stack) : Except (Halt ApplyError) Stack :=
  match Operator.ofSymbol? symbol with
  | some op =>
    match apply op stack with
    | .ok left => .ok left
    | .error ⟨e, left⟩ => .error ⟨.user e, left⟩
  | none =>
    match popOperands stack with
    | .error e => .error ⟨.user e, stack⟩
    | .ok (_, rest) => .error ⟨.caller (.noSuchSymbol symbol), rest⟩

/-- Takes in one token. -/
def feed (stack : Stack) : Token → Except (Halt CalcError) Stack
  | .number text =>
    match numeralValue text with
    | .ok v => .ok (v :: stack)
    | .error e => .error ⟨e, stack⟩
  | .operator op => apply op stack
  | .leftParen => .error ⟨.unrunnable .leftParen, stack⟩
  | .rightParen => .error ⟨.unrunnable .rightParen, stack⟩
  | .foreign object => .error ⟨.unrunnable (.foreign object), stack⟩

/-- The one value that is left. -/
def result (stack : Stack) : Except CalcError Float :=
  match stack with
  | [v] => .ok v
  | _ => .error (.leftOver stack.length)

/-- Takes in all tokens and gives the one value that is left. The value stays on the stack. -/
def run (tokens : List Token) (stack : Stack) : Except (Halt CalcError) (Float × Stack) := do
  let left ← tokens.foldlM feed stack
  match result left with
  | .ok v => .ok (v, left)
  | .error e => .error ⟨e, left⟩

end Machine

/-- The value of tokens in postfix order, on a machine of their own. -/
def evaluatePostfix (tokens : List Token) : Except CalcError Float :=
  match Machine.run tokens [] with
  | .ok (v, _) => .ok v
  | .error halt => .error halt.error

end InfixCalc
