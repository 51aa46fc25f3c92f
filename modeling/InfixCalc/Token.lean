import InfixCalc.Text.Quoted

/-!
# `InfixCalc.Token`: the tokens of infix arithmetic

An expression is made of numerals, four operators and two parentheses. A number token keeps the
text that was typed; what number it is, and whether it is one, is decided when it is evaluated.
All four operators group to the left, and the higher precedence binds tighter.

Token lists may also come from elsewhere than a typed line. Such a list can hold any foreign object,
which is no token of the grammar and which every stage refuses.
-/

set_option autoImplicit false

namespace InfixCalc

/-- The four operators of arithmetic. -/
inductive Operator where
  | add
  | subtract
  | multiply
  | divide
deriving DecidableEq, Repr

namespace Operator

/-- All operators. -/
def all : List Operator := [add, subtract, multiply, divide]

/-- The character that is typed for the operator. -/
def char : Operator → Char
  | add => '+'
  | subtract => '-'
  | multiply => '*'
  | divide => '/'

/-- The text that is typed for the operator. -/
def symbol (op : Operator) : String :=
  String.singleton op.char

/-- How tightly the operator binds. -/
def precedence : Operator → Nat
  | add => 1
  | subtract => 1
  | multiply => 2
  | divide => 2

/-- The operator with the given symbol. -/
def ofSymbol? (symbol : String) : Option Operator :=
  all.find? fun op => op.symbol == symbol

/-- The value of the operator, as double arithmetic gives it. -/
def apply : Operator → Float → Float → Float
  | add, left, right => left + right
  | subtract, left, right => left - right
  | multiply, left, right => left * right
  | divide, left, right => left / right

/-- Every operator is found by its symbol. -/
theorem ofSymbol?_symbol (op : Operator) : ofSymbol? op.symbol = some op := by
  cases op <;> rfl

end Operator

/-- An object that is no token of the grammar, by what there is to see of it. -/
structure Foreign where
  /-- The name of its type. -/
  type : String
  /-- Its text. -/
  text : String
  /-- How it is shown in messages. -/
  shown : String
deriving DecidableEq, Repr

/-- A text as an object that is no token: it is shown between quotes. -/
def Foreign.ofText (text : String) : Foreign :=
  ⟨"str", text, Text.quoted text⟩

/-- Texts can stand among tokens. -/
instance : Coe String Foreign := ⟨Foreign.ofText⟩

/-- A foreign object stands for its text where a text is due. -/
instance : CoeOut Foreign String := ⟨Foreign.text⟩

/-- An element of an expression. -/
inductive Token where
  /-- A numeral, as it was typed. -/
  | number (text : String)
  | operator (op : Operator)
  | leftParen
  | rightParen
  /-- An object that is no token of the grammar. -/
  | foreign (object : Foreign)
deriving DecidableEq, Repr

namespace Token

/-- The text that the token was typed as. -/
def text : Token → String
  | number text => text
  | operator op => op.symbol
  | leftParen => "("
  | rightParen => ")"
  | foreign object => object.text

/-- The name of the token's kind. -/
def kind : Token → String
  | number _ => "Number"
  | operator _ => "Operator"
  | leftParen => "LeftParen"
  | rightParen => "RightParen"
  | foreign object => object.type

/-- The token as it is shown in messages: its kind and what it holds. -/
def shown : Token → String
  | number text => "Number(text=" ++ Text.quoted text ++ ")"
  | operator op => "Operator(symbol=" ++ Text.quoted op.symbol ++ ")"
  | leftParen => "LeftParen()"
  | rightParen => "RightParen()"
  | foreign object => object.shown

/-- The texts of the tokens, one after the other with a space between them. -/
def spaced (tokens : List Token) : String :=
  " ".intercalate (tokens.map text)

end Token

end InfixCalc
