import InfixCalc.Double.Text
import InfixCalc.Token

/-!
# `InfixCalc.Error`: what can be wrong, and how it is said

Two types of failure are kept apart. A `CalcError` is the fault of the expression: each constructor
is a cause, `message` is the sentence a user reads, and `kind` puts the causes into the classes
that callers tell apart. A `Misuse` is the fault of a call to this library; no expression causes
one.
-/

set_option autoImplicit false

namespace InfixCalc

/-- The classes of faults of an expression. -/
inductive ErrorKind where
  /-- No class in particular. -/
  | general
  /-- A character has no place in an expression. -/
  | invalidCharacter
  | invalidNumber
  | mismatchedParens
  | divisionByZero
  /-- The tokens do not form an expression. -/
  | invalidExpression
deriving DecidableEq, Repr

/-- The classes of faults from outside the calculator. -/
inductive OuterKind where
  | value
  | key
  | type
deriving DecidableEq, Repr

/-- What is wrong with an expression. -/
inductive CalcError where
  /-- The character is none of the grammar's and no white space. -/
  | foreignCharacter (c : Char)
  /-- No token begins where the rest of the line begins. -/
  | unreadable (rest : String)
  /-- The parts of a lexeme name no token. -/
  | unknownLexeme (parts : List (String × String))
  /-- The numeral has two points or more. -/
  | manyPoints (numeral : String)
  /-- An opening parenthesis is never closed. -/
  | unmatchedLeft
  /-- A closing parenthesis closes nothing. -/
  | unmatchedRight
  /-- The token has no place in infix order. -/
  | unparsable (token : Token)
  /-- The token has no place in postfix order. -/
  | unrunnable (token : Token)
  /-- The text of a number token denotes no number. -/
  | unreadableNumeral (text : String)
  /-- The stack holds less than is needed. -/
  | tooFewElements (needed : Int)
  /-- The stack does not hold exactly one value at the end. -/
  | leftOver (count : Nat)
  /-- The right operand of a division is zero. -/
  | divisionByZero (left right : Float)

namespace CalcError

/-- The class of a fault. -/
def kind : CalcError → ErrorKind
  | foreignCharacter _ => .invalidCharacter
  | unreadable _ => .invalidCharacter
  | unknownLexeme _ => .invalidCharacter
  | manyPoints _ => .invalidNumber
  | unmatchedLeft => .mismatchedParens
  | unmatchedRight => .mismatchedParens
  | unparsable _ => .invalidExpression
  | unrunnable _ => .invalidExpression
  | unreadableNumeral _ => .invalidExpression
  | tooFewElements _ => .invalidExpression
  | leftOver _ => .invalidExpression
  | divisionByZero _ _ => .divisionByZero

/-- The fault from outside that led to this one: reading a numeral fails on its value. -/
def cause? : CalcError → Option OuterKind
  | unreadableNumeral _ => some .value
  | _ => none

/-- The sentence for the user. -/
def message : CalcError → String
  | foreignCharacter c => "Invalid character " ++ Text.quoted (String.singleton c)
  | unreadable rest => "Couldn't lex " ++ rest
  | unknownLexeme parts => "Couldn't lex " ++ Text.quotedPairs parts
  | manyPoints numeral => "Invalid number " ++ numeral
  | unmatchedLeft => "Unmatched ("
  | unmatchedRight => "Unmatched )"
  | unparsable token => "Cannot parse " ++ token.shown
  | unrunnable token => "Cannot run " ++ token.shown
  | unreadableNumeral text => "Cannot convert " ++ text
  | tooFewElements needed =>
    "Less than " ++ integerText needed ++ " element(s) on stack"
  | leftOver count => integerText count ++ " element(s) left on stack, expected 1"
  | divisionByZero left right =>
    "Division by zero: " ++ Double.text left ++ " / " ++ Double.text right

end CalcError

/-- A fault as it is reported: its class, its sentence and the class of the fault behind it. -/
structure Notice where
  /-- The class of the fault. -/
  kind : ErrorKind
  /-- The sentence for the user. -/
  message : String
  /-- The class of the fault from outside that led to it, if one did. -/
  cause? : Option OuterKind
deriving DecidableEq, Repr

/-- The report of a fault. -/
def CalcError.notice (e : CalcError) : Notice :=
  ⟨e.kind, e.message, e.cause?⟩

/-- A field that objects of a type do not have. -/
structure MissingField where
  type : String
  field : String
deriving DecidableEq, Repr

/-- What is wrong with a call to this library. -/
inductive Misuse where
  /-- A token is asked for with a symbol that is no operator's. -/
  | noSuchOperator (symbol : String)
  /-- The machine is asked to apply a symbol that is no operator's. -/
  | noSuchSymbol (symbol : String)
  /-- A field of a token is assigned to; tokens never change. -/
  | fixedField (name : String)
  /-- A field of an object that is no token is assigned to, and it does not have it. -/
  | noField (missing : MissingField)
  /-- A reading without a value and without an error is displayed. -/
  | noValue
deriving DecidableEq, Repr

/-- The sentence for the caller. -/
def Misuse.message : Misuse → String
  | noSuchOperator symbol => "No such operator " ++ Text.quoted symbol
  | noSuchSymbol symbol => Text.quoted symbol
  | fixedField name => "cannot assign to field " ++ Text.quoted name
  | noField missing =>
    "'" ++ missing.type ++ "' object has no attribute '" ++ missing.field ++ "'"
  | noValue => "must be real number, not NoneType"

/-- The operator with the given symbol, for a caller who claims that there is one. -/
def Operator.ofSymbol (symbol : String) : Except Misuse Operator :=
  match ofSymbol? symbol with
  | some op => .ok op
  | none => .error (.noSuchOperator symbol)

/-- Assigning to a field of a token: it always fails, since a token never changes and the foreign
objects, such as texts and numbers, have no fields. -/
def Token.assign (token : Token) (field : String) : Except Misuse Token :=
  match token with
  | .foreign object => .error (.noField ⟨object.type, field⟩)
  | _ => .error (.fixedField field)

end InfixCalc
