import InfixCalc.Decimal
import InfixCalc.Text.Quoted

/-!
# `InfixCalc.Template.Error`: what can be wrong with a template

A template can be malformed, it can refer to an argument that is not there, or it can ask for
something that an argument does not have: a part, or a layout. An argument that is no text can also
fail in a way of its own. Each constructor is a cause; `message` is the sentence for whoever wrote
the template.
-/

set_option autoImplicit false

namespace InfixCalc

/-- What is wrong with a layout. -/
inductive LayoutError where
  /-- A number in it is beyond the limit. -/
  | numberBeyondLimit
  /-- It asks for thousands to be marked by commas and by underscores. -/
  | twoSeparators
  /-- It has a point and no number of characters behind it. -/
  | missingLength
  /-- There is more behind its end than the letter of a type. -/
  | unreadable (layout : String)
  /-- It asks for thousands to be marked, which its type does not have. -/
  | separator (mark type : Char)
  /-- Its type is not that of texts. -/
  | unknownType (type : Char)
  /-- It asks for a space in front of positive numbers. -/
  | signSpace
  /-- It asks for signs. -/
  | sign
  /-- It asks for negative zeros to be made positive. -/
  | zeroSign
  /-- It asks for the alternate form of numbers. -/
  | alternateForm
  /-- It asks for padding behind the sign. -/
  | signAlignment
deriving DecidableEq, Repr

/-- What is wrong with a template or its arguments. -/
inductive TemplateError where
  /-- A closing brace closes nothing. -/
  | loneClosingBrace
  /-- The template ends with an opening brace. -/
  | loneOpeningBrace
  /-- The template ends inside the name of a place. -/
  | unclosedName
  /-- There is an opening brace inside the name of a place. -/
  | braceInName
  /-- The template ends where the letter of a conversion is due. -/
  | missingConversion
  /-- There is more than one letter for a conversion. -/
  | longConversion
  /-- The template ends inside the layout of a place. -/
  | unclosedLayout
  /-- A number is beyond the limit. -/
  | numberBeyondLimit
  /-- Places are numbered first and places without a number follow. -/
  | numberedThenCounted
  /-- Places without a number come first and numbered ones follow. -/
  | countedThenNumbered
  /-- There is no argument at the position. -/
  | missingPosition (position : Nat)
  /-- There is no argument of the name. -/
  | missingName (name : String)
  /-- A part of an argument is asked for without saying which. -/
  | emptyPart
  /-- A part of an argument is followed by neither a point nor a bracket. -/
  | strayText
  /-- A text has no parts with names in brackets. -/
  | namedPart
  /-- A text has no part at the position. -/
  | missingPart
  /-- A text has no parts with names behind points. -/
  | missingField (name : String)
  /-- No conversion has the letter. -/
  | unknownConversion (letter : Char)
  /-- Layouts hold places whose layouts hold places. -/
  | tooDeep
  /-- A layout is wrong. -/
  | layout (e : LayoutError)
  /-- An argument fails in its own way: the class of the fault, and its sentence. -/
  | raised (kind message : String)
deriving DecidableEq, Repr

/-- A character in a message: itself if it is a visible one below the bound, or else its code
point. -/
def visibleChar (bound : Nat) (c : Char) : String :=
  if 0x20 < c.toNat && c.toNat < bound then String.singleton c
  else String.ofList ('\\' :: 'x' :: Nat.toDigits 16 c.toNat)

/-- The sentence about a layout. -/
def LayoutError.message : LayoutError → String
  | numberBeyondLimit => "Too many decimal digits in format string"
  | twoSeparators => "Cannot specify both ',' and '_'."
  | missingLength => "Format specifier missing precision"
  | unreadable layout => "Invalid format specifier '" ++ layout ++ "' for object of type 'str'"
  | separator mark type =>
    "Cannot specify '" ++ String.singleton mark ++ "' with '" ++ visibleChar 0x80 type ++ "'."
  | unknownType type =>
    "Unknown format code '" ++ visibleChar 0x80 type ++ "' for object of type 'str'"
  | signSpace => "Space not allowed in string format specifier"
  | sign => "Sign not allowed in string format specifier"
  | zeroSign => "Negative zero coercion (z) not allowed in string format specifier"
  | alternateForm => "Alternate form (#) not allowed in string format specifier"
  | signAlignment => "'=' alignment not allowed in string format specifier"

/-- The sentence about a template. -/
def TemplateError.message : TemplateError → String
  | loneClosingBrace => "Single '\x7d' encountered in format string"
  | loneOpeningBrace => "Single '\x7b' encountered in format string"
  | unclosedName => "expected '\x7d' before end of string"
  | braceInName => "unexpected '\x7b' in field name"
  | missingConversion => "end of string while looking for conversion specifier"
  | longConversion => "expected ':' after conversion specifier"
  | unclosedLayout => "unmatched '\x7b' in format spec"
  | numberBeyondLimit => "Too many decimal digits in format string"
  | numberedThenCounted =>
    "cannot switch from manual field specification to automatic field numbering"
  | countedThenNumbered =>
    "cannot switch from automatic field numbering to manual field specification"
  | missingPosition position =>
    "Replacement index " ++ integerText position ++ " out of range for positional args tuple"
  | missingName name => Text.quoted name
  | emptyPart => "Empty attribute in format string"
  | strayText => "Only '.' or '[' may follow ']' in format field specifier"
  | namedPart => "string indices must be integers, not 'str'"
  | missingPart => "string index out of range"
  | missingField name => "'str' object has no attribute '" ++ name ++ "'"
  | unknownConversion letter => "Unknown conversion specifier " ++ visibleChar 0x7F letter
  | tooDeep => "Max string recursion exceeded"
  | layout e => e.message
  | raised _ message => message

end InfixCalc
