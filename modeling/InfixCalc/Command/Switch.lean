/-!
# `InfixCalc.Command.Switch`: the switches of the command line

The table of switches: how each is written, how many arguments it takes, and which other switch it
excludes. Everything else about the command line follows from this table.
-/

set_option autoImplicit false

namespace InfixCalc.Command

/-- What can be switched on a command line. -/
inductive Switch where
  /-- Print the help text. -/
  | help
  /-- Write the log. -/
  | verbose
  /-- The number of places that results are rounded to. -/
  | precision
  /-- The rate that results are converted by. -/
  | rate
  /-- The expressions to calculate. -/
  | expression
  /-- Ask for expressions, with a prompt. -/
  | prompt
  /-- Print the grammar of lexemes. -/
  | rawGrammar
  /-- Print tokens instead of results. -/
  | dump
deriving DecidableEq, Repr

/-- How many arguments a switch takes. -/
inductive Arity where
  | none
  | one
  | optional
  /-- All words that are left, up to a separator. -/
  | remaining
deriving DecidableEq, Repr

namespace Switch

/-- All switches, in the order of the help text. -/
def all : List Switch :=
  [help, verbose, precision, rate, expression, prompt, rawGrammar, dump]

/-- The letter of a switch. -/
def letter : Switch → Char
  | help => 'h'
  | verbose => 'v'
  | precision => 'k'
  | rate => 'r'
  | expression => 'e'
  | prompt => 'p'
  | rawGrammar => 'G'
  | dump => 'D'

/-- The short form of a switch. -/
def short (s : Switch) : String :=
  String.ofList ['-', s.letter]

/-- The long form of a switch. -/
def long : Switch → String
  | help => "--help"
  | verbose => "--verbose"
  | precision => "--precision"
  | rate => "--rate"
  | expression => "--expression"
  | prompt => "--prompt"
  | rawGrammar => "--raw-grammar"
  | dump => "--dump"

/-- Both forms, as messages name a switch. -/
def title (s : Switch) : String :=
  s.short ++ "/" ++ s.long

/-- How many arguments the switch takes. -/
def arity : Switch → Arity
  | help => .none
  | verbose => .none
  | precision => .one
  | rate => .one
  | expression => .remaining
  | prompt => .optional
  | rawGrammar => .none
  | dump => .none

/-- The switch that must not stand on the same command line. -/
def rival? : Switch → Option Switch
  | expression => some prompt
  | prompt => some expression
  | rawGrammar => some dump
  | dump => some rawGrammar
  | _ => none

/-- The switch with the given letter. -/
def ofLetter? (c : Char) : Option Switch :=
  all.find? fun s => s.letter == c

/-- The switch with the given short or long form. -/
def ofForm? (form : String) : Option Switch :=
  all.find? fun s => s.short == form || s.long == form

/-- The switches with a long form that begins with the given text. -/
def abbreviatedBy (start : String) : List Switch :=
  all.filter fun s => start.toList.isPrefixOf s.long.toList

end Switch

end InfixCalc.Command
