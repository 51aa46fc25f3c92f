import InfixCalc.Command.Switch
import InfixCalc.Text.Digit
import InfixCalc.Text.Quoted

/-!
# `InfixCalc.Command.Word`: the words of a command line

A command line is a list of words, and each word has a role of its own, whatever stands around it.
A word that begins with a dash is a switch if it has a switch's short or long form, a long form cut
short in an unambiguous way, or a short form with more text behind it; an argument may be attached
by an equals sign. A negative number and a text with a space are arguments in spite of the dash.
The word `--` is a separator, behind which all words are arguments.
-/

set_option autoImplicit false

namespace InfixCalc.Command

/-- What is wrong with the use of a switch. -/
inductive SwitchError where
  /-- The argument is no whole number. -/
  | invalidInteger (text : String)
  /-- The argument is no number. -/
  | invalidNumber (text : String)
  | missingArgument
  /-- The switch takes no argument, and one is attached to it. -/
  | ignoredArgument (text : String)
  /-- The other switch stands on the same command line. -/
  | excludedBy (other : Switch)
deriving DecidableEq, Repr

/-- What is wrong with a command line. -/
inductive UsageError where
  /-- A shortened form fits more than one switch. -/
  | ambiguous (word : String) (candidates : List Switch)
  /-- A switch is used in a wrong way. -/
  | switch (s : Switch) (e : SwitchError)
  /-- There are words that belong to no switch. -/
  | unrecognized (words : List String)
deriving DecidableEq, Repr

/-- The sentence about a switch. -/
def SwitchError.message : SwitchError → String
  | invalidInteger text => "invalid int value: " ++ Text.quoted text
  | invalidNumber text => "invalid float value: " ++ Text.quoted text
  | missingArgument => "expected one argument"
  | ignoredArgument text => "ignored explicit argument " ++ Text.quoted text
  | excludedBy other => "not allowed with argument " ++ other.title

/-- The sentence about a command line. -/
def UsageError.message : UsageError → String
  | ambiguous word candidates =>
    "ambiguous option: " ++ word ++ " could match "
      ++ ", ".intercalate (candidates.map Switch.long)
  | switch s e => "argument " ++ s.title ++ ": " ++ e.message
  | unrecognized words => "unrecognized arguments: " ++ " ".intercalate words

/-- The role of a word. -/
inductive Role where
  /-- An argument of a switch, or of none. -/
  | argument
  /-- The end of the switches. -/
  | separator
  /-- A switch, in its short form or not, and the text attached to it. -/
  | switch (s : Switch) (isShort : Bool) (attached : Option String)
  /-- A word like a switch that is none. -/
  | unknown
deriving DecidableEq, Repr

/-- A word of a command line with its role. -/
structure Word where
  text : String
  role : Role
deriving DecidableEq, Repr

namespace Word

/-- The part before the first equals sign, and the part behind it if there is one. -/
def splitEquals (chars : List Char) : String × Option String :=
  (String.ofList (chars.takeWhile (· != '=')),
    match chars.dropWhile (· != '=') with
    | [] => none
    | _ :: rest => some (String.ofList rest))

/-- The characters behind a dash make a negative number: digits, with a point before the last of
them or without one. A line feed at the end is overlooked. -/
def isNumberTail (chars : List Char) : Bool :=
  let body := if chars.getLast? = some '\n' then chars.dropLast else chars
  match body.dropWhile Text.isDigit with
  | [] => !body.isEmpty
  | '.' :: fraction => !fraction.isEmpty && fraction.all Text.isDigit
  | _ => false

/-- The role of a word with a dash in front that fits no switch, by the characters behind it. -/
def leftoverRole (tail : List Char) : Role :=
  if isNumberTail tail || tail.contains ' ' then .argument else .unknown

/-- The role of a word with two dashes in front that is no switch's form: a shortened one. -/
def abbreviatedRole (text : String) (tail : List Char) : Except UsageError Role :=
  let (start, attached) := splitEquals text.toList
  match Switch.abbreviatedBy start with
  | [] => .ok (leftoverRole tail)
  | [s] => .ok (.switch s false attached)
  | candidates => .error (.ambiguous text candidates)

/-- The role of a word with a dash in front, by the characters behind it. -/
def dashedRole (text : String) (tail : List Char) : Except UsageError Role :=
  match Switch.ofForm? text, splitEquals text.toList with
  | some s, _ => .ok (.switch s (s.short == text) none)
  | none, (form, attached) =>
    match attached.bind fun _ => Switch.ofForm? form with
    | some s => .ok (.switch s (s.short == form) attached)
    | none =>
      match tail with
      | [] => .ok .argument
      | '-' :: _ => abbreviatedRole text tail
      | c :: rest =>
        match Switch.ofLetter? c with
        | some s => .ok (.switch s true (some (String.ofList rest)))
        | none => .ok (leftoverRole tail)

/-- The role of a word before the separator. -/
def roleOf (text : String) : Except UsageError Role :=
  match text.toList with
  | '-' :: tail => dashedRole text tail
  | _ => .ok .argument

/-- The word behind which all words are arguments. -/
def separatorText : String := "--"

/-- The words of a command line with their roles. -/
def ofTexts : List String → Except UsageError (List Word)
  | [] => .ok []
  | text :: rest =>
    if text = separatorText then .ok (⟨text, .separator⟩ :: rest.map fun t => ⟨t, .argument⟩)
    else do
      let role ← roleOf text
      return ⟨text, role⟩ :: (← ofTexts rest)

end Word

end InfixCalc.Command
