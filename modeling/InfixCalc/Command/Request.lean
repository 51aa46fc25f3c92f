import InfixCalc.Calculator
import InfixCalc.Command.Word

/-!
# `InfixCalc.Command.Request`: what a command line asks for

The words of a command line are taken from left to right. A switch takes the arguments of its arity
and has its effect at once; the last use of a switch counts. Several letters may follow one dash as
long as the switches before the last one take no argument. Words that belong to no switch are left
over and refused in the end. Asking for help ends the reading of the command line.

A separator that is attached to a switch counts as no argument. A switch that takes a number is void
then, and that is refused only where the number is needed (`Setting`).
-/

set_option autoImplicit false

namespace InfixCalc.Command

/-- What is done with each line of input. -/
inductive Action where
  /-- Its result is printed. -/
  | calculate
  /-- Its tokens are printed, as typed and in postfix order. -/
  | dump
  /-- The lines are left alone; the grammar of lexemes is printed. -/
  | printGrammar
deriving DecidableEq, Repr

/-- What is set by a switch that takes a number. -/
inductive Setting (α : Type) where
  | off
  | on (a : α)
  /-- The switch was given a separator in place of a number, so there is none to work with. -/
  | void
deriving DecidableEq, Repr

namespace Setting

variable {α : Type}

/-- The number that is set. -/
def toOption : Setting α → Option α
  | on a => some a
  | _ => none

/-- The setting of a number, if there is one. -/
def ofOption : Option α → Setting α
  | some a => on a
  | none => off

/-- The switch was given nothing to work with. -/
def isVoid : Setting α → Bool
  | void => true
  | _ => false

/-- The switch was not given. -/
def isOff : Setting α → Bool
  | off => true
  | _ => false

end Setting

/-- What a command line asks for. -/
structure Request where
  verbose : Bool := false
  /-- The number of places that results are rounded to. -/
  precision : Setting Int := .ofOption ({} : Calculator).precision
  /-- The rate that results are converted by. -/
  rate : Setting Float := .ofOption ({} : Calculator).rate
  expressions : Option (List String) := none
  prompt : Option String := none
  action : Action := .calculate

/-- Why the reading of a command line ends early. -/
inductive Stop where
  | help
  /-- Something is wrong. -/
  | usage (e : UsageError)
deriving DecidableEq, Repr

/-- The prompt of a session that is given none. -/
def defaultPrompt : String := "> "

namespace Request

/-- The state of the reading of a command line. -/
structure Progress where
  request : Request := {}
  used : List Switch := []
  /-- The words left over, the latest first. -/
  leftOver : List String := []

/-- What is wrong with a switch ends the reading. -/
def refuse {α : Type} (s : Switch) (e : SwitchError) : Except Stop α :=
  .error (.usage (.switch s e))

/-- The switches that a letter and the letters behind it stand for: those without an argument, the
last one, and the text attached to it. -/
def cluster (s : Switch) : List Char → Except Stop (List Switch × Switch × Option String)
  | [] => .ok ([], s, none)
  | c :: rest =>
    if s.arity = .none then
      match Switch.ofLetter? c with
      | none => refuse s (.ignoredArgument (String.ofList (c :: rest)))
      | some next => do
        let (others, last, attached) ← cluster next rest
        return (s :: others, last, attached)
    else .ok ([], s, some (String.ofList (c :: rest)))

/-- The switches that a word stands for: those without an argument, the last one, and the text
attached to it. -/
def expand (s : Switch) (isShort : Bool) :
    Option String → Except Stop (List Switch × Switch × Option String)
  | none => .ok ([], s, none)
  | some text =>
    if s.arity = .none then
      if isShort && !text.isEmpty then cluster s text.toList
      else refuse s (.ignoredArgument text)
    else .ok ([], s, some text)

/-- The word is an argument. -/
def isArgument (word : Word) : Bool :=
  word.role == .argument

/-- How many of the words behind a switch are its arguments. -/
def argumentCount (s : Switch) (rest : List Word) : Except Stop Nat :=
  match s.arity, rest.head?.any isArgument with
  | .none, _ => .ok 0
  | .one, true => .ok 1
  | .one, false => refuse s .missingArgument
  | .optional, true => .ok 1
  | .optional, false => .ok 0
  | .remaining, _ => .ok (rest.takeWhile (·.role != .separator)).length

/-- The arguments that a text attached to a switch makes: itself. A separator makes none, unless the
switch takes all words that are left. -/
def attachedArguments (s : Switch) (text : String) : List String :=
  if text = Word.separatorText && s.arity != .remaining then [] else [text]

/-- The arguments of a switch, and how many of the words behind it they are: none if a text is
attached to the switch. -/
def argumentsOf (s : Switch) (attached : Option String) (rest : List Word) :
    Except Stop (List String × Nat) :=
  match attached with
  | some text => .ok (attachedArguments s text, 0)
  | none => (argumentCount s rest).map fun count => ((rest.take count).map Word.text, count)

/-- The request after one use of a switch with its arguments. -/
def effect (r : Request) (s : Switch) (arguments : List String) : Except Stop Request :=
  match s, arguments with
  | .help, _ => .error .help
  | .verbose, _ => .ok { r with verbose := true }
  | .precision, [text] =>
    match Numeral.readInteger? text with
    | some places => .ok { r with precision := .on places }
    | none => refuse s (.invalidInteger text)
  | .rate, [text] =>
    match Numeral.readDouble? text with
    | some rate => .ok { r with rate := .on rate }
    | none => refuse s (.invalidNumber text)
  | .precision, _ => .ok { r with precision := .void }
  | .rate, _ => .ok { r with rate := .void }
  | .expression, lines => .ok { r with expressions := some lines }
  | .prompt, texts => .ok { r with prompt := some (texts.headD defaultPrompt) }
  | .rawGrammar, _ => .ok { r with action := .printGrammar }
  | .dump, _ => .ok { r with action := .dump }

/-- One use of a switch with its arguments. Its rival must not have been used before. -/
def use (p : Progress) (s : Switch) (arguments : List String) : Except Stop Progress := do
  match s.rival? with
  | some rival => if rival ∈ p.used then refuse s (.excludedBy rival)
  | none => pure ()
  return { p with request := ← effect p.request s arguments, used := s :: p.used }

/-- The effect of all the switches in a word, and the number of words behind it that are arguments
of the last one. -/
def useWord (p : Progress) (s : Switch) (isShort : Bool) (attached : Option String)
    (rest : List Word) : Except Stop (Progress × Nat) := do
  let (others, last, attached) ← expand s isShort attached
  let (arguments, count) ← argumentsOf last attached rest
  let others ← others.foldlM (fun p other => use p other []) p
  return (← use others last arguments, count)

/-- Takes the words from left to right. -/
def readWords (p : Progress) : List Word → Except Stop Request
  | [] =>
    if p.leftOver.isEmpty then .ok p.request
    else .error (.usage (.unrecognized p.leftOver.reverse))
  | word :: rest =>
    match word.role with
    | .switch s isShort attached =>
      match useWord p s isShort attached rest with
      | .error stop => .error stop
      | .ok (next, count) => readWords next (rest.drop count)
    | _ => readWords { p with leftOver := word.text :: p.leftOver } rest
termination_by words => words.length
decreasing_by
  · simp only [List.length_drop, List.length_cons]
    omega
  · exact Nat.lt_succ_self _

/-- The request of a command line. Every word is given its role first, so an ambiguous word is
refused before any switch has an effect. -/
def ofTexts (texts : List String) : Except Stop Request :=
  match Word.ofTexts texts with
  | .error e => .error (.usage e)
  | .ok words => readWords {} words

end Request

/-- How the program is called. -/
def usage : String :=
  "usage: safecalc [-h] [-v] [-k PRECISION] [-r RATE] [-e ... | -p [PROMPT]]\n"
    ++ "                [-G | -D]"

/-- The help text. -/
def helpText : String :=
  usage ++ "\n\nSafe infix calculator\n\noptions:\n"
    ++ "  -h, --help            show this help message and exit\n"
    ++ "  -v, --verbose\n"
    ++ "  -k PRECISION, --precision PRECISION\n"
    ++ "  -r RATE, --rate RATE\n"
    ++ "  -e ..., --expression ...\n"
    ++ "  -p [PROMPT], --prompt [PROMPT]\n"
    ++ "  -G, --raw-grammar\n"
    ++ "  -D, --dump"

/-- What is said about a wrong command line. -/
def UsageError.report (e : UsageError) : String :=
  usage ++ "\nsafecalc: error: " ++ e.message

end InfixCalc.Command
