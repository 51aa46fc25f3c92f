import InfixCalc.Command.Request
import InfixCalc.Token.Lexeme

/-!
# `InfixCalc.Command.Run`: a run of the program as a list of events

A run reads lines and prints. Here it is a function: from the words of the command line and what the
run finds around it (`Surroundings`) to what it does (`Outcome`), the events being in the order in
which they happen. What appears on each of the two output streams is read off the events.

Every line is treated for itself, whatever the others are: `Request.onLine` gives the events of one
line. A blank line has none. Only a number of places that decimal arithmetic refuses, or a number of
places or a rate that is missing where it is needed, ends a run before its last line.
-/

set_option autoImplicit false

namespace InfixCalc.Command

/-- What a run does, one line at a time. -/
inductive Event where
  | output (line : String)
  /-- A line for the user's attention. -/
  | message (line : String)
  | log (entry : LogEntry)
  /-- The place where the log shows how the latest failure came about. -/
  | traceback

namespace Event

/-- What an event writes on standard output. -/
def onOutput : Event → String
  | output line => line ++ "\n"
  | _ => ""

/-- What an event writes on standard error. -/
def onError : Event → String
  | output _ => ""
  | message line => line ++ "\n"
  | log entry => entry.text ++ "\n"
  | traceback => "<traceback>\n"

/-- What events write on standard output. -/
def outputText (events : List Event) : String :=
  String.join (events.map onOutput)

/-- What events write on standard error. -/
def errorText (events : List Event) : String :=
  String.join (events.map onError)

end Event

/-- Why a run breaks off. -/
inductive RunError where
  /-- There is no number of places to round to. -/
  | noPrecision
  /-- There is no rate to convert by. -/
  | noRate
  /-- The number of places is refused. -/
  | rounding (e : RoundError)
  /-- A reading cannot be displayed. -/
  | display (e : Misuse)

/-- The sentence for the caller. -/
def RunError.message : RunError → String
  | noPrecision => "unsupported operand type(s) for +: 'int' and 'list'"
  | noRate => "can't multiply sequence by non-int of type 'float'"
  | rounding e => e.message
  | display e => e.message

/-- The events of a part of a run, and why it broke off, if it did. -/
structure Segment where
  events : List Event
  broken : Option RunError

namespace Segment

/-- Nothing happens. -/
def empty : Segment := ⟨[], none⟩

/-- One segment after the other; the second one happens only if the first did not break off. -/
def andThen (first second : Segment) : Segment :=
  match first.broken with
  | some _ => first
  | none => ⟨first.events ++ second.events, second.broken⟩

end Segment

/-- The log as events, if it is written. -/
def logEvents (verbose : Bool) (log : List LogEntry) : List Event :=
  if verbose then log.map .log else []

/-- The events that tell of an error in a line. -/
def errorEvents (verbose : Bool) (line : String) : Option CalcError → List Event
  | none => []
  | some e =>
    (if verbose then [.log (.failed line), .traceback] else []) ++ [.message e.message]

/-- The line that shows a reading: what is on display, and the converted amount behind a tab. -/
def readingLine (display : String) : Option Amount → String
  | none => display
  | some amount => display ++ "\t" ++ amount.text

/-- The calculator of a request, which leaves void settings out. -/
def Request.calculator (r : Request) : Calculator :=
  ⟨r.precision.toOption, r.rate.toOption⟩

/-- The reading of an evaluation. A void setting comes up when it is needed: the number of places
for a finite value, and the rate for any value. An error is converted to zero whatever the rate. -/
def Request.reading (r : Request) :
    Except CalcError Float → Except RunError (Reading CalcError)
  | .error e => .ok ⟨none, some e, if r.rate.isOff then none else some (.whole 0)⟩
  | .ok v =>
    if r.precision.isVoid && Double.isFinite v then .error .noPrecision
    else
      match r.calculator.reading (.ok v) with
      | .error e => .error (.rounding e)
      | .ok reading => if r.rate.isVoid then .error .noRate else .ok reading

/-- The events of a line whose result is printed. -/
def calculateLine (r : Request) (line : String) : Segment :=
  let t := trace line
  let log := logEvents r.verbose t.log
  match r.reading t.outcome with
  | .error e => ⟨log, some e⟩
  | .ok reading =>
    let told := log ++ errorEvents r.verbose line reading.error
    match reading.display with
    | .error e => ⟨told, some (.display e)⟩
    | .ok display => ⟨told ++ [.output (readingLine display reading.converted)], none⟩

/-- The events of a line whose tokens are printed: each with its kind and text, then all of them in
postfix order. -/
def dumpLine (line : String) : List Event :=
  match tokenize line with
  | .error e => [.message e.message]
  | .ok tokens =>
    let shown := tokens.map fun t => Event.output (t.kind ++ "\t" ++ Text.quoted t.text)
    match toPostfix tokens with
    | .error e => shown ++ [.message e.message]
    | .ok ordered => shown ++ [.output (Token.spaced ordered)]

namespace Action

/-- The events before the first line. -/
def opening : Action → List Event
  | calculate => []
  | dump => [.output "<kind>\t<repr(text)>"]
  | printGrammar => [.output grammar]

/-- The lines are read. -/
def readsLines : Action → Bool
  | printGrammar => false
  | _ => true

end Action

namespace Request

/-- The events of one line. -/
def onLine (r : Request) (line : String) : Segment :=
  if Text.allBlank line then .empty
  else
    match r.action with
    | .calculate => calculateLine r line
    | .dump => ⟨dumpLine line, none⟩
    | .printGrammar => .empty

/-- The events of all lines. -/
def onLines (r : Request) (lines : List String) : Segment :=
  lines.foldr (fun line rest => (r.onLine line).andThen rest) .empty

/-- The events of a run over the given lines. -/
def onAll (r : Request) (lines : List String) : Segment :=
  Segment.andThen ⟨r.action.opening, none⟩ (if r.action.readsLines then r.onLines lines else .empty)

end Request

/-- An interactive session. -/
structure Session where
  /-- What is shown in front of a line. -/
  message : String
deriving DecidableEq, Repr

/-- What is shown in front of the lines that continue one: spaces of the message's length. -/
def Session.continuation (s : Session) : String :=
  String.ofList (List.replicate s.message.length ' ')

/-- What a run finds around it. -/
structure Surroundings where
  input : String := ""
  inputIsTerminal : Bool := false
  outputIsTerminal : Bool := false
  /-- The lines that a session is answered with. -/
  answers : List String := []
  /-- After these lines the session is interrupted, and does not just end. -/
  interrupted : Bool := false

/-- Where the lines of a run come from. -/
inductive Source where
  | given (lines : List String)
  | input
  | session (s : Session)

/-- The lines come from the command line if they are given there, from a session if there is a
prompt or the run is at a terminal, and else from standard input. -/
def Request.source (r : Request) (inputIsTerminal outputIsTerminal : Bool) : Source :=
  match r.expressions, r.prompt.filter (!·.isEmpty) with
  | some lines, _ => .given lines
  | none, some prompt => .session ⟨prompt⟩
  | none, none =>
    if inputIsTerminal && outputIsTerminal then .session ⟨defaultPrompt⟩ else .input

/-- The characters with a line feed for each line end, which may also be a carriage return or both
of them. -/
def unifyLineEnds : List Char → List Char
  | '\r' :: '\n' :: rest => '\n' :: unifyLineEnds rest
  | '\r' :: rest => '\n' :: unifyLineEnds rest
  | c :: rest => c :: unifyLineEnds rest
  | [] => []

/-- The lines that the characters make, each with its line feed if it has one. -/
def splitLines : List Char → List (List Char)
  | [] => []
  | c :: rest =>
    if c = '\n' then [c] :: splitLines rest
    else
      match splitLines rest with
      | [] => [[c]]
      | line :: lines => (c :: line) :: lines

/-- The lines of a text on standard input. -/
def inputLines (text : String) : List String :=
  (splitLines (unifyLineEnds text.toList)).map String.ofList

/-- How a run ends. -/
inductive Exit where
  | status (code : Nat)
  | broken (e : RunError)

/-- What a run does, and how it ends. -/
structure Outcome where
  events : List Event
  exit : Exit
  /-- The session that was started, if one was. -/
  session : Option Session

namespace Request

/-- The outcome of a run over the given lines, which exits with `code` unless it breaks off. -/
def outcome (r : Request) (lines : List String) (code : Nat) (session : Option Session) :
    Outcome :=
  let segment := r.onAll lines
  ⟨segment.events, (segment.broken.map Exit.broken).getD (.status code), session⟩

/-- The run of a request. -/
def run (r : Request) (around : Surroundings) : Outcome :=
  match r.source around.inputIsTerminal around.outputIsTerminal with
  | .given lines => r.outcome lines 0 none
  | .input => r.outcome (inputLines around.input) 0 none
  | .session s =>
    if r.action.readsLines then
      r.outcome around.answers (if around.interrupted then 1 else 0) (some s)
    else r.outcome [] 0 none

end Request

/-- The run of the program with the words of a command line. -/
def run (texts : List String) (around : Surroundings) : Outcome :=
  match Request.ofTexts texts with
  | .error .help => ⟨[.output helpText], .status 0, none⟩
  | .error (.usage e) => ⟨[.message e.report], .status 2, none⟩
  | .ok r => r.run around

end InfixCalc.Command
