import InfixCalc.Command.Run

/-!
# `InfixCalc.Main`: the program

The program carries out the events of a run. With lines from the command line or from standard input
it carries out the run as a whole; in a session it answers each line when it is typed.
-/

set_option autoImplicit false

namespace InfixCalc.Command

/-- Writes what an event writes. -/
def Event.perform (e : Event) : IO Unit := do
  (← IO.getStdout).putStr e.onOutput
  (← IO.getStderr).putStr e.onError

/-- Carries out events, in order. -/
def perform (events : List Event) : IO Unit := do
  events.forM Event.perform
  (← IO.getStdout).flush

/-- Says why a run broke off, and gives the status it ends with. -/
def breakOff (e : RunError) : IO UInt32 := do
  (← IO.getStderr).putStr (e.message ++ "\n")
  return 1

/-- Answers the lines of a session until there are no more. -/
partial def converse (r : Request) (s : Session) : IO UInt32 := do
  let output ← IO.getStdout
  output.putStr s.message
  output.flush
  let line ← (← IO.getStdin).getLine
  if line.isEmpty then return 0
  let segment := r.onLine (String.ofList (line.toList.filter (· != '\n')))
  perform segment.events
  match segment.broken with
  | some e => breakOff e
  | none => converse r s

/-- Carries out a run over the given lines. -/
def performAll (r : Request) (lines : List String) : IO UInt32 := do
  let segment := r.onAll lines
  perform segment.events
  match segment.broken with
  | some e => breakOff e
  | none => return 0

/-- The text on standard input, up to its end. -/
partial def readInput (sofar : String) : IO String := do
  let line ← (← IO.getStdin).getLine
  if line.isEmpty then return sofar else readInput (sofar ++ line)

/-- Carries out a request. -/
def Request.perform (r : Request) : IO UInt32 := do
  let inputIsTerminal ← (← IO.getStdin).isTty
  let outputIsTerminal ← (← IO.getStdout).isTty
  match r.source inputIsTerminal outputIsTerminal, r.action.readsLines with
  | .given lines, _ => performAll r lines
  | _, false => performAll r []
  | .input, true => performAll r (inputLines (← readInput ""))
  | .session s, true => do
    Command.perform r.action.opening
    converse r s

end InfixCalc.Command

open InfixCalc.Command

/-- Runs the program with the words of the command line. -/
def main (texts : List String) : IO UInt32 :=
  match Request.ofTexts texts with
  | .error .help => do
    perform [.output helpText]
    return 0
  | .error (.usage e) => do
    perform [.message e.report]
    return 2
  | .ok r => r.perform
