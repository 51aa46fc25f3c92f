import InfixCalc.Machine
import InfixCalc.Postfix
import InfixCalc.Token.Scan

/-!
# `InfixCalc.Evaluation`: the value of a typed expression

A line is cut into tokens, these are brought into postfix order, and the machine runs them. The
first stage that fails decides. Each stage that succeeds leaves an entry in the log, so the log
tells how far an evaluation came.

A preview is for expressions that are still being typed: there is a value or there is none, and a
blank line is not even tried.
-/

set_option autoImplicit false

namespace InfixCalc

/-- A step worth noting. -/
inductive LogEntry where
  | tokens (tokens : List Token)
  | ordered (tokens : List Token)
  | result (v : Float)
  /-- An expression without a preview, and why. -/
  | noPreview (line : String) (e : CalcError)
  /-- A line of a run that failed. -/
  | failed (line : String)

namespace LogEntry

/-- The part of the program that notes the step. -/
def source : LogEntry → String
  | failed _ => "safecalc.cli"
  | _ => "safecalc.calculator"

/-- What is noted. -/
def message : LogEntry → String
  | tokens list => "tokens: " ++ Token.spaced list
  | ordered list => "rpn: " ++ Token.spaced list
  | result v => "result: " ++ Double.text v
  | noPreview line e => "no preview for " ++ Text.quoted line ++ ": " ++ e.message
  | failed line => Text.quoted line ++ " failed"

/-- The entry as a line of the log, all entries being of the same level. -/
def text (entry : LogEntry) : String :=
  "DEBUG " ++ entry.source ++ ": " ++ entry.message

end LogEntry

/-- What became of an attempt, and the log that it left. -/
structure Traced (α : Type) where
  log : List LogEntry
  outcome : α

/-- Evaluates a line and notes each stage that succeeds. -/
def trace (line : String) : Traced (Except CalcError Float) :=
  match tokenize line with
  | .error e => ⟨[], .error e⟩
  | .ok tokens =>
    match toPostfix tokens with
    | .error e => ⟨[.tokens tokens], .error e⟩
    | .ok ordered =>
      match evaluatePostfix ordered with
      | .error e => ⟨[.tokens tokens, .ordered ordered], .error e⟩
      | .ok v => ⟨[.tokens tokens, .ordered ordered, .result v], .ok v⟩

/-- The value of a line. -/
def evaluate (line : String) : Except CalcError Float :=
  (trace line).outcome

/-- The value of a line that may be unfinished, and the log; a blank line leaves no log. -/
def previewTrace (line : String) : Traced (Option Float) :=
  if Text.allBlank line then ⟨[], none⟩
  else
    let ⟨log, outcome⟩ := trace line
    match outcome with
    | .ok v => ⟨log, some v⟩
    | .error e => ⟨log ++ [.noPreview line e], none⟩

/-- The value of a line that may be unfinished, if it has one. -/
def preview (line : String) : Option Float :=
  (previewTrace line).outcome

end InfixCalc
