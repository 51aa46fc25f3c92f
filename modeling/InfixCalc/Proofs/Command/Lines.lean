import InfixCalc.Command.Run
import InfixCalc.Proofs.Calculator
import InfixCalc.Proofs.Evaluation.Messages

/-!
# `InfixCalc.Proofs.Command.Lines`: a run answers line by line

A run that prints results answers each of its lines for itself. This module says what the answer to
a line is (`answer`): for a line with a fault its message, and then in any case one line of output.
A line that is blank is not answered (`isAnswered`).

`Request.onLines_eq` adds up the answers, by induction on the lines: none of them breaks the run
off, so none is lost, made twice or put elsewhere because of what is wrong with another line.
`Request.outcome_answers` draws the conclusions for the two output streams. A printed text never
breaks a line, whatever the line is and whatever number it comes to, so what belongs to a line can
be told from the rest.
-/

set_option autoImplicit false

namespace InfixCalc.Command

open Text

/-! ### The answer to a line -/

/-- The output for a line: the value on display, and behind a tab what it is converted to if there
is a rate. In the place of a value that is missing there is a word, which is converted to zero. -/
def shownLine (places : Int) (rate : Option Float) (line : String) : String :=
  match evaluate line, rate with
  | .ok v, none => Double.displayText (Rounding.toPlaces places v)
  | .ok v, some rate =>
    Double.displayText (Rounding.toPlaces places v) ++ "\t"
      ++ (convert (Rounding.toPlaces places v) rate).text
  | .error _, none => "Error"
  | .error _, some _ => "Error\t0"

/-- The messages about a line: one if it has no value. -/
def faultMessages (line : String) : List String :=
  match evaluate line with
  | .ok _ => []
  | .error e => [e.message]

/-- What happens for a line. -/
def answer (places : Int) (rate : Option Float) (line : String) : List Event :=
  (faultMessages line).map .message ++ [.output (shownLine places rate line)]

/-- The line is answered, since it is not blank. -/
def isAnswered (line : String) : Bool :=
  !allBlank line

/-- The message of a line, if it has a fault, is one line. -/
theorem isOneLine_of_mem_faultMessages {line text : String} (mem : text ∈ faultMessages line) :
    IsOneLine text := by
  unfold faultMessages at mem
  split at mem
  · cases mem
  · next e failed =>
      rw [List.mem_singleton.mp mem]
      exact isOneLine_message_of_evaluate failed

/-- What is shown of a line is one line, a value as well as an error. -/
theorem isOneLine_shownLine (places : Int) (rate : Option Float) (line : String) :
    IsOneLine (shownLine places rate line) := by
  unfold shownLine
  split
  · exact isOneLine_displayText _
  · rw [isOneLine_append, isOneLine_append]
    exact ⟨⟨isOneLine_displayText _, by decide⟩, isOneLine_amount _⟩
  · decide
  · decide

/-- What happens for a line is the printing of texts that are one line each. -/
theorem isOneLine_of_mem_answer {places : Int} {rate : Option Float} {line : String} {event : Event}
    (mem : event ∈ answer places rate line) :
    ∃ text, IsOneLine text ∧ (event = .message text ∨ event = .output text) := by
  rcases List.mem_append.mp mem with mem | mem
  · obtain ⟨text, inside, rfl⟩ := List.mem_map.mp mem
    exact ⟨text, isOneLine_of_mem_faultMessages inside, .inl rfl⟩
  · exact ⟨_, isOneLine_shownLine places rate line, .inr (List.mem_singleton.mp mem)⟩

/-! ### Answers one after the other -/

namespace Event

/-- Standard output is written in the order of the events. -/
@[simp] theorem outputText_append (events more : List Event) :
    outputText (events ++ more) = outputText events ++ outputText more := by
  simp [outputText]

/-- So is standard error. -/
@[simp] theorem errorText_append (events more : List Event) :
    errorText (events ++ more) = errorText events ++ errorText more := by
  simp [errorText]

/-- What parts of a run write is put together from what each of them writes. -/
theorem outputText_flatMap {α : Type} {f : α → List Event} {texts : α → List String}
    (each : ∀ a, outputText (f a) = String.join (texts a)) (parts : List α) :
    outputText (parts.flatMap f) = String.join (parts.flatMap texts) := by
  induction parts with
  | nil => rfl
  | cons part parts ih =>
      rw [List.flatMap_cons, outputText_append, each, ih, List.flatMap_cons, String.join_append]

/-- If each part leaves its texts on standard error, parts in a row leave them one after the other.
-/
theorem errorText_flatMap {α : Type} {f : α → List Event} {texts : α → List String}
    (each : ∀ a, errorText (f a) = String.join (texts a)) (parts : List α) :
    errorText (parts.flatMap f) = String.join (parts.flatMap texts) := by
  induction parts with
  | nil => rfl
  | cons part parts ih =>
      rw [List.flatMap_cons, errorText_append, each, ih, List.flatMap_cons, String.join_append]

/-- The answer to a line is one line on standard output. -/
theorem outputText_answer (places : Int) (rate : Option Float) (line : String) :
    outputText (answer places rate line) = shownLine places rate line ++ "\n" := by
  unfold answer faultMessages
  split <;> simp [outputText, onOutput]

/-- On standard error it is the message of the line's fault, if there is one. -/
theorem errorText_answer (places : Int) (rate : Option Float) (line : String) :
    errorText (answer places rate line) = String.join ((faultMessages line).map (· ++ "\n")) := by
  unfold answer faultMessages
  split <;> simp [errorText, onError]

end Event

/-- On standard output there is one line for each that is answered. -/
theorem outputText_answers (places : Int) (rate : Option Float) (lines : List String) :
    Event.outputText (lines.flatMap (answer places rate))
      = String.join (lines.map fun line => shownLine places rate line ++ "\n") := by
  induction lines with
  | nil => rfl
  | cons line lines ih =>
      rw [List.flatMap_cons, Event.outputText_append, Event.outputText_answer, ih, List.map_cons,
        String.join_cons]

/-- The answers to lines leave the messages of those that have a fault. -/
theorem errorText_answers (places : Int) (rate : Option Float) (lines : List String) :
    Event.errorText (lines.flatMap (answer places rate))
      = String.join (lines.flatMap fun line => (faultMessages line).map (· ++ "\n")) :=
  Event.errorText_flatMap (Event.errorText_answer places rate) lines

/-! ### Runs -/

/-- The request is to print results, rounded to the places and converted by the rate if there is
one, and to log nothing. -/
structure Request.Calculates (r : Request) (places : Int) (rate : Option Float) : Prop where
  isCalculate : r.action = .calculate
  quiet : r.verbose = false
  rounds : r.precision = .on places
  converts : r.rate = .ofOption rate

namespace Request

variable {r : Request} {places : Int} {rate : Option Float}

/-- The calculator behind a run has the places and the rate of the run. -/
theorem calculator_eq (calculates : r.Calculates places rate) :
    r.calculator = ⟨some places, rate⟩ := by
  rw [calculator, calculates.rounds, calculates.converts]
  cases rate <;> rfl

/-- No setting of such a request is void, so it reads as its calculator does. -/
theorem reading_eq (calculates : r.Calculates places rate) (outcome : Except CalcError Float) :
    r.reading outcome
      = ((⟨some places, rate⟩ : Calculator).reading outcome).mapError .rounding := by
  cases outcome with
  | error e =>
      rw [reading, calculates.converts]
      cases rate <;> rfl
  | ok v =>
      rw [reading, calculates.rounds, calculator_eq calculates, calculates.converts]
      cases (⟨some places, rate⟩ : Calculator).reading (.ok v) with
      | error e => rfl
      | ok reading => cases rate <;> rfl

/-- No line breaks the run off, whether it has a value or a fault. -/
theorem calculateLine_eq (calculates : r.Calculates places rate) (low : -999999 ≤ places)
    (high : places < 10 ^ 17) (line : String) :
    calculateLine r line = ⟨answer places rate line, none⟩ := by
  have read : r.reading (trace line).outcome
      = ((⟨some places, rate⟩ : Calculator).calculate line).mapError .rounding :=
    reading_eq calculates _
  unfold calculateLine answer faultMessages shownLine
  dsimp only
  rw [read, calculates.quiet]
  -- Within the limits no number of places is refused, so there is a reading in both cases.
  cases value : evaluate line with
  | error e =>
      rw [Calculator.calculate_of_fault value]
      cases rate <;> rfl
  | ok v =>
      rw [Calculator.calculate_of_value value (roundResult_eq_ok v low high)]
      cases rate <;> rfl

/-- A line that is not blank is answered, and a blank one leaves nothing. Neither breaks the run
off. -/
theorem onLine_eq (calculates : r.Calculates places rate) (low : -999999 ≤ places)
    (high : places < 10 ^ 17) (line : String) :
    r.onLine line = ⟨if isAnswered line then answer places rate line else [], none⟩ := by
  rw [onLine, calculates.isCalculate, isAnswered]
  cases allBlank line with
  | true => rfl
  | false => exact calculateLine_eq calculates low high line

/-- A run over lines is the answers to those that are not blank, one after the other. -/
theorem onLines_eq (calculates : r.Calculates places rate) (low : -999999 ≤ places)
    (high : places < 10 ^ 17) (lines : List String) :
    r.onLines lines = ⟨(lines.filter isAnswered).flatMap (answer places rate), none⟩ := by
  induction lines with
  | nil => rfl
  | cons line lines ih =>
      show (r.onLine line).andThen (r.onLines lines) = _
      rw [ih, onLine_eq calculates low high, List.filter_cons]
      -- Neither an answer nor a blank line breaks the run off, so the rest is reached.
      cases isAnswered line <;> rfl

/-- The answers are all that a run does, and it ends with its own status. -/
theorem outcome_eq (calculates : r.Calculates places rate) (low : -999999 ≤ places)
    (high : places < 10 ^ 17) (lines : List String) (code : Nat) (session : Option Session) :
    r.outcome lines code session
      = ⟨(lines.filter isAnswered).flatMap (answer places rate), .status code, session⟩ := by
  have all : r.onAll lines = ⟨(lines.filter isAnswered).flatMap (answer places rate), none⟩ := by
    rw [onAll, calculates.isCalculate]
    exact onLines_eq calculates low high lines
  rw [outcome, all]
  rfl

/-- What is printed for a line is what the calculator's reading of it shows, also where operations
that can fail are spelled out. -/
theorem exists_reading (low : -999999 ≤ places) (high : places < 10 ^ 17) (line : String) :
    ∃ reading display,
      (⟨some places, rate⟩ : Calculator).calculatePartially line = .ok reading ∧
      displayPartially reading = .ok display ∧
      shownLine places rate line = readingLine display reading.converted ∧
      faultMessages line = (reading.error.map CalcError.message).toList := by
  unfold shownLine faultMessages
  rw [Calculator.calculatePartially_eq]
  cases value : evaluate line with
  | error e =>
      rw [Calculator.calculate_of_fault value]
      cases rate with
      | none => exact ⟨_, _, rfl, displayPartially_eq _, rfl, rfl⟩
      | some rate => exact ⟨_, _, rfl, displayPartially_eq _, rfl, rfl⟩
  | ok v =>
      rw [Calculator.calculate_of_value value (roundResult_eq_ok v low high)]
      cases rate with
      | none => exact ⟨_, _, rfl, displayPartially_eq _, rfl, rfl⟩
      | some rate => exact ⟨_, _, rfl, displayPartially_eq _, rfl, rfl⟩

/-- A run that prints results, over any lines and with any rate, ends as runs end, and what it does
is the answers to the lines that are not blank, in order. So on standard output there is one line
for each of them, and on standard error one message for each that has a fault. Runs over lines and
over more lines put together do what the run over all of them does. No printed text breaks a line of
its own. What the answer to a line shows is the reading of this line alone. -/
theorem outcome_answers (calculates : r.Calculates places rate) (low : -999999 ≤ places)
    (high : places < 10 ^ 17) (lines : List String) (code : Nat) (session : Option Session) :
    r.outcome lines code session
      = ⟨(lines.filter isAnswered).flatMap (answer places rate), .status code, session⟩ ∧
    Event.outputText (r.outcome lines code session).events
      = String.join ((lines.filter isAnswered).map fun line =>
          shownLine places rate line ++ "\n") ∧
    Event.errorText (r.outcome lines code session).events
      = String.join ((lines.filter isAnswered).flatMap fun line =>
          (faultMessages line).map (· ++ "\n")) ∧
    (∀ more,
      Event.outputText (r.outcome (lines ++ more) code session).events
        = Event.outputText (r.outcome lines code session).events
          ++ Event.outputText (r.outcome more code session).events ∧
      Event.errorText (r.outcome (lines ++ more) code session).events
        = Event.errorText (r.outcome lines code session).events
          ++ Event.errorText (r.outcome more code session).events) ∧
    (∀ event ∈ (r.outcome lines code session).events,
      ∃ text, IsOneLine text ∧ (event = .message text ∨ event = .output text)) ∧
    ∀ line, ∃ reading display,
      (⟨some places, rate⟩ : Calculator).calculatePartially line = .ok reading ∧
      displayPartially reading = .ok display ∧
      shownLine places rate line = readingLine display reading.converted ∧
      faultMessages line = (reading.error.map CalcError.message).toList := by
  have run := outcome_eq calculates low high
  refine ⟨run lines code session, ?_, ?_, fun more => ?_, fun event mem => ?_,
    exists_reading low high⟩
  · rw [run]
    exact outputText_answers places rate _
  · rw [run]
    exact errorText_answers places rate _
  · rw [run, run, run, List.filter_append, List.flatMap_append]
    -- The lines are answered one by one, so more lines only add their answers.
    exact ⟨Event.outputText_append _ _, Event.errorText_append _ _⟩
  · rw [run] at mem
    obtain ⟨line, -, inside⟩ := List.mem_flatMap.mp mem
    exact isOneLine_of_mem_answer inside

/-- Between a line with a fault and one with a value a blank line is not answered. -/
theorem outcome_answers_unmatched :
    Request.Calculates { rate := .on 0.5 } 6 (some 0.5) ∧ -999999 ≤ (6 : Int) ∧
    (6 : Int) < 10 ^ 17 ∧
    Event.outputText (outcome { rate := .on 0.5 } ["(", " \t", "3"] 0 none).events
      = "Error\t0\n3\t2\n" ∧
    Event.errorText (outcome { rate := .on 0.5 } ["(", " \t", "3"] 0 none).events
      = "Unmatched (\n" := by
  have calculates : Request.Calculates { rate := .on 0.5 } 6 (some 0.5) := ⟨rfl, rfl, rfl, rfl⟩
  have low : -999999 ≤ (6 : Int) := by decide
  have high : (6 : Int) < 10 ^ 17 := by decide
  -- The line between the two is blank.
  have answered : ["(", " \t", "3"].filter isAnswered = ["(", "3"] := by decide
  have fault : evaluate "(" = .error .unmatchedLeft := by
    with_unfolding_all rfl
  have error : shownLine 6 (some 0.5) "(" = "Error\t0" := by
    unfold shownLine
    rw [fault]
  have messages : faultMessages "(" = ["Unmatched ("] := by
    rw [faultMessages, fault]
    rfl
  have value : shownLine 6 (some 0.5) "3" = "3\t2" := by
    have rounded : Rounding.toPlaces 6 3.0 = 3.0 := by decide +kernel
    have texts : Double.displayText 3.0 ++ "\t" ++ (convert 3.0 0.5).text = "3\t2" := by
      decide +kernel
    unfold shownLine
    rw [Calculator.evaluate_three]
    dsimp only
    rw [rounded]
    exact texts
  have noMessages : faultMessages "3" = [] := by
    rw [faultMessages, Calculator.evaluate_three]
  obtain ⟨-, output, errors, -⟩ :=
    outcome_answers calculates low high ["(", " \t", "3"] 0 none
  refine ⟨calculates, low, high, ?_, ?_⟩
  · rw [output, answered]
    simp [error, value]
  · rw [errors, answered]
    simp [messages, noMessages]

end Request

end InfixCalc.Command
