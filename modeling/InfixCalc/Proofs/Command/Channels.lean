import InfixCalc.Proofs.Command.Log
import InfixCalc.Proofs.Evaluation.Space

/-!
# `InfixCalc.Proofs.Command.Channels`: where the lines come from

A run finds its lines on the command line, on standard input or in a session (`Receives`), and none
of this matters for what it does with them. `run_channels` says so for two requests with the same
calculation and different sources, and adds what a log changes: nothing, but for the log itself.

Lines from standard input end in a line feed, and the others do not. So the one thing to prove is
that a line feed is neutral at every place where a line is looked at. It leaves a line blank or not
blank, and it is white space, so it is not among the visible characters that tokens and messages are
made from (`trace_append_lineFeed`). Only the log quotes the line as it came; this is why the two
runs are compared without one.
-/

set_option autoImplicit false

namespace InfixCalc.Command

open Text

/-! ### Lines on standard input -/

/-- The line holds no line end, so it can be one line of standard input. -/
def HasNoLineEnd (line : String) : Prop :=
  '\n' ∉ line.toList ∧ '\r' ∉ line.toList

instance (line : String) : Decidable (HasNoLineEnd line) :=
  inferInstanceAs (Decidable (_ ∧ _))

/-- The text that standard input holds for the lines, each with a line feed behind it. -/
def inputText (lines : List String) : String :=
  String.join (lines.map (· ++ "\n"))

/-- Without carriage returns all line ends are line feeds already. -/
theorem unifyLineEnds_eq_self {chars : List Char} (noReturn : '\r' ∉ chars) :
    unifyLineEnds chars = chars := by
  induction chars with
  | nil => rfl
  | cons c rest ih =>
      have other : c ≠ '\r' := fun same => noReturn (same ▸ List.mem_cons_self)
      have inner := ih fun mem => noReturn (List.mem_cons_of_mem _ mem)
      unfold unifyLineEnds
      split <;> simp_all

/-- Lines without line ends are read from standard input as they are, with their line feeds. -/
theorem inputLines_inputText {lines : List String} (noEnd : ∀ line ∈ lines, HasNoLineEnd line) :
    inputLines (inputText lines) = lines.map (· ++ "\n") := by
  -- Nothing but line feeds was added, so there is no other line end to be replaced.
  have noReturn : '\r' ∉ (inputText lines).toList := by
    intro mem
    rw [inputText, String.toList_join, List.flatMap_map, List.mem_flatMap] at mem
    obtain ⟨line, member, inside⟩ := mem
    simp only [String.toList_append, List.mem_append] at inside
    rcases inside with inside | inside
    · exact (noEnd line member).2 inside
    · exact absurd inside (by decide)
  rw [inputLines, unifyLineEnds_eq_self noReturn]
  clear noReturn
  induction lines with
  | nil => rfl
  | cons line lines ih =>
      have rest := ih fun other mem => noEnd other (List.mem_cons_of_mem _ mem)
      have chars : (inputText (line :: lines)).toList
          = line.toList ++ '\n' :: (inputText lines).toList := by
        simp [inputText]
      rw [chars, splitLines_append (noEnd line List.mem_cons_self).1, List.map_cons, rest]
      simp

/-! ### A line feed behind a line -/

section LineFeed

variable {r : Request}

/-- A line feed at the end of a line is white space, and no token. -/
theorem tokenize_append_lineFeed (line : String) : tokenize (line ++ "\n") = tokenize line := by
  have lineFeed : visible "\n" = [] := by decide
  refine tokenize_eq_of_visible_eq ?_
  rw [visible_append, lineFeed, List.append_nil]

/-- So the evaluation of the line is the same, and its log too. -/
theorem trace_append_lineFeed (line : String) : trace (line ++ "\n") = trace line := by
  rw [trace, trace, tokenize_append_lineFeed]

/-- The same tokens are printed with the line feed and without it. -/
theorem dumpLine_append_lineFeed (line : String) : dumpLine (line ++ "\n") = dumpLine line := by
  rw [dumpLine, dumpLine, tokenize_append_lineFeed]

/-- A line feed makes no line blank that was not, and none that was stops being so. -/
theorem allBlank_append_lineFeed (line : String) : allBlank (line ++ "\n") = allBlank line := by
  have lineFeed : isBlank '\n' = true := by decide
  simp [allBlank, lineFeed]

/-- Without a log, nothing quotes the line. -/
theorem calculateLine_append_lineFeed (quiet : r.verbose = false) (line : String) :
    calculateLine r (line ++ "\n") = calculateLine r line := by
  have events (error : Option CalcError) :
      errorEvents r.verbose (line ++ "\n") error = errorEvents r.verbose line error := by
    rw [quiet]
    cases error <;> rfl
  simp only [calculateLine, trace_append_lineFeed, events]

/-- What a quiet run does with a line does not depend on a line feed at its end. A log would show
it. -/
theorem Request.onLine_append_lineFeed (quiet : r.verbose = false) (line : String) :
    r.onLine (line ++ "\n") = r.onLine line := by
  rw [onLine, onLine, allBlank_append_lineFeed, calculateLine_append_lineFeed quiet,
    dumpLine_append_lineFeed]

/-- The same holds of a quiet run over lines, of which each ends with a line feed. -/
theorem Request.onLines_map_lineFeed (quiet : r.verbose = false) (lines : List String) :
    r.onLines (lines.map (· ++ "\n")) = r.onLines lines := by
  induction lines with
  | nil => rfl
  | cons line lines ih =>
      show (r.onLine (line ++ "\n")).andThen (r.onLines (lines.map (· ++ "\n"))) = _
      rw [onLine_append_lineFeed quiet, ih]
      rfl

end LineFeed

/-! ### Sources of lines -/

/-- The run of the request finds the lines in its surroundings, and it exits with the status unless
it breaks off:

- `given`: on its command line;
- `input`: on standard input, each with a line feed behind it;
- `session`: in a session that ends by itself;
- `interrupted`: in a session that is interrupted behind the last of them. -/
inductive Receives (r : Request) (around : Surroundings) (lines : List String) : Nat → Prop where
  | given (source : r.source around.inputIsTerminal around.outputIsTerminal = .given lines) :
    Receives r around lines 0
  | input (source : r.source around.inputIsTerminal around.outputIsTerminal = .input)
    (holds : around.input = inputText lines) : Receives r around lines 0
  | session (s : Session)
    (source : r.source around.inputIsTerminal around.outputIsTerminal = .session s)
    (answered : around.answers = lines) (ends : around.interrupted = false) :
    Receives r around lines 0
  | interrupted (s : Session)
    (source : r.source around.inputIsTerminal around.outputIsTerminal = .session s)
    (answered : around.answers = lines) (ends : around.interrupted = true) :
    Receives r around lines 1

/-- A log does not change where the lines come from. -/
theorem Receives.quiet {r : Request} {around : Surroundings} {lines : List String} {code : Nat}
    (receives : Receives r around lines code) : Receives r.quiet around lines code := by
  cases receives with
  | given source => exact .given source
  | input source holds => exact .input source holds
  | session s source answered ends => exact .session s source answered ends
  | interrupted s source answered ends => exact .interrupted s source answered ends

namespace Request

variable {r r' : Request} {around around' : Surroundings} {lines : List String} {code code' : Nat}

/-- The requests are to print results, and the settings that decide on these are the same. -/
structure SameCalculation (r r' : Request) : Prop where
  calculates : r.action = .calculate
  action : r'.action = r.action
  verbose : r'.verbose = r.verbose
  precision : r'.precision = r.precision
  rate : r'.rate = r.rate

/-- The settings do not break the run off at the line. -/
def Reads (r : Request) (line : String) : Prop :=
  ∃ reading, r.reading (evaluate line) = .ok reading

/-- A number of places within the limits breaks no run off, and neither does any rate. -/
theorem reads_of_calculates {places : Int} {rate : Option Float}
    (calculates : r.Calculates places rate) (low : -999999 ≤ places) (high : places < 10 ^ 17)
    (line : String) : r.Reads line := by
  rw [Reads, reading_eq calculates]
  cases evaluate line with
  | error e => exact ⟨_, rfl⟩
  | ok v =>
      rw [Calculator.reading, roundResult_eq_ok v low high]
      exact ⟨_, rfl⟩

/-- A run without a log does with lines what it does with them wherever it finds them. -/
theorem exists_run_eq (calculates : r.action = .calculate) (quiet : r.verbose = false)
    (noEnd : ∀ line ∈ lines, HasNoLineEnd line) (receives : Receives r around lines code) :
    ∃ session, r.run around = r.outcome lines code session := by
  -- A session that is interrupted has the answers so far, and a status of its own.
  have inSession (s : Session)
      (source : r.source around.inputIsTerminal around.outputIsTerminal = .session s) :
      r.run around
        = r.outcome around.answers (if around.interrupted then 1 else 0) (some s) := by
    rw [run, source]
    show (if r.action.readsLines then _ else _) = _
    rw [calculates]
    rfl
  cases receives with
  | given source =>
      rw [run, source]
      exact ⟨none, rfl⟩
  | input source holds =>
      rw [run, source]
      refine ⟨none, ?_⟩
      show r.outcome (inputLines around.input) 0 none = _
      -- Lines of standard input come with their line feeds, which are white space to a quiet run.
      rw [holds, inputLines_inputText noEnd, outcome, outcome, onAll, onAll,
        onLines_map_lineFeed quiet]
  | session s source answered ends =>
      rw [inSession s source, answered, ends]
      exact ⟨some s, rfl⟩
  | interrupted s source answered ends =>
      rw [inSession s source, answered, ends]
      exact ⟨some s, rfl⟩

/-- A line that has a reading does not break the run off, since every reading can be displayed. -/
theorem broken_calculateLine {line : String} (reads : r.Reads line) :
    (calculateLine r line).broken = none := by
  obtain ⟨reading, read⟩ := reads
  have displayed : ∃ display, reading.display = .ok display := by
    rcases reading_cases read with ⟨e, -, error⟩ | ⟨v, none, value⟩
    · exact ⟨_, by rw [Reading.display, error]⟩
    · exact ⟨_, by rw [Reading.display, none, value]⟩
  obtain ⟨display, shown⟩ := displayed
  have read' : r.reading (trace line).outcome = .ok reading := read
  simp only [calculateLine, read', shown]

/-- A run that prints results breaks off at no line if each of them has a reading. -/
theorem broken_onLines (calculates : r.action = .calculate) (reads : ∀ line ∈ lines, r.Reads line) :
    (r.onLines lines).broken = none := by
  induction lines with
  | nil => rfl
  | cons line lines ih =>
      -- The first line is done with, so the run goes on with the others.
      have first : (r.onLine line).broken = none := by
        rw [onLine, calculates]
        split
        · rfl
        · exact broken_calculateLine (reads line List.mem_cons_self)
      have rest := ih fun other mem => reads other (List.mem_cons_of_mem _ mem)
      show ((r.onLine line).andThen (r.onLines lines)).broken = none
      rw [Segment.andThen, first]
      exact rest

/-- If no setting breaks it off, the run exits with the status that its source gives. -/
theorem exit_outcome (calculates : r.action = .calculate) (reads : ∀ line ∈ lines, r.Reads line)
    (code : Nat) (session : Option Session) :
    (r.outcome lines code session).exit = .status code := by
  have broken : (r.onAll lines).broken = none := by
    rw [onAll, calculates]
    exact broken_onLines calculates reads
  rw [outcome, broken]
  rfl

/-- What a request does with lines depends on its settings, and not on its source. -/
theorem outcome_congr (same : r.SameCalculation r') (lines : List String) (code : Nat)
    (session : Option Session) : r'.outcome lines code session = r.outcome lines code session := by
  obtain ⟨-, action, verbose, precision, rate⟩ := same
  rcases r with ⟨_, _, _, expressions, prompt, _⟩
  rcases r' with ⟨_, _, _, expressions', prompt', _⟩
  cases action
  cases verbose
  cases precision
  cases rate
  -- Only expressions and prompt may differ now, and neither is looked at.
  rfl

/-- Two runs over the same lines do the same without a log, if their settings break neither off. -/
theorem quiet_run_agrees (same : r.SameCalculation r')
    (noEnd : ∀ line ∈ lines, HasNoLineEnd line) (reads : ∀ line ∈ lines, r.Reads line)
    (receives : Receives r around lines code) (receives' : Receives r' around' lines code') :
    (r'.quiet.run around').events = (r.quiet.run around).events ∧
    (r.quiet.run around).exit = .status code ∧ (r'.quiet.run around').exit = .status code' := by
  -- Both runs do what their settings say over the lines, and these are the same settings.
  have quietSame : r.quiet.SameCalculation r'.quiet :=
    ⟨same.calculates, same.action, rfl, same.precision, same.rate⟩
  obtain ⟨session, run⟩ := exists_run_eq quietSame.calculates rfl noEnd receives.quiet
  obtain ⟨session', run'⟩ :=
    exists_run_eq (quietSame.action.trans quietSame.calculates) rfl noEnd receives'.quiet
  rw [outcome_congr quietSame] at run'
  rw [run, run']
  exact ⟨rfl, exit_outcome quietSame.calculates reads code session,
    exit_outcome quietSame.calculates reads code' session'⟩

/-- Where the lines come from, and whether there is a log, does not matter for the results. Two
requests with the same calculation write the same on standard output, and without a log also on
standard error, over the same lines, be they given, on standard input or answers in a session; and
each run exits with its own status, which tells of an interruption only. A run with a log writes
the same on standard output as the run without it and ends in the same way, and standard error
differs by the lines of the log. -/
theorem run_channels (r : Request) :
    (∀ (r' : Request) (around around' : Surroundings) (lines : List String) (code code' : Nat),
      r.SameCalculation r' →
      (∀ line ∈ lines, HasNoLineEnd line) →
      (∀ line ∈ lines, r.Reads line) →
      Receives r around lines code →
      Receives r' around' lines code' →
        Event.outputText (r'.run around').events = Event.outputText (r.run around).events ∧
        (r.verbose = false →
          Event.errorText (r'.run around').events = Event.errorText (r.run around).events) ∧
        (r.run around).exit = .status code ∧
        (r'.run around').exit = .status code') ∧
    ∀ around,
      let loud := Request.run { r with verbose := true } around
      let quiet := Request.run { r with verbose := false } around
      Event.outputText loud.events = Event.outputText quiet.events ∧
      withoutLog (Event.errorText loud.events) = Event.errorText quiet.events ∧
      loud.exit = quiet.exit := by
  constructor
  · intro r' around around' lines code code' same noEnd reads receives receives'
    obtain ⟨events, exit, exit'⟩ := quiet_run_agrees same noEnd reads receives receives'
    obtain ⟨output, -, ends⟩ := run_quiet r around
    obtain ⟨output', -, ends'⟩ := run_quiet r' around'
    refine ⟨?_, fun quiet => ?_, ends.symm.trans exit, ends'.symm.trans exit'⟩
    · -- The log is no part of standard output, so it may be left out on both sides.
      rw [← output, ← output', events]
    · -- On standard error it may not, but there is none.
      have itself : r.quiet = r := by rw [Request.quiet, ← quiet]
      have itself' : r'.quiet = r' := by rw [Request.quiet, ← quiet, ← same.verbose]
      rw [itself, itself'] at events
      rw [events]
  · intro around
    obtain ⟨output, errors, ends⟩ := run_quiet { r with verbose := true } around
    exact ⟨output.symm, errors.symm, ends.symm⟩

/-- The lines `(` and `3`, given on the command line, on standard input, and as answers in a session
that is then interrupted. -/
theorem run_channels_interrupted :
    let given : Request := { expressions := some ["(", "3"] }
    let typed : Request := { prompt := some "% " }
    let input : Surroundings := { input := "(\n3\n" }
    let session : Surroundings := { answers := ["(", "3"], interrupted := true }
    Event.errorText (Request.run {} input).events = Event.errorText (given.run {}).events ∧
    Event.errorText (typed.run session).events = Event.errorText (given.run {}).events ∧
    (given.run {}).exit = .status 0 ∧ (typed.run session).exit = .status 1 := by
  intro given typed input session
  have noEnd : ∀ line ∈ ["(", "3"], HasNoLineEnd line := by decide
  have calculates : given.Calculates 6 none := ⟨rfl, rfl, rfl, rfl⟩
  have reads : ∀ line ∈ ["(", "3"], given.Reads line := fun line _ =>
    reads_of_calculates calculates (by decide) (by decide) line
  have onLine : Receives given {} ["(", "3"] 0 := .given rfl
  have onInput : Receives {} input ["(", "3"] 0 := .input rfl (by decide)
  have inSession : Receives typed session ["(", "3"] 1 := .interrupted ⟨"% "⟩ rfl rfl rfl
  obtain ⟨-, errors, -, -⟩ := (run_channels given).1 {} {} input ["(", "3"] 0 0
    ⟨rfl, rfl, rfl, rfl, rfl⟩ noEnd reads onLine onInput
  obtain ⟨-, errors', exit, exit'⟩ := (run_channels given).1 typed {} session ["(", "3"] 0 1
    ⟨rfl, rfl, rfl, rfl, rfl⟩ noEnd reads onLine inSession
  exact ⟨errors rfl, errors' rfl, exit, exit'⟩

end Request

end InfixCalc.Command
