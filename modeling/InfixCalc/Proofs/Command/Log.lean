import InfixCalc.Proofs.Command.Lines
import InfixCalc.Proofs.Evaluation.Stages

/-!
# `InfixCalc.Proofs.Command.Log`: the log stands apart

A run that logs does what it would do without a log, and notes things in between. Two facts say so.

`Request.shown_run`: the events that do not belong to the log (`Event.isShown`) are those of the
quiet run, in the same order, and the run ends in the same way. The argument goes along the run, a
line at a time (`shown_calculateLine`), and needs nothing about what is computed: whether there is a
log is looked at only where one is written.

`Request.run_quiet`: on standard error the two kinds of lines can be told apart, so whoever strikes
out the log reads what the quiet run writes. This is a fact about texts (`withoutLog_errorText`). It
needs that no event writes more than one line, whatever was typed, and that no message reads like a
line of the log (`isLogLine_message`). `Event.IsTold` is what must hold of an event for this.
-/

set_option autoImplicit false

namespace InfixCalc.Command

open Text

/-! ### Lines of the log -/

/-- The line belongs to the log: it is of the log's level, or it is the mark of a traceback. -/
def isLogLine (line : List Char) : Bool :=
  "DEBUG ".toList.isPrefixOf line || line == "<traceback>\n".toList

/-- The text without the lines that belong to the log. -/
def withoutLog (text : String) : String :=
  String.ofList ((splitLines text.toList).filter (!isLogLine ·)).flatten

/-- The first line of a text ends at the first line feed. -/
theorem splitLines_append {line : List Char} (noBreak : '\n' ∉ line) (rest : List Char) :
    splitLines (line ++ '\n' :: rest) = (line ++ ['\n']) :: splitLines rest := by
  induction line with
  | nil => simp [splitLines]
  | cons c line ih =>
      have other : c ≠ '\n' := fun same => noBreak (same ▸ List.mem_cons_self)
      have inner := ih fun mem => noBreak (List.mem_cons_of_mem _ mem)
      simp [splitLines, other, inner]

/-- A text that is one line holds no line feed. -/
theorem not_mem_of_isOneLine {text : String} (oneLine : IsOneLine text) : '\n' ∉ text.toList := by
  intro mem
  exact Bool.noConfusion (oneLine '\n' mem)

/-- A line is struck out or kept, whatever comes behind it. -/
theorem withoutLog_append {line : String} (oneLine : IsOneLine line) (rest : String) :
    withoutLog (line ++ "\n" ++ rest)
      = (if isLogLine (line ++ "\n").toList then "" else line ++ "\n") ++ withoutLog rest := by
  have chars : (line ++ "\n" ++ rest).toList = line.toList ++ '\n' :: rest.toList := by simp
  have first : (line ++ "\n").toList = line.toList ++ ['\n'] := by simp
  rw [withoutLog, withoutLog, chars, splitLines_append (not_mem_of_isOneLine oneLine), first,
    ← String.toList_inj]
  cases isLog : isLogLine (line.toList ++ ['\n']) <;> simp [isLog]

/-- Every entry is written as a line of the log. -/
theorem isLogLine_entry (entry : LogEntry) : isLogLine (entry.text ++ "\n").toList = true := by
  have front : (entry.text ++ "\n").toList
      = "DEBUG ".toList ++ (entry.source ++ ": " ++ entry.message ++ "\n").toList := by
    simp [LogEntry.text]
  rw [front, isLogLine, List.isPrefixOf_iff_prefix.mpr (List.prefix_append _ _), Bool.true_or]

/-- The front part of a line tells that the line does not belong to the log. -/
theorem isLogLine_append {start : String} (apart : ∀ tail, isLogLine (start.toList ++ tail) = false)
    (rest : String) : isLogLine (start ++ rest ++ "\n").toList = false := by
  rw [String.toList_append, String.toList_append, List.append_assoc]
  exact apart _

/-- No message reads like a line of the log: it begins with other letters, or with a digit. -/
theorem isLogLine_message (e : CalcError) : isLogLine (e.message ++ "\n").toList = false := by
  cases e with
  | foreignCharacter c => exact isLogLine_append (fun _ => rfl) _
  | unreadable rest => exact isLogLine_append (fun _ => rfl) _
  | unknownLexeme parts => exact isLogLine_append (fun _ => rfl) _
  | manyPoints numeral => exact isLogLine_append (fun _ => rfl) _
  | unmatchedLeft => rfl
  | unmatchedRight => rfl
  | unparsable token => exact isLogLine_append (fun _ => rfl) _
  | unrunnable token => exact isLogLine_append (fun _ => rfl) _
  | unreadableNumeral text => exact isLogLine_append (fun _ => rfl) _
  | tooFewElements needed =>
      refine isLogLine_append (fun tail => ?_) _
      rw [String.toList_append, List.append_assoc]
      rfl
  | leftOver count =>
      refine isLogLine_append (fun tail => ?_) _
      have digits : (integerText count).toList = Nat.toDigits 10 count := by simp [integerText]
      have nonempty : Nat.toDigits 10 count ≠ [] := Nat.toDigits_ne_nil
      obtain ⟨c, rest, text⟩ := List.exists_cons_of_ne_nil nonempty
      have digit : isAsciiDigit c = true :=
        Numeral.isAsciiDigit_of_mem_toDigits (text ▸ List.mem_cons_self)
      have noLetter : 'D' ≠ c ∧ c ≠ '<' := by
        constructor <;> rintro rfl <;> exact absurd digit (by decide)
      rw [digits, text]
      simp [isLogLine, List.isPrefixOf, noLetter]
  | divisionByZero left right =>
      -- A `D` is in front, as in the log, but not the letter behind it.
      refine isLogLine_append (fun tail => ?_) _
      rw [String.toList_append, String.toList_append, List.append_assoc, List.append_assoc]
      rfl

/-! ### Events with and without the log -/

namespace Event

/-- The event does not belong to the log. -/
def isShown : Event → Bool
  | output _ => true
  | message _ => true
  | log _ => false
  | traceback => false

/-- On standard error the event is told by one line at most, and by a line of the log only if it
belongs to the log. -/
def IsTold : Event → Prop
  | output _ => True
  | message line => IsOneLine line ∧ isLogLine (line ++ "\n").toList = false
  | log entry => IsOneLine entry.text
  | traceback => True

/-- The first event writes first. -/
theorem outputText_cons (event : Event) (events : List Event) :
    outputText (event :: events) = event.onOutput ++ outputText events := by
  simp [outputText]

/-- The first event writes first, on standard error too. -/
theorem errorText_cons (event : Event) (events : List Event) :
    errorText (event :: events) = event.onError ++ errorText events := by
  simp [errorText]

/-- The log is not written on standard output. -/
theorem outputText_filter_isShown (events : List Event) :
    outputText (events.filter isShown) = outputText events := by
  induction events with
  | nil => rfl
  | cons event events ih =>
      cases event <;> simp [List.filter_cons, isShown, outputText_cons, onOutput, ih]

/-- What is left on standard error without the log is what the other events write. -/
theorem withoutLog_errorText {events : List Event} (told : ∀ event ∈ events, event.IsTold) :
    withoutLog (errorText events) = errorText (events.filter isShown) := by
  induction events with
  | nil => rfl
  | cons event events ih =>
      -- What the event writes is struck out or kept by itself, whatever comes behind it.
      have first := told event List.mem_cons_self
      have rest := ih fun other mem => told other (List.mem_cons_of_mem _ mem)
      cases event with
      | output line => simp [List.filter_cons, isShown, errorText_cons, onError, rest]
      | message line =>
          obtain ⟨oneLine, noLog⟩ := first
          rw [errorText_cons, onError, withoutLog_append oneLine, noLog, rest]
          simp [List.filter_cons, isShown, errorText_cons, onError]
      | log entry =>
          rw [errorText_cons, onError, withoutLog_append first, isLogLine_entry, rest]
          simp [isShown]
      | traceback =>
          have mark : IsOneLine "<traceback>" := by decide
          have noted : isLogLine ("<traceback>" ++ "\n").toList = true := by decide
          rw [errorText_cons]
          show withoutLog ("<traceback>" ++ "\n" ++ errorText events) = _
          rw [withoutLog_append mark, noted, rest]
          simp [isShown]

end Event

/-! ### What a line leaves in the log -/

/-- The tokens of a line are spelled on one line each. -/
theorem isOneLine_typed {token : Token} (typed : token.IsTyped) : IsOneLine token.text := by
  cases token with
  | number text =>
      intro c mem
      exact isLineBreak_of_isNumeralChar (Numeral.IsTyped.isNumeral typed c mem)
  | operator op => cases op <;> decide
  | leftParen => decide
  | rightParen => decide
  | foreign object => exact typed.elim

/-- Postfix order holds no other numerals than the line, and no parentheses. -/
theorem isTyped_of_mem_ordered {line : String} {tokens ordered : List Token} {token : Token}
    (scanned : tokenize line = .ok tokens) (arranged : toPostfix tokens = .ok ordered)
    (mem : token ∈ ordered) :
    token.IsTyped ∧ (token.isNumber || token.isOperator) = true := by
  have known := List.all_eq_true.mp
    (toPostfix_eq_ok_iff.mp arranged).all_isNumber_or_isOperator token mem
  refine ⟨?_, known⟩
  cases token with
  | number text => exact isTyped_of_number_mem_ordered scanned arranged mem
  | operator op => trivial
  | leftParen => trivial
  | rightParen => trivial
  | foreign object => cases known

/-- Texts with a space between them are one line if each of them is. -/
theorem isOneLine_spaced {tokens : List Token} (each : ∀ token ∈ tokens, IsOneLine token.text) :
    IsOneLine (Token.spaced tokens) := by
  induction tokens with
  | nil => decide
  | cons first tokens ih =>
      have rest := ih fun token mem => each token (List.mem_cons_of_mem _ mem)
      -- Between two texts stands a space, and none behind the last.
      cases tokens with
      | nil => simpa [Token.spaced] using each
      | cons second tokens =>
          have step : Token.spaced (first :: second :: tokens)
              = first.text ++ " " ++ Token.spaced (second :: tokens) := by
            simp [Token.spaced, String.intercalate_cons_cons]
          rw [step, isOneLine_append, isOneLine_append]
          exact ⟨⟨each first List.mem_cons_self, by decide⟩, rest⟩

/-- An entry is one line if what it notes is. -/
theorem isOneLine_entry {entry : LogEntry} (noted : IsOneLine entry.message) :
    IsOneLine entry.text := by
  have source : IsOneLine entry.source := by
    cases entry with
    | failed line => show IsOneLine "safecalc.cli"; decide
    | _ => show IsOneLine "safecalc.calculator"; decide
  rw [LogEntry.text, isOneLine_append, isOneLine_append, isOneLine_append]
  exact ⟨⟨⟨by decide, source⟩, by decide⟩, noted⟩

/-- An evaluation notes its tokens, their postfix order and its result, as far as it comes. -/
theorem mem_trace {line : String} {entry : LogEntry} (mem : entry ∈ (trace line).log) :
    (∃ tokens, tokenize line = .ok tokens ∧ entry = .tokens tokens) ∨
    (∃ tokens ordered, tokenize line = .ok tokens ∧ toPostfix tokens = .ok ordered ∧
      entry = .ordered ordered) ∨
    ∃ v, entry = .result v := by
  -- How far the evaluation comes decides how many entries there are.
  cases scanned : tokenize line with
  | error e =>
      rw [trace, scanned] at mem
      cases mem
  | ok tokens =>
      cases arranged : toPostfix tokens with
      | error e =>
          simp only [trace, scanned, arranged, List.mem_singleton] at mem
          exact .inl ⟨tokens, rfl, mem⟩
      | ok ordered =>
          have noted : entry = .tokens tokens ∨ entry = .ordered ordered ∨
              ∃ v, entry = .result v := by
            simp only [trace, scanned, arranged] at mem
            split at mem
            · simp only [List.mem_cons, List.not_mem_nil, or_false] at mem
              exact mem.imp_right .inl
            · simp only [List.mem_cons, List.not_mem_nil, or_false] at mem
              exact mem.imp_right (Or.imp_right fun same => ⟨_, same⟩)
          rcases noted with same | same | result
          · exact .inl ⟨tokens, rfl, same⟩
          · exact .inr (.inl ⟨tokens, ordered, rfl, arranged, same⟩)
          · exact .inr (.inr result)

/-- Each entry in the log of a line is one line. -/
theorem isOneLine_of_mem_trace {line : String} {entry : LogEntry}
    (mem : entry ∈ (trace line).log) : IsOneLine entry.text := by
  refine isOneLine_entry ?_
  rcases mem_trace mem with
    ⟨tokens, scanned, rfl⟩ | ⟨tokens, ordered, scanned, arranged, rfl⟩ | ⟨v, rfl⟩
  · refine isOneLine_append.mpr ⟨by decide, isOneLine_spaced fun token inside => ?_⟩
    exact isOneLine_typed (isTyped_of_mem_tokenize scanned inside)
  · refine isOneLine_append.mpr ⟨by decide, isOneLine_spaced fun token inside => ?_⟩
    exact isOneLine_typed (isTyped_of_mem_ordered scanned arranged inside).1
  · exact isOneLine_append.mpr ⟨by decide, isOneLine_text v⟩

/-- What is logged of a line is told in single lines, with or without a log. -/
theorem isTold_of_mem_logEvents {verbose : Bool} {line : String} {event : Event}
    (mem : event ∈ logEvents verbose (trace line).log) : event.IsTold := by
  unfold logEvents at mem
  split at mem
  · obtain ⟨entry, inside, rfl⟩ := List.mem_map.mp mem
    exact isOneLine_of_mem_trace inside
  · cases mem

/-- The line that failed may hold anything, but it is quoted. -/
theorem isTold_of_mem_errorEvents {verbose : Bool} {line : String} {e : CalcError} {event : Event}
    (failed : evaluate line = .error e) (mem : event ∈ errorEvents verbose line (some e)) :
    event.IsTold := by
  rcases List.mem_append.mp mem with mem | mem
  · split at mem
    · rcases List.mem_cons.mp mem with rfl | mem
      · exact isOneLine_entry (isOneLine_append.mpr ⟨isOneLine_quoted line, by decide⟩)
      · rw [List.mem_singleton.mp mem]
        trivial
    · cases mem
  · rw [List.mem_singleton.mp mem]
    exact ⟨isOneLine_message_of_evaluate failed, isLogLine_message e⟩

/-! ### Parts of a run -/

/-- The part of a run without its log. -/
def Segment.shown (s : Segment) : Segment :=
  ⟨s.events.filter Event.isShown, s.broken⟩

/-- What a run does without its log. -/
def Outcome.shown (o : Outcome) : Outcome :=
  { o with events := o.events.filter Event.isShown }

/-- Leaving out the log of two segments leaves it out of both. -/
theorem Segment.shown_andThen (first second : Segment) :
    (first.andThen second).shown = first.shown.andThen second.shown := by
  rcases first with ⟨events, broken⟩
  cases broken with
  | some e => rfl
  | none => simp [andThen, shown]

/-- What happens in two segments in a row happens in one of them. -/
theorem Segment.mem_andThen {first second : Segment} {event : Event}
    (mem : event ∈ (first.andThen second).events) :
    event ∈ first.events ∨ event ∈ second.events := by
  rcases first with ⟨events, broken⟩
  cases broken with
  | some e => exact .inl mem
  | none => exact List.mem_append.mp mem

/-- The same request, but for the log. -/
def Request.quiet (r : Request) : Request :=
  { r with verbose := false }

/-- A quiet run keeps no log. -/
@[simp] theorem Request.quiet_verbose (r : Request) : r.quiet.verbose = false := rfl

/-- Without a log nothing is logged. -/
@[simp] theorem logEvents_false (log : List LogEntry) : logEvents false log = [] := rfl

/-- All that is logged belongs to the log. -/
theorem filter_logEvents (verbose : Bool) (log : List LogEntry) :
    (logEvents verbose log).filter Event.isShown = [] := by
  unfold logEvents
  split
  · simp [List.filter_map, Function.comp_def, Event.isShown]
  · rfl

/-- Of what a fault leaves, the message stays, and the entries in the log go. -/
theorem filter_errorEvents (verbose : Bool) (line : String) (error : Option CalcError) :
    (errorEvents verbose line error).filter Event.isShown = errorEvents false line error := by
  cases error with
  | none => rfl
  | some e => cases verbose <;> rfl

/-- What is computed of a line, and how it is told, has nothing to do with the log. -/
theorem shown_calculateLine (r : Request) (line : String) :
    (calculateLine r line).shown = calculateLine r.quiet line := by
  unfold calculateLine
  dsimp only
  -- A reading is made with the settings that the two requests have in common.
  rw [show r.quiet.reading = r.reading from rfl]
  cases r.reading (trace line).outcome with
  | error e => simp only [Segment.shown, filter_logEvents, Request.quiet_verbose, logEvents_false]
  | ok reading =>
      cases shown : reading.display with
      | error e =>
          simp only [shown, Segment.shown, List.filter_append, filter_logEvents, filter_errorEvents,
            Request.quiet_verbose, logEvents_false]
      | ok display =>
          simp only [shown, Segment.shown, List.filter_append, filter_logEvents, filter_errorEvents,
            Request.quiet_verbose, logEvents_false]
          rfl

/-- A reading is that of a fault, or it has a value to display. -/
theorem Request.reading_cases {r : Request} {outcome : Except CalcError Float}
    {reading : Reading CalcError} (read : r.reading outcome = .ok reading) :
    (∃ e, outcome = .error e ∧ reading.error = some e) ∨
    ∃ v, reading.error = none ∧ reading.value = some v := by
  cases outcome with
  | error e =>
      cases read
      exact .inl ⟨e, rfl, rfl⟩
  | ok v =>
      simp only [Request.reading, Calculator.reading] at read
      cases rounded : roundResult r.calculator.precision v with
      | error refused =>
          simp only [rounded, Except.map] at read
          split at read <;> cases read
      | ok w =>
          simp only [rounded, Except.map] at read
          -- Neither the number of places nor the rate is missing, or there would be no reading.
          split at read
          · cases read
          · split at read
            · cases read
            · cases read
              exact .inr ⟨w, rfl, rfl⟩

/-- What a calculation leaves is told in single lines. -/
theorem isTold_of_mem_calculateLine {r : Request} {line : String} {event : Event}
    (mem : event ∈ (calculateLine r line).events) : event.IsTold := by
  unfold calculateLine at mem
  dsimp only at mem
  cases read : r.reading (trace line).outcome with
  | error e =>
      simp only [read] at mem
      exact isTold_of_mem_logEvents mem
  | ok reading =>
      -- Whether it breaks off or is displayed, a reading has left its log and its message before.
      have told : ∀ event ∈ logEvents r.verbose (trace line).log
          ++ errorEvents r.verbose line reading.error, event.IsTold := by
        intro event mem
        rcases List.mem_append.mp mem with mem | mem
        · exact isTold_of_mem_logEvents mem
        · cases error : reading.error with
          | none =>
              rw [error] at mem
              cases mem
          | some e =>
              rcases Request.reading_cases read with ⟨e', failed, same⟩ | ⟨v, none, -⟩
              · rw [same] at mem
                exact isTold_of_mem_errorEvents failed mem
              · rw [none] at error
                cases error
      simp only [read] at mem
      cases shown : reading.display with
      | error e =>
          simp only [shown] at mem
          exact told event mem
      | ok display =>
          simp only [shown] at mem
          rcases List.mem_append.mp mem with mem | mem
          · exact told event mem
          · rw [List.mem_singleton.mp mem]
            trivial

/-- The kind of a token that a line can have is one line. -/
theorem isOneLine_kind {token : Token} (typed : token.IsTyped) : IsOneLine token.kind := by
  cases token with
  | number text => show IsOneLine "Number"; decide
  | operator op => show IsOneLine "Operator"; decide
  | leftParen => decide
  | rightParen => decide
  | foreign object => exact typed.elim

/-- Where the tokens of a line are printed, all that is written is output in single lines and the
message of a fault of the line. -/
theorem mem_dumpLine {line : String} {event : Event} (mem : event ∈ dumpLine line) :
    (∃ text, IsOneLine text ∧ event = .output text) ∨
    ∃ e, evaluate line = .error e ∧ event = .message e.message := by
  unfold dumpLine at mem
  cases scanned : tokenize line with
  | error e =>
      simp only [scanned, List.mem_singleton] at mem
      exact .inr ⟨e, by rw [evaluate_eq_bind, scanned, except_error_bind], mem⟩
  | ok tokens =>
      -- The tokens are printed whether there is a postfix order or not.
      have shown : ∀ event ∈ tokens.map fun t => Event.output (t.kind ++ "\t" ++ quoted t.text),
          ∃ text, IsOneLine text ∧ event = .output text := by
        intro event mem
        obtain ⟨token, inside, rfl⟩ := List.mem_map.mp mem
        have typed := isTyped_of_mem_tokenize scanned inside
        refine ⟨_, ?_, rfl⟩
        rw [isOneLine_append, isOneLine_append]
        exact ⟨⟨isOneLine_kind typed, by decide⟩, isOneLine_quoted _⟩
      cases arranged : toPostfix tokens with
      | error e =>
          simp only [scanned, arranged] at mem
          rcases List.mem_append.mp mem with mem | mem
          · exact .inl (shown event mem)
          · refine .inr ⟨e, ?_, List.mem_singleton.mp mem⟩
            rw [evaluate_eq_bind, scanned, except_ok_bind, arranged, except_error_bind]
      | ok ordered =>
          simp only [scanned, arranged] at mem
          rcases List.mem_append.mp mem with mem | mem
          · exact .inl (shown event mem)
          · refine .inl ⟨_, isOneLine_spaced fun token inside => ?_, List.mem_singleton.mp mem⟩
            exact isOneLine_typed (isTyped_of_mem_ordered scanned arranged inside).1

/-- What a line leaves where tokens are printed is told in single lines. -/
theorem isTold_of_mem_dumpLine {line : String} {event : Event} (mem : event ∈ dumpLine line) :
    event.IsTold := by
  rcases mem_dumpLine mem with ⟨text, -, rfl⟩ | ⟨e, failed, rfl⟩
  · trivial
  · exact ⟨isOneLine_message_of_evaluate failed, isLogLine_message e⟩

/-- Where the tokens of a line are printed, nothing is logged. -/
theorem filter_dumpLine (line : String) :
    (dumpLine line).filter Event.isShown = dumpLine line := by
  rw [List.filter_eq_self]
  intro event mem
  rcases mem_dumpLine mem with ⟨text, -, rfl⟩ | ⟨e, -, rfl⟩ <;> rfl

/-! ### Runs with and without a log -/

namespace Request

variable {r : Request} {around : Surroundings} {event : Event}

/-- On each line a run and its quiet twin do the same, the log apart. -/
theorem shown_onLine (r : Request) (line : String) :
    (r.onLine line).shown = r.quiet.onLine line := by
  have action : r.quiet.action = r.action := rfl
  unfold onLine
  split
  · rfl
  · rw [action]
    cases r.action with
    | calculate => exact shown_calculateLine r line
    | dump => simp only [Segment.shown, filter_dumpLine]
    | printGrammar => rfl

/-- Whatever a run does on a line, it tells in single lines. -/
theorem isTold_of_mem_onLine {line : String} (mem : event ∈ (r.onLine line).events) :
    event.IsTold := by
  unfold onLine at mem
  split at mem
  · cases mem
  · split at mem
    · exact isTold_of_mem_calculateLine mem
    · exact isTold_of_mem_dumpLine mem
    · cases mem

/-- So they do on lines in a row: the log is left out of each line by itself. -/
theorem shown_onLines (r : Request) (lines : List String) :
    (r.onLines lines).shown = r.quiet.onLines lines := by
  induction lines with
  | nil => rfl
  | cons line lines ih =>
      show ((r.onLine line).andThen (r.onLines lines)).shown = _
      -- Whether a line breaks the run off has nothing to do with its log.
      rw [Segment.shown_andThen, shown_onLine, ih]
      rfl

/-- The same holds of lines in a row. -/
theorem isTold_of_mem_onLines {lines : List String} (mem : event ∈ (r.onLines lines).events) :
    event.IsTold := by
  induction lines with
  | nil => cases mem
  | cons line lines ih =>
      rcases Segment.mem_andThen mem with mem | mem
      · exact isTold_of_mem_onLine mem
      · exact ih mem

/-- The opening is the same in both, since nothing of it is logged. -/
theorem shown_onAll (r : Request) (lines : List String) :
    (r.onAll lines).shown = r.quiet.onAll lines := by
  have opening : Segment.shown ⟨r.action.opening, none⟩ = ⟨r.action.opening, none⟩ := by
    cases r.action <;> rfl
  unfold onAll
  rw [Segment.shown_andThen, opening]
  show Segment.andThen _ (Segment.shown (if r.action.readsLines then _ else _))
    = Segment.andThen _ (if r.action.readsLines then _ else _)
  split
  · rw [shown_onLines]
    rfl
  · rfl

/-- The opening is told in single lines too. -/
theorem isTold_of_mem_onAll {lines : List String} (mem : event ∈ (r.onAll lines).events) :
    event.IsTold := by
  rcases Segment.mem_andThen mem with mem | mem
  · have opening : ∀ event ∈ r.action.opening, event.IsTold := by
      cases r.action <;> simp [Action.opening, Event.IsTold]
    exact opening event mem
  · split at mem
    · exact isTold_of_mem_onLines mem
    · cases mem

/-- A run and its quiet twin end in the same way. -/
theorem shown_outcome (r : Request) (lines : List String) (code : Nat) (session : Option Session) :
    (r.outcome lines code session).shown = r.quiet.outcome lines code session := by
  -- How a run ends is read off its parts, and these end alike.
  show (⟨(r.onAll lines).shown.events,
    ((r.onAll lines).shown.broken.map Exit.broken).getD (.status code), session⟩ : Outcome) = _
  rw [shown_onAll]
  rfl

/-- Without its log, a run does what the run without a log does, and ends in the same way. -/
theorem shown_run (r : Request) (around : Surroundings) :
    (r.run around).shown = r.quiet.run around := by
  have source : r.quiet.source = r.source := rfl
  unfold run
  rw [source]
  cases r.source around.inputIsTerminal around.outputIsTerminal with
  | given lines => exact shown_outcome r lines 0 none
  | input => exact shown_outcome r _ 0 none
  | session s =>
      show Outcome.shown (if r.action.readsLines then _ else _)
        = if r.action.readsLines then _ else _
      -- A session reads lines unless there is nothing to do for them.
      split
      · exact shown_outcome r _ _ (some s)
      · exact shown_outcome r [] 0 none

/-- Whatever a run does, it tells in single lines. -/
theorem isTold_of_mem_run (mem : event ∈ (r.run around).events) : event.IsTold := by
  unfold run at mem
  split at mem
  · exact isTold_of_mem_onAll mem
  · exact isTold_of_mem_onAll mem
  · split at mem
    · exact isTold_of_mem_onAll mem
    · exact isTold_of_mem_onAll mem

/-- A run without a log writes the same on standard output and ends in the same way. On standard
error it writes what is left of the other run's when the lines of the log are struck out. -/
theorem run_quiet (r : Request) (around : Surroundings) :
    Event.outputText (r.quiet.run around).events = Event.outputText (r.run around).events ∧
    Event.errorText (r.quiet.run around).events
      = withoutLog (Event.errorText (r.run around).events) ∧
    (r.quiet.run around).exit = (r.run around).exit := by
  rw [← shown_run]
  refine ⟨Event.outputText_filter_isShown _, ?_, rfl⟩
  exact (Event.withoutLog_errorText fun event mem => isTold_of_mem_run mem).symm

end Request

end InfixCalc.Command
