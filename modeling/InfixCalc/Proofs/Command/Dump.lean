import InfixCalc.Proofs.Command.Log

/-!
# `InfixCalc.Proofs.Command.Dump`: what is printed of the tokens of lines

A run that prints tokens opens with a header and then goes through its lines, each for itself. What
it prints of a line (`tokenLines`) tells how far the line comes, stage by stage: its tokens are
printed if it has any, all of them or none; their postfix order is printed behind them if they have
one; and otherwise there is the message of the fault (`dumpMessages`). So the lines without a
message are those whose evaluation gets to the machine (`dumpMessages_eq_nil_iff_endsAt`), be it to
have a value or to fail there.

Nothing printed is ambiguous. Every printed text is one line, the texts of the tokens are the line
without its white space, and from the line in postfix order the tokens can be read again
(`readSpaced_spaced`): no text of a token holds a space, and a numeral is no operator's symbol.
-/

set_option autoImplicit false

namespace InfixCalc.Command

open Text

/-! ### Postfix order in one line -/

/-- The token with the text, in postfix order: an operator if it is an operator's symbol, and else a
number. -/
def orderedToken (text : String) : Token :=
  match Operator.ofSymbol? text with
  | some op => .operator op
  | none => .number text

/-- The tokens in postfix order whose texts stand in the line with spaces between them. -/
def readSpaced (line : String) : List Token :=
  ((line.toList.splitOn ' ').filter (!·.isEmpty)).map fun text => orderedToken (String.ofList text)

/-- The token can be told by its text in a line of postfix order. -/
structure IsReadable (token : Token) : Prop where
  nonempty : token.text.toList ≠ []
  noSpace : ' ' ∉ token.text.toList
  told : orderedToken token.text = token

/-- The line of the postfix order can be read back, token by token. -/
theorem readSpaced_spaced {tokens : List Token} (each : ∀ token ∈ tokens, IsReadable token) :
    readSpaced (Token.spaced tokens) = tokens := by
  have texts : ((Token.spaced tokens).toList.splitOn ' ').filter (!·.isEmpty)
      = tokens.map (·.text.toList) := by
    cases tokens with
    | nil => rfl
    | cons token tokens =>
        have chars : (Token.spaced (token :: tokens)).toList
            = [' '].intercalate ((token :: tokens).map (·.text.toList)) := by
          rw [Token.spaced, String.toList_intercalate, List.map_map]
          rfl
        -- The texts are cut apart where they were put together, since none of them holds a space,
        -- and none is dropped, since none is empty.
        rw [chars, List.splitOn_intercalate _ _ (by simp)]
        · rw [List.filter_eq_self]
          intro text mem
          obtain ⟨token, member, rfl⟩ := List.mem_map.mp mem
          simpa using (each token member).nonempty
        · intro text mem
          obtain ⟨token, member, rfl⟩ := List.mem_map.mp mem
          exact (each token member).noSpace
  rw [readSpaced, texts, List.map_map, List.map_congr_left, List.map_id]
  intro token member
  rw [Function.comp_apply, String.ofList_toList, (each token member).told]
  rfl

/-- An operator can be told by its symbol. -/
theorem isReadable_operator (op : Operator) : IsReadable (.operator op) := by
  cases op <;> exact ⟨by decide, by decide, rfl⟩

/-- No numeral is an operator's symbol, nor does it hold a space. -/
theorem isReadable_number {text : String} (typed : Numeral.IsTyped text.toList) :
    IsReadable (.number text) := by
  refine ⟨typed.nonempty, fun mem => ?_, ?_⟩
  · exact absurd (typed.isNumeral ' ' mem) (by decide)
  · have noSymbol : Operator.ofSymbol? text = none := by
      rw [Operator.ofSymbol?, List.find?_eq_none]
      intro op _ same
      -- The one character of the symbol would be one of the numeral.
      have numeral := typed.isNumeral op.char
      rw [← beq_iff_eq.mp same] at numeral
      revert numeral
      cases op <;> decide
    rw [Token.text, orderedToken, noSymbol]

/-- What stands in postfix order for a line can be told by its text. -/
theorem isReadable_of_mem_ordered {line : String} {tokens ordered : List Token}
    (scanned : tokenize line = .ok tokens) (arranged : toPostfix tokens = .ok ordered) :
    ∀ token ∈ ordered, IsReadable token := by
  intro token mem
  obtain ⟨typed, known⟩ := isTyped_of_mem_ordered scanned arranged mem
  cases token with
  | number text => exact isReadable_number typed
  | operator op => exact isReadable_operator op
  | leftParen => cases known
  | rightParen => cases known
  | foreign object => cases known

/-! ### The printing of a line -/

/-- The line that shows a token: its kind, and its text in quotes. -/
def tokenLine (token : Token) : String :=
  token.kind ++ "\t" ++ quoted token.text

/-- The lines of output for a line. -/
def tokenLines (line : String) : List String :=
  match tokenize line with
  | .error _ => []
  | .ok tokens =>
    match toPostfix tokens with
    | .error _ => tokens.map tokenLine
    | .ok ordered => tokens.map tokenLine ++ [Token.spaced ordered]

/-- The messages about a line: one if it has no postfix order. -/
def dumpMessages (line : String) : List String :=
  match tokenize line >>= toPostfix with
  | .error e => [e.message]
  | .ok _ => []

/-- What is printed of a line is some lines of output and then at most one message. -/
theorem dumpLine_eq (line : String) :
    dumpLine line = (tokenLines line).map .output ++ (dumpMessages line).map .message := by
  rw [dumpLine, tokenLines, dumpMessages]
  cases tokenize line with
  | error e => rfl
  | ok tokens =>
      simp only [except_ok_bind]
      cases toPostfix tokens with
      | error e => simp [tokenLine]
      | ok ordered => simp [tokenLine]

/-- How a line is printed: the lines on standard output, and the messages.

- `noTokens`: the line has no tokens, and none are printed;
- `noOrder`: all its tokens are printed, and no order of them;
- `inOrder`: its tokens are printed, and behind them a line that holds their postfix order. -/
inductive IsDumped (line : String) : List String → List String → Prop where
  | noTokens {e : CalcError} (failed : tokenize line = .error e) : IsDumped line [] [e.message]
  | noOrder {tokens : List Token} {e : CalcError} (scanned : tokenize line = .ok tokens)
    (spells : (Token.spelled tokens).toList = visible line) (failed : toPostfix tokens = .error e) :
    IsDumped line (tokens.map tokenLine) [e.message]
  | inOrder {tokens ordered : List Token} (scanned : tokenize line = .ok tokens)
    (spells : (Token.spelled tokens).toList = visible line)
    (arranged : toPostfix tokens = .ok ordered)
    (told : readSpaced (Token.spaced ordered) = ordered) :
    IsDumped line (tokens.map tokenLine ++ [Token.spaced ordered]) []

/-- What a line leaves in a run that prints tokens is one of the three cases, whichever stage it
fails at. -/
theorem isDumped (line : String) : IsDumped line (tokenLines line) (dumpMessages line) := by
  rw [tokenLines, dumpMessages]
  cases scanned : tokenize line with
  | error e => exact .noTokens scanned
  | ok tokens =>
      have spells := (tokenize_eq_ok_iff.mp scanned).2
      simp only [except_ok_bind]
      cases arranged : toPostfix tokens with
      | error e => exact .noOrder scanned spells arranged
      | ok ordered =>
          exact .inOrder scanned spells arranged
            (readSpaced_spaced (isReadable_of_mem_ordered scanned arranged))

/-- The lines without a message are those whose evaluation gets to the machine. -/
theorem dumpMessages_eq_nil_iff_endsAt (line : String) :
    dumpMessages line = [] ↔ EndsAt line .value ∨ EndsAt line .run := by
  constructor
  · intro none
    obtain ⟨stage, ends⟩ := exists_endsAt line
    -- A line ends at one of four stages, and at the first two of them there is a message.
    cases stage with
    | tokens =>
        obtain ⟨e, scanned, -⟩ := ends
        rw [dumpMessages, scanned, except_error_bind] at none
        cases none
    | order =>
        obtain ⟨tokens, e, scanned, arranged, -⟩ := ends
        rw [dumpMessages, scanned, except_ok_bind, arranged] at none
        cases none
    | run => exact .inr ends
    | value => exact .inl ends
  · rintro (⟨tokens, ordered, v, scanned, arranged, -⟩ | ⟨tokens, ordered, e, scanned, arranged, -⟩)
    · rw [dumpMessages, scanned, except_ok_bind, arranged]
    · rw [dumpMessages, scanned, except_ok_bind, arranged]

/-- An evaluation gets to the machine exactly if it has a value or one of the machine's faults: the
stages before it have faults of other classes. -/
theorem endsAt_value_or_run_iff (line : String) :
    EndsAt line .value ∨ EndsAt line .run ↔
      (∃ v, evaluate line = .ok v) ∨
      ∃ e, evaluate line = .error e ∧ (e.kind = .invalidExpression ∨ e.kind = .divisionByZero) := by
  constructor
  · rintro (⟨tokens, ordered, v, -, -, -, traced⟩ | ⟨tokens, ordered, e, -, -, -, kind, traced⟩)
    · exact .inl ⟨v, by rw [evaluate, traced]⟩
    · exact .inr ⟨e, by rw [evaluate, traced], kind⟩
  · intro reaches
    -- At the first two stages the fault would be of another class.
    obtain ⟨stage, ends⟩ := exists_endsAt line
    cases stage with
    | tokens =>
        obtain ⟨e, -, kind, traced⟩ := ends
        rw [evaluate, traced] at reaches
        rcases reaches with ⟨v, value⟩ | ⟨e', failed, kind'⟩
        · cases value
        · cases failed
          rcases kind with kind | kind <;> simp [kind] at kind'
    | order =>
        obtain ⟨tokens, e, -, -, kind, traced⟩ := ends
        rw [evaluate, traced] at reaches
        rcases reaches with ⟨v, value⟩ | ⟨e', failed, kind'⟩
        · cases value
        · cases failed
          simp [kind] at kind'
    | run => exact .inr ends
    | value => exact .inl ends

/-! ### Runs -/

namespace Event

/-- On standard output a line leaves the lines of its tokens. -/
theorem outputText_dumpLine (line : String) :
    outputText (dumpLine line) = String.join ((tokenLines line).map (· ++ "\n")) := by
  have messages (texts : List String) : outputText (texts.map .message) = "" := by
    induction texts with
    | nil => rfl
    | cons text texts ih =>
        rw [List.map_cons, outputText_cons, ih]
        rfl
  rw [dumpLine_eq, outputText_append, messages, String.append_empty, outputText, List.map_map]
  rfl

/-- On standard error a line leaves its message, if it has one. -/
theorem errorText_dumpLine (line : String) :
    errorText (dumpLine line) = String.join ((dumpMessages line).map (· ++ "\n")) := by
  have output (texts : List String) : errorText (texts.map .output) = "" := by
    induction texts with
    | nil => rfl
    | cons text texts ih =>
        rw [List.map_cons, errorText_cons, ih]
        rfl
  rw [dumpLine_eq, errorText_append, output, String.empty_append, errorText, List.map_map]
  rfl

end Event

namespace Request

variable {r : Request}

/-- A run over lines prints those that are not blank, one after the other, whatever its settings. -/
theorem onLines_of_dump (dumps : r.action = .dump) (lines : List String) :
    r.onLines lines = ⟨(lines.filter isAnswered).flatMap dumpLine, none⟩ := by
  induction lines with
  | nil => rfl
  | cons line lines ih =>
      show (r.onLine line).andThen (r.onLines lines) = _
      rw [ih, onLine, dumps, List.filter_cons, isAnswered]
      -- A blank line is left out on both sides.
      cases allBlank line <;> rfl

/-- A run that prints tokens begins with the heading and goes on with the lines that are not blank,
in order. It ends with its own status. -/
theorem outcome_of_dump (dumps : r.action = .dump) (lines : List String) (code : Nat)
    (session : Option Session) :
    r.outcome lines code session
      = ⟨.output "<kind>\t<repr(text)>" :: (lines.filter isAnswered).flatMap dumpLine,
          .status code, session⟩ := by
  have all : r.onAll lines
      = ⟨.output "<kind>\t<repr(text)>" :: (lines.filter isAnswered).flatMap dumpLine, none⟩ := by
    rw [onAll, dumps]
    show Segment.andThen _ (r.onLines lines) = _
    rw [onLines_of_dump dumps]
    rfl
  rw [outcome, all]
  rfl

/-- A run that prints tokens ends as runs end, over any lines and with any settings. Behind the
header, what it does is to print the lines that are not blank, in order and each for itself: on
standard output the lines that tell the tokens and their postfix order, on standard error the
message if there is one. Each line is printed in one of three ways, by how far it comes, and no
printed text breaks a line of its own. The postfix order is printed, and no message, exactly if the
evaluation of the line has a value or fails in the machine. -/
theorem outcome_dumps (dumps : r.action = .dump) (lines : List String) (code : Nat)
    (session : Option Session) :
    (r.outcome lines code session).exit = .status code ∧
    (r.outcome lines code session).events
      = .output "<kind>\t<repr(text)>" :: (lines.filter isAnswered).flatMap (fun line =>
          (tokenLines line).map .output ++ (dumpMessages line).map .message) ∧
    Event.outputText (r.outcome lines code session).events
      = "<kind>\t<repr(text)>\n" ++ String.join ((lines.filter isAnswered).flatMap fun line =>
          (tokenLines line).map (· ++ "\n")) ∧
    Event.errorText (r.outcome lines code session).events
      = String.join ((lines.filter isAnswered).flatMap fun line =>
          (dumpMessages line).map (· ++ "\n")) ∧
    (∀ event ∈ (r.outcome lines code session).events,
      ∃ text, IsOneLine text ∧ (event = .message text ∨ event = .output text)) ∧
    ∀ line,
      IsDumped line (tokenLines line) (dumpMessages line) ∧
      (dumpMessages line = [] ↔ EndsAt line .value ∨ EndsAt line .run) ∧
      (EndsAt line .value ∨ EndsAt line .run ↔ (∃ v, evaluate line = .ok v) ∨
        ∃ e, evaluate line = .error e ∧
          (e.kind = .invalidExpression ∨ e.kind = .divisionByZero)) := by
  rw [outcome_of_dump dumps]
  refine ⟨rfl, ?_, ?_, ?_, ?_, fun line => ⟨isDumped line, dumpMessages_eq_nil_iff_endsAt line,
    endsAt_value_or_run_iff line⟩⟩
  · rw [funext dumpLine_eq]
  · rw [Event.outputText_cons, Event.outputText_flatMap Event.outputText_dumpLine]
    rfl
  · rw [Event.errorText_cons, Event.errorText_flatMap Event.errorText_dumpLine]
    exact String.empty_append
  · intro event mem
    rcases List.mem_cons.mp mem with rfl | mem
    · exact ⟨_, by decide, .inr rfl⟩
    · obtain ⟨line, -, inside⟩ := List.mem_flatMap.mp mem
      -- What is printed of a line is output or the message of its fault, and neither breaks a line.
      rcases mem_dumpLine inside with ⟨text, oneLine, same⟩ | ⟨e, failed, same⟩
      · exact ⟨text, oneLine, .inr same⟩
      · exact ⟨_, isOneLine_message_of_evaluate failed, .inl same⟩

/-- Behind a line that is never closed and a blank one, an empty pair of parentheses has tokens and
an empty postfix order, and the line after it has no tokens. -/
theorem outcome_dumps_empty :
    Event.outputText (outcome { action := .dump } ["(1", " \t", "()", "2$"] 0 none).events
      = "<kind>\t<repr(text)>\nLeftParen\t'('\nNumber\t'1'\nLeftParen\t'('\nRightParen\t')'\n\n" ∧
    Event.errorText (outcome { action := .dump } ["(1", " \t", "()", "2$"] 0 none).events
      = "Unmatched (\nInvalid character '$'\n" := by
  obtain ⟨-, -, output, errors, -⟩ :=
    outcome_dumps (r := { action := .dump }) rfl ["(1", " \t", "()", "2$"] 0 none
  rw [output, errors]
  constructor
  · decide +kernel
  · decide +kernel

end Request

end InfixCalc.Command
