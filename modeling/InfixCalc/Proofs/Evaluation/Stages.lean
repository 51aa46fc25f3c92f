import InfixCalc.Proofs.Machine.Frame
import InfixCalc.Proofs.Postfix.Unfinished
import InfixCalc.Proofs.Token.Stop

/-!
# `InfixCalc.Proofs.Evaluation.Stages`: how far an evaluation comes

An evaluation ends at one of three stages with a fault, or it comes through with a value (`EndsAt`).
The classes of faults that a stage can have belong to no other stage, and the log holds one entry
for each stage that went well. `evaluate_endsAt` is the main statement: every line ends in exactly
one of the four ways, and nothing else can happen to it.

Some faults are not about lines at all: that no lexeme begins somewhere, or that a token has no
place in infix or in postfix order. Such a fault is said to be internal, and no line has it: what
passes the first stage consists of tokens that the other stages know.
-/

set_option autoImplicit false

namespace InfixCalc

/-- The fault is about lexemes or tokens that no line has. -/
def CalcError.isInternal : CalcError → Bool
  | unreadable _ => true
  | unknownLexeme _ => true
  | unparsable _ => true
  | unrunnable _ => true
  | _ => false

/-- Where an evaluation ends. -/
inductive Stage where
  /-- The line is not cut into tokens. -/
  | tokens
  /-- The tokens are not brought into postfix order. -/
  | order
  /-- The tokens in postfix order have no value. -/
  | run
  /-- There is a value. -/
  | value
deriving DecidableEq, Repr

/-- The evaluation of the line ends at the stage: all stages before it went well and left their
entries in the log, and no others. -/
def EndsAt (line : String) : Stage → Prop
  | .tokens => ∃ e, tokenize line = .error e ∧
      (e.kind = .invalidCharacter ∨ e.kind = .invalidNumber) ∧
      trace line = ⟨[], .error e⟩
  | .order => ∃ tokens e, tokenize line = .ok tokens ∧ toPostfix tokens = .error e ∧
      e.kind = .mismatchedParens ∧
      trace line = ⟨[.tokens tokens], .error e⟩
  | .run => ∃ tokens ordered e, tokenize line = .ok tokens ∧ toPostfix tokens = .ok ordered ∧
      evaluatePostfix ordered = .error e ∧
      (e.kind = .invalidExpression ∨ e.kind = .divisionByZero) ∧
      trace line = ⟨[.tokens tokens, .ordered ordered], .error e⟩
  | .value => ∃ tokens ordered v, tokenize line = .ok tokens ∧ toPostfix tokens = .ok ordered ∧
      evaluatePostfix ordered = .ok v ∧
      trace line = ⟨[.tokens tokens, .ordered ordered, .result v], .ok v⟩

/-- The number of stages that went well. -/
def Stage.passed : Stage → Nat
  | tokens => 0
  | order => 1
  | run => 2
  | value => 3

/-- The log tells the stage by its length. -/
theorem EndsAt.length_log {line : String} {stage : Stage} (ends : EndsAt line stage) :
    (trace line).log.length = stage.passed := by
  -- Each stage that goes well leaves one entry.
  cases stage with
  | tokens =>
      obtain ⟨e, -, -, traced⟩ := ends
      rw [traced]
      rfl
  | order =>
      obtain ⟨tokens, e, -, -, -, traced⟩ := ends
      rw [traced]
      rfl
  | run =>
      obtain ⟨tokens, ordered, e, -, -, -, -, traced⟩ := ends
      rw [traced]
      rfl
  | value =>
      obtain ⟨tokens, ordered, v, -, -, -, traced⟩ := ends
      rw [traced]
      rfl

/-- A line ends at one stage only, since the length of its log tells which. -/
theorem EndsAt.unique {line : String} {stage other : Stage} (ends : EndsAt line stage)
    (ends' : EndsAt line other) : stage = other := by
  have same : stage.passed = other.passed := ends.length_log.symm.trans ends'.length_log
  cases stage <;> cases other <;> first | rfl | cases same

/-- Every line ends at a stage. -/
theorem exists_endsAt (line : String) : ∃ stage, EndsAt line stage := by
  cases scanned : tokenize line with
  | error e =>
      refine ⟨.tokens, e, scanned, (kind_of_tokenize_eq_error scanned).symm, ?_⟩
      rw [trace, scanned]
  | ok tokens =>
      cases arranged : toPostfix tokens with
      | error e =>
          -- A foreign token would be refused as well, but lines have none.
          refine ⟨.order, tokens, e, scanned, arranged,
            kind_of_toPostfix_eq_error (foreign_not_mem_of_tokenize scanned) arranged, ?_⟩
          rw [trace, scanned]
          simp only [arranged]
      | ok ordered =>
          cases outcome : evaluatePostfix ordered with
          | error e =>
              refine ⟨.run, tokens, ordered, e, scanned, arranged, outcome,
                kind_of_evaluatePostfix_eq_error outcome, ?_⟩
              rw [trace, scanned]
              simp only [arranged, outcome]
          | ok v =>
              refine ⟨.value, tokens, ordered, v, scanned, arranged, outcome, ?_⟩
              rw [trace, scanned]
              simp only [arranged, outcome]

/-! ### No fault is internal -/

/-- What is visible of a line that is not refused at once is allowed, so no lexeme is missing. -/
theorem isInternal_of_tokenize {line : String} {e : CalcError}
    (failed : tokenize line = .error e) : e.isInternal = false := by
  rcases tokenize_eq_error_iff.mp failed with ⟨-, c, -, -, -, -, rfl⟩ | ⟨-, -, run, -, -, rfl⟩
  · rfl
  · rfl

/-- The conversion refuses foreign objects and nothing else that is internal. -/
theorem isInternal_of_toPostfix {tokens : List Token} {e : CalcError}
    (noForeign : ∀ object, Token.foreign object ∉ tokens) (failed : toPostfix tokens = .error e) :
    e.isInternal = false := by
  have kind := kind_of_toPostfix_eq_error noForeign failed
  cases e <;> first | rfl | cases kind

/-- The machine can run numbers and operators, so what fails on them is a numeral, a missing element
or a division. -/
theorem isInternal_of_feed {stack : Stack} {token : Token} {halt : Halt CalcError}
    (known : (token.isNumber || token.isOperator) = true)
    (failed : Machine.feed stack token = .error halt) : halt.error.isInternal = false := by
  cases Machine.feed_eq_error_iff.mp failed with
  | unrunnable noNumber noOperator =>
      rw [noNumber, noOperator] at known
      cases known
  | unreadable => rfl
  | tooFew => rfl
  | division => rfl

/-- A run over numbers and operators fails for no internal reason. -/
theorem isInternal_of_evaluatePostfix {ordered : List Token} {e : CalcError}
    (known : ordered.all (fun token => token.isNumber || token.isOperator) = true)
    (failed : evaluatePostfix ordered = .error e) : e.isInternal = false := by
  rcases evaluatePostfix_eq_error_cases failed with
    ⟨before, token, after, stack, halt, rfl, -, fed, rfl⟩ | ⟨stack, -, -, rfl⟩
  · exact isInternal_of_feed (List.all_eq_true.mp known token (by simp)) fed
  · rfl

/-- No fault of a line is internal, at any of the stages. -/
theorem isInternal_of_evaluate {line : String} {e : CalcError} (failed : evaluate line = .error e) :
    e.isInternal = false := by
  rcases evaluate_eq_error_cases failed with
    failed | ⟨tokens, scanned, failed⟩ | ⟨tokens, ordered, scanned, arranged, failed⟩
  · exact isInternal_of_tokenize failed
  · exact isInternal_of_toPostfix (foreign_not_mem_of_tokenize scanned) failed
  · have phrase := toPostfix_eq_ok_iff.mp arranged
    exact isInternal_of_evaluatePostfix phrase.all_isNumber_or_isOperator failed

/-- Every line ends at exactly one stage: without tokens, for a character or a numeral, and without
a log; without postfix order, for its parentheses, and with its tokens in the log; without a value,
for its structure, a numeral or a division by zero, and with its tokens in both orders in the log;
or with a value, which is the third entry. No other failure comes out of an evaluation, also when it
is spelled out of operations that can have others: symbols that must be found, lists that must have
two values, and a division that refuses zero. And no fault is that of a lexeme or a token that no
stage knows. -/
theorem evaluate_endsAt (line : String) :
    (∃! stage, EndsAt line stage) ∧
    evaluatePartially line = (evaluate line).mapError Failure.user ∧
    ∀ e, evaluate line = .error e → e.isInternal = false := by
  obtain ⟨stage, ends⟩ := exists_endsAt line
  exact ⟨⟨stage, ends, fun other ends' => ends'.unique ends⟩, evaluatePartially_eq line,
    fun e failed => isInternal_of_evaluate failed⟩

end InfixCalc
