import InfixCalc.Evaluation
import InfixCalc.Proofs.Machine.Postorder
import InfixCalc.Proofs.Postfix.Sentence
import InfixCalc.Proofs.Token.Typed

/-!
# `InfixCalc.Proofs.Evaluation`: what typed lines evaluate to

Three stages evaluate a line, and none of them builds a tree. Put together, they do what visiting
the tree does: the line of a sentence has the outcome of its tree, be it the value or the first
fault (`evaluate_of_derives`).

More lines than those of sentences have a value, since no stage asks where operands stand:
`(1)2+` evaluates to three (`evaluate_juxtaposed`). Exactly which lines have a value, and which of
them are lines of sentences, is `evaluate_line_eq_ok_iff`.
-/

set_option autoImplicit false

namespace InfixCalc

/-- The stages of an evaluation, without the log. -/
theorem evaluate_eq_bind (line : String) :
    evaluate line
      = tokenize line >>= fun tokens => toPostfix tokens >>= fun ordered =>
        evaluatePostfix ordered := by
  -- The log is made beside the stages, and no stage looks at it.
  unfold evaluate trace
  cases tokenize line with
  | error e => rfl
  | ok tokens =>
      simp only [except_ok_bind]
      cases toPostfix tokens with
      | error e => rfl
      | ok ordered =>
          simp only [except_ok_bind]
          cases evaluatePostfix ordered <;> rfl

/-- A line whose tokens are a loose sum has the outcome of the machine on what the sum is arranged
into. -/
theorem evaluate_of_arranges {line : String} {tokens ordered : List Token}
    (scanned : tokenize line = .ok tokens) (phrase : Arranges .sum tokens ordered) :
    evaluate line = evaluatePostfix ordered := by
  rw [evaluate_eq_bind, scanned, except_ok_bind, toPostfix_of_arranges phrase, except_ok_bind]

/-- The fault of a line is that of the stage it fails at. -/
theorem evaluate_eq_error_cases {line : String} {e : CalcError}
    (failed : evaluate line = .error e) :
    tokenize line = .error e ∨
    (∃ tokens, tokenize line = .ok tokens ∧ toPostfix tokens = .error e) ∨
    ∃ tokens ordered, tokenize line = .ok tokens ∧ toPostfix tokens = .ok ordered ∧
      evaluatePostfix ordered = .error e := by
  rw [evaluate_eq_bind] at failed
  cases scanned : tokenize line with
  | error e' =>
      rw [scanned, except_error_bind] at failed
      cases failed
      exact .inl rfl
  | ok tokens =>
      rw [scanned, except_ok_bind] at failed
      cases arranged : toPostfix tokens with
      | error e' =>
          rw [arranged, except_error_bind] at failed
          cases failed
          exact .inr (.inl ⟨tokens, rfl, arranged⟩)
      | ok ordered =>
          rw [arranged, except_ok_bind] at failed
          exact .inr (.inr ⟨tokens, ordered, rfl, arranged, failed⟩)

/-! ### Lines of sentences -/

/-- The numerals of a phrase's tree are the texts of its number tokens. -/
theorem Derives.number_mem {level : Level} {tokens : List Token} {e : Expr}
    (phrase : Derives level tokens e) {text : String} (mem : text ∈ e.numerals) :
    .number text ∈ tokens := by
  -- Only two rules put phrases together; the others hand on the numerals of one phrase.
  induction phrase with
  | number text' => simpa [Expr.numerals] using mem
  | group _ ih => simp [ih mem]
  | factor _ ih => exact ih mem
  | product _ _ _ left right =>
      rcases List.mem_append.mp mem with mem | mem
      · simp [left mem]
      · simp [right mem]
  | term _ ih => exact ih mem
  | sum _ _ _ left right =>
      rcases List.mem_append.mp mem with mem | mem
      · simp [left mem]
      · simp [right mem]

/-- The line of a sentence has the outcome of its tree: the value, if there is one, and otherwise
the first fault on the way through the tree. The one numeral that can be at fault is the point by
itself. -/
theorem evaluate_of_derives {line : String} {tokens : List Token} {e : Expr}
    (scanned : tokenize line = .ok tokens) (sentence : Derives .sum tokens e) :
    evaluate line = e.evaluate ∧
    (∀ v, evaluate line = .ok v ↔ e.HasValue v) ∧
    (∀ notice, (∃ fault, evaluate line = .error fault ∧ fault.notice = notice) ↔
      e.FirstFault notice) ∧
    ∀ text ∈ e.numerals, Numeral.readDouble? text = none ↔ text = "." := by
  have same : evaluate line = e.evaluate := by
    rw [evaluate_of_arranges scanned sentence.arranges, evaluatePostfix_postorder]
  refine ⟨same, fun v => ?_, fun notice => ?_, fun text mem => ?_⟩
  · rw [same, Expr.evaluate_eq_ok_iff]
  · rw [same, Expr.evaluate_eq_error_iff]
  · -- The numerals of the tree are tokens of the line, so they have been typed.
    have typed : (Token.number text).IsTyped :=
      isTyped_of_mem_tokenize scanned (sentence.number_mem mem)
    exact Numeral.readDouble?_eq_none_iff typed

/-- In `8/(3 - .)` the point is the first fault: division and subtraction come after it. -/
theorem evaluate_of_derives_point :
    tokenize "8/(3 - .)" = .ok [.number "8", .operator .divide, .leftParen, .number "3",
      .operator .subtract, .number ".", .rightParen] ∧
    Derives .sum [.number "8", .operator .divide, .leftParen, .number "3", .operator .subtract,
      .number ".", .rightParen]
      (.binary .divide (.number "8") (.binary .subtract (.number "3") (.number "."))) ∧
    ∃ fault, evaluate "8/(3 - .)" = .error fault ∧
      fault.notice = ⟨.invalidExpression, "Cannot convert .", some .value⟩ := by
  have scanned : tokenize "8/(3 - .)" = .ok [.number "8", .operator .divide, .leftParen,
      .number "3", .operator .subtract, .number ".", .rightParen] := by
    with_unfolding_all rfl
  have group : Derives .factor
      [.leftParen, .number "3", .operator .subtract, .number ".", .rightParen]
      (.binary .subtract (.number "3") (.number ".")) :=
    .group (.sum (.inr rfl) (.term (.factor (.number "3"))) (.factor (.number ".")))
  have sentence : Derives .sum [.number "8", .operator .divide, .leftParen, .number "3",
      .operator .subtract, .number ".", .rightParen]
      (.binary .divide (.number "8") (.binary .subtract (.number "3") (.number "."))) :=
    .term (.product (.inr rfl) (.factor (.number "8")) group)
  have unreadable : Numeral.readDouble? "." = none := by decide +kernel
  have fault : Expr.FirstFault
      (.binary .divide (.number "8") (.binary .subtract (.number "3") (.number ".")))
      ⟨.invalidExpression, "Cannot convert .", some .value⟩ :=
    .right (.number (v := 8.0) (by decide +kernel))
      (.right (.number (v := 3.0) (by decide +kernel)) (.number unreadable))
  exact ⟨scanned, sentence, ((evaluate_of_derives scanned sentence).2.2.1 _).mpr fault⟩

/-! ### Which lines have a value -/

/-- A line has a value exactly if its tokens are a loose sum that is arranged into the postorder of
a tree with this value. -/
theorem evaluate_eq_ok_iff_arranges {line : String} {v : Float} :
    evaluate line = .ok v ↔
      ∃ tokens e, tokenize line = .ok tokens ∧ Arranges .sum tokens (Expr.postorder e) ∧
        e.HasValue v := by
  constructor
  · intro h
    rw [evaluate_eq_bind, except_bind_eq_ok_iff] at h
    -- Each stage that goes through says what it was given.
    obtain ⟨tokens, scanned, h⟩ := h
    obtain ⟨ordered, arranged, h⟩ := (except_bind_eq_ok_iff _ _ _).mp h
    obtain ⟨e, rfl, value⟩ := evaluatePostfix_eq_ok_iff.mp h
    exact ⟨tokens, e, scanned, toPostfix_eq_ok_iff.mp arranged, value⟩
  · rintro ⟨tokens, e, scanned, phrase, value⟩
    rw [evaluate_of_arranges scanned phrase]
    exact evaluatePostfix_eq_ok_iff.mpr ⟨e, rfl, value⟩

/-- A line without tokens fails on a character or a numeral. -/
theorem kind_of_not_tokenized {line : String} {e fault : CalcError}
    (stopped : tokenize line = .error e) (failed : evaluate line = .error fault) :
    fault.kind = .invalidCharacter ∨ fault.kind = .invalidNumber := by
  rw [evaluate_eq_bind, stopped, except_error_bind] at failed
  cases failed
  exact (kind_of_tokenize_eq_error stopped).symm

/-- A line whose tokens are no loose sum fails on its parentheses. -/
theorem kind_of_not_arranges {line : String} {tokens : List Token} {fault : CalcError}
    (scanned : tokenize line = .ok tokens) (none : ∀ ordered, ¬ Arranges .sum tokens ordered)
    (failed : evaluate line = .error fault) : fault.kind = .mismatchedParens := by
  rw [evaluate_eq_bind, scanned, except_ok_bind] at failed
  cases arranged : toPostfix tokens with
  | ok ordered => exact absurd (toPostfix_eq_ok_iff.mp arranged) (none ordered)
  | error e =>
      rw [arranged] at failed
      cases failed
      exact kind_of_toPostfix_eq_error (foreign_not_mem_of_tokenize scanned) arranged

/-- A line whose tokens are a loose sum fails for its structure, for a numeral, or for a division by
zero. -/
theorem kind_of_arranges {line : String} {tokens ordered : List Token} {fault : CalcError}
    (scanned : tokenize line = .ok tokens) (phrase : Arranges .sum tokens ordered)
    (failed : evaluate line = .error fault) :
    fault.kind = .invalidExpression ∨ fault.kind = .divisionByZero := by
  rw [evaluate_of_arranges scanned phrase] at failed
  exact kind_of_evaluatePostfix_eq_error failed

/-- One and two have the value three. -/
theorem hasValue_one_add_two :
    Expr.HasValue (.binary .add (.number "1") (.number "2")) 3.0 := by
  have sum : (1.0 : Float) + 2.0 = 3.0 := by decide +kernel
  rw [← sum]
  exact .binary (.number (by decide +kernel)) (.number (by decide +kernel)) (.sum 1.0 2.0)

/-- A line has a value exactly if its tokens are a phrase of the loose grammar, in which operands
may be missing or stand side by side, and the order that they are arranged into is the postorder of
a tree with this value. Such tokens are a sentence of the grammar if and only if all neighbours fit.
Every other line fails: on a character or a numeral if it has no tokens, on its parentheses if the
tokens are no phrase of the loose grammar, and otherwise for its structure, a numeral or a division
by zero. -/
theorem evaluate_line_eq_ok_iff (line : String) :
    (∀ v, evaluate line = .ok v ↔
      ∃ tokens e, tokenize line = .ok tokens ∧ Arranges .sum tokens (Expr.postorder e) ∧
        e.HasValue v) ∧
    (∀ v tokens, evaluate line = .ok v → tokenize line = .ok tokens →
      (IsSentence tokens ↔ InfixPlaced tokens)) ∧
    ((∀ v, evaluate line ≠ .ok v) → ∃ fault, evaluate line = .error fault ∧
      (∀ e, tokenize line = .error e →
        fault.kind = .invalidCharacter ∨ fault.kind = .invalidNumber) ∧
      ∀ tokens, tokenize line = .ok tokens →
        ((∀ ordered, ¬ Arranges .sum tokens ordered) → fault.kind = .mismatchedParens) ∧
        ∀ ordered, Arranges .sum tokens ordered →
          fault.kind = .invalidExpression ∨ fault.kind = .divisionByZero) := by
  refine ⟨fun v => evaluate_eq_ok_iff_arranges, fun v tokens value scanned => ?_,
    fun noValue => ?_⟩
  · obtain ⟨tokens', e, scanned', phrase, -⟩ := evaluate_eq_ok_iff_arranges.mp value
    -- A line has one list of tokens, so the phrase is one of these tokens.
    cases scanned'.symm.trans scanned
    exact phrase.isSentence_iff
  · cases outcome : evaluate line with
    | ok v => exact absurd outcome (noValue v)
    | error fault =>
        refine ⟨fault, rfl, fun e stopped => kind_of_not_tokenized stopped outcome,
          fun tokens scanned => ⟨fun none => ?_, fun ordered phrase => ?_⟩⟩
        · exact kind_of_not_arranges scanned none outcome
        · exact kind_of_arranges scanned phrase outcome

/-- The lines `(1+2)`, `()` and `1a`: the first one is the line of a sentence and has a value. The
second one has none, though its tokens are a phrase of the loose grammar, and the third one has no
tokens. -/
theorem evaluate_line_eq_ok_iff_groups :
    (evaluate "(1+2)" = .ok 3.0 ∧
      tokenize "(1+2)" = .ok [.leftParen, .number "1", .operator .add, .number "2", .rightParen] ∧
      (IsSentence [.leftParen, .number "1", .operator .add, .number "2", .rightParen] ↔
        InfixPlaced [.leftParen, .number "1", .operator .add, .number "2", .rightParen])) ∧
    ((∀ v, evaluate "()" ≠ .ok v) ∧ tokenize "()" = .ok [.leftParen, .rightParen] ∧
      Arranges .sum [.leftParen, .rightParen] [] ∧ ∃ fault, evaluate "()" = .error fault ∧
        (fault.kind = .invalidExpression ∨ fault.kind = .divisionByZero)) ∧
    (∀ v, evaluate "1a" ≠ .ok v) ∧ ∃ e, tokenize "1a" = .error e ∧
      ∃ fault, evaluate "1a" = .error fault ∧
        (fault.kind = .invalidCharacter ∨ fault.kind = .invalidNumber) := by
  have scanned : tokenize "(1+2)"
      = .ok [.leftParen, .number "1", .operator .add, .number "2", .rightParen] := by
    with_unfolding_all rfl
  have sum : evaluate "(1+2)" = .ok 3.0 :=
    evaluate_eq_ok_iff_arranges.mpr
      ⟨_, _, scanned, toPostfix_eq_ok_iff.mp rfl, hasValue_one_add_two⟩
  have scanned' : tokenize "()" = .ok [.leftParen, .rightParen] := by
    with_unfolding_all rfl
  have phrase : Arranges .sum [.leftParen, .rightParen] [] := toPostfix_eq_ok_iff.mp rfl
  have noValue : ∀ v, evaluate "()" ≠ .ok v := by
    intro v h
    rw [evaluate_eq_bind, scanned'] at h
    cases h
  obtain ⟨fault, failed, -, kinds⟩ := (evaluate_line_eq_ok_iff "()").2.2 noValue
  have stopped : tokenize "1a" = .error (.foreignCharacter 'a') := by
    with_unfolding_all rfl
  have noValue' : ∀ v, evaluate "1a" ≠ .ok v := by
    intro v h
    rw [evaluate_eq_bind, stopped] at h
    cases h
  obtain ⟨fault', failed', kind', -⟩ := (evaluate_line_eq_ok_iff "1a").2.2 noValue'
  exact ⟨⟨sum, scanned, (evaluate_line_eq_ok_iff "(1+2)").2.1 _ _ sum scanned⟩,
    ⟨noValue, scanned', phrase, fault, failed, (kinds _ scanned').2 _ phrase⟩,
    noValue', _, stopped, fault', failed', kind' _ stopped⟩

/-- `(1)2+` is not the line of a sentence, and yet it has a value. -/
theorem evaluate_juxtaposed :
    tokenize "(1)2+" = .ok [.leftParen, .number "1", .rightParen, .number "2", .operator .add] ∧
    evaluate "(1)2+" = .ok 3.0 ∧
    ¬ IsSentence [.leftParen, .number "1", .rightParen, .number "2", .operator .add] := by
  have scanned : tokenize "(1)2+"
      = .ok [.leftParen, .number "1", .rightParen, .number "2", .operator .add] := by
    with_unfolding_all rfl
  refine ⟨scanned, ?_, fun sentence => ?_⟩
  · exact evaluate_eq_ok_iff_arranges.mpr
      ⟨_, _, scanned, toPostfix_eq_ok_iff.mp rfl, hasValue_one_add_two⟩
  · have placed := sentence.infixPlaced
    revert placed
    decide

end InfixCalc
