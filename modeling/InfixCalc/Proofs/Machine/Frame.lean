import InfixCalc.Proofs.Machine.Postorder

/-!
# `InfixCalc.Proofs.Machine.Frame`: what lies below stays as it is

A machine works on the top of its stack. This module says what each operation finds there and what
it leaves, whether it succeeds or fails; below that the stack may be any, and it is not touched.

* `Fed` and `Refused` are all that can become of one token. A token that is refused leaves the stack
  as it was, except that a division by zero has taken its two operands.
* `applySymbol_eq_error_iff` says the same of operators that are given by their symbols. An unknown
  symbol is noticed only when two operands have been taken.
* `pop_eq_ok_iff` is about values that are taken off the stack.

From one token to a run: whatever lies below a stack on which a run succeeds is still there
afterwards (`foldlM_feed_append`). So a machine that is not empty runs a list that has a value and
puts this value on top, but stops because of the elements below it (`run_of_evaluatePostfix`).
-/

set_option autoImplicit false

namespace InfixCalc.Machine

/-! ### One token -/

/-- The stack in front of a token that goes through, and behind it. A number is put on top. An
operator puts what it gives in the place of the two topmost elements, the upper of which is its
right operand. -/
inductive Fed : Stack → Token → Stack → Prop where
  | number {text : String} {v : Float} (denotes : Numeral.readDouble? text = some v)
    (stack : Stack) : Fed stack (.number text) (v :: stack)
  | operator {op : Operator} {left right v : Float} (gives : op.Gives left right v)
    (rest : Stack) : Fed (right :: left :: rest) (.operator op) (v :: rest)

/-- The stack in front of a token that does not go through, and how the machine stops:

- `unrunnable`: the token is neither a number nor an operator, and the stack is as it was;
- `unreadable`: the numeral denotes no number, and the stack is as it was;
- `tooFew`: there are not two elements for an operator, and the stack is as it was;
- `division`: the divisor is zero, of either sign, and the two operands are gone. -/
inductive Refused : Stack → Token → Halt CalcError → Prop where
  | unrunnable {token : Token} (noNumber : token.isNumber = false)
    (noOperator : token.isOperator = false) (stack : Stack) :
    Refused stack token ⟨.unrunnable token, stack⟩
  | unreadable {text : String} (unreadable : Numeral.readDouble? text = none) (stack : Stack) :
    Refused stack (.number text) ⟨.unreadableNumeral text, stack⟩
  | tooFew (op : Operator) {stack : Stack} (few : stack.length < 2) :
    Refused stack (.operator op) ⟨.tooFewElements 2, stack⟩
  | division {left right : Float} (zero : (right == 0) = true) (rest : Stack) :
    Refused (right :: left :: rest) (.operator .divide) ⟨.divisionByZero left right, rest⟩

/-- A token that is said to go through does go through. -/
theorem Fed.feed_eq {stack left : Stack} {token : Token} (fed : Fed stack token left) :
    feed stack token = .ok left := by
  cases fed with
  | number denotes => rw [feed, numeralValue_eq_ok_iff.mpr denotes]
  | operator gives => rw [feed, apply_cons_cons, gives.value_eq]

/-- A token that is said to be refused is refused. -/
theorem Refused.feed_eq {stack : Stack} {token : Token} {halt : Halt CalcError}
    (refused : Refused stack token halt) : feed stack token = .error halt := by
  cases refused with
  | unrunnable noNumber noOperator =>
      cases token with
      | number text => cases noNumber
      | operator op => cases noOperator
      | leftParen => rfl
      | rightParen => rfl
      | foreign object => rfl
  | unreadable unreadable => rw [feed, numeralValue_eq_error_iff.mpr ⟨unreadable, rfl⟩]
  | tooFew op few => exact apply_of_length_lt op few
  | division zero =>
      rw [feed, apply_cons_cons, Operator.value_eq_error_iff.mpr ⟨rfl, zero, rfl⟩]

/-- A token goes through, or it is refused. -/
theorem fed_or_refused (stack : Stack) (token : Token) :
    (∃ left, Fed stack token left) ∨ ∃ halt, Refused stack token halt := by
  cases token with
  | number text =>
      cases reads : Numeral.readDouble? text with
      | some v => exact .inl ⟨_, .number reads stack⟩
      | none => exact .inr ⟨_, .unreadable reads stack⟩
  -- An operator looks at two elements, so there are three shapes of stacks.
  | operator op =>
      rcases stack with _ | ⟨right, _ | ⟨left, rest⟩⟩
      · exact .inr ⟨_, .tooFew op (by simp)⟩
      · exact .inr ⟨_, .tooFew op (by simp)⟩
      · rcases op.gives_or_divides left right with ⟨v, gives⟩ | ⟨rfl, zero⟩
        · exact .inl ⟨_, .operator gives rest⟩
        · exact .inr ⟨_, .division zero rest⟩
  | leftParen => exact .inr ⟨_, .unrunnable rfl rfl stack⟩
  | rightParen => exact .inr ⟨_, .unrunnable rfl rfl stack⟩
  | foreign object => exact .inr ⟨_, .unrunnable rfl rfl stack⟩

/-- `Fed` says all about the tokens that go through, since there is no third way. -/
theorem feed_eq_ok_iff {stack left : Stack} {token : Token} :
    feed stack token = .ok left ↔ Fed stack token left := by
  refine ⟨fun h => ?_, Fed.feed_eq⟩
  rcases fed_or_refused stack token with ⟨left', fed⟩ | ⟨halt, refused⟩
  · cases fed.feed_eq.symm.trans h
    exact fed
  · cases refused.feed_eq.symm.trans h

/-- And `Refused` says all about the others. -/
theorem feed_eq_error_iff {stack : Stack} {token : Token} {halt : Halt CalcError} :
    feed stack token = .error halt ↔ Refused stack token halt := by
  refine ⟨fun h => ?_, Refused.feed_eq⟩
  rcases fed_or_refused stack token with ⟨left, fed⟩ | ⟨halt', refused⟩
  · cases fed.feed_eq.symm.trans h
  · cases refused.feed_eq.symm.trans h
    exact refused

/-! ### Symbols, and values on their way to and from the stack -/

/-- A symbol is applied as the operator that it stands for. -/
theorem applySymbol_eq_ok_iff {symbol : String} {stack left : Stack} :
    applySymbol symbol stack = .ok left ↔
      ∃ op, Operator.ofSymbol? symbol = some op ∧ Fed stack (.operator op) left := by
  unfold applySymbol
  cases Operator.ofSymbol? symbol with
  | none => cases popOperands stack <;> simp
  | some op =>
      have step := @feed_eq_ok_iff stack left (.operator op)
      rw [feed] at step
      cases applied : apply op stack <;> simp_all

/-- A symbol is refused as its operator is. One that no operator has is refused when its operands
have been taken, or for the lack of them. -/
theorem applySymbol_eq_error_iff {symbol : String} {stack : Stack} {halt : Halt ApplyError} :
    applySymbol symbol stack = .error halt ↔
      (∃ op e, Operator.ofSymbol? symbol = some op ∧ halt.error = .user e ∧
        Refused stack (.operator op) ⟨e, halt.stack⟩) ∨
      Operator.ofSymbol? symbol = none ∧
        ((stack.length < 2 ∧ halt = ⟨.user (.tooFewElements 2), stack⟩) ∨
          ∃ left right, stack = right :: left :: halt.stack ∧
            halt.error = .caller (.noSuchSymbol symbol)) := by
  rcases halt with ⟨error, rest⟩
  unfold applySymbol
  cases Operator.ofSymbol? symbol with
  | none =>
      -- An unknown symbol takes its operands like any other, and is refused afterwards.
      rcases stack with _ | ⟨right, _ | ⟨left, rest'⟩⟩ <;> simp [popOperands] <;> grind
  | some op =>
      constructor
      · intro h
        cases applied : apply op stack with
        | ok left => simp [applied] at h
        | error halt =>
            simp only [applied] at h
            cases h
            exact .inl ⟨op, halt.error, rfl, rfl, feed_eq_error_iff.mp applied⟩
      · rintro (⟨_, e, same, rfl, refused⟩ | ⟨none, -⟩)
        · cases same
          have applied : apply op stack = .error ⟨e, rest⟩ := refused.feed_eq
          simp only [applied]
        · cases none

/-- The values that are taken are the topmost ones, as many as are asked for, and the rest stays. -/
theorem pop_eq_ok_iff {count : Int} {stack rest : Stack} {taken : List Float} :
    pop count stack = .ok (taken, rest) ↔
      taken ++ rest = stack ∧ taken.length = count.toNat := by
  unfold pop
  constructor
  · intro h
    split at h
    · cases h
    · cases h
      exact ⟨List.take_append_drop _ _, by rw [List.length_take]; omega⟩
  · rintro ⟨rfl, same⟩
    rw [if_neg (by rw [List.length_append]; omega), ← same, List.take_left, List.drop_left]

/-- Only a lack of elements keeps values from being taken. -/
theorem pop_eq_error_iff {count : Int} {stack : Stack} {e : CalcError} :
    pop count stack = .error e ↔ stack.length < count ∧ e = .tooFewElements count := by
  unfold pop
  split
  · next few => simp [few, eq_comm]
  · next enough => simp [enough]

/-! ### Runs -/

/-- What goes through on a stack goes through on this stack above other elements. -/
theorem Fed.append {stack left : Stack} {token : Token} (fed : Fed stack token left)
    (base : Stack) : Fed (stack ++ base) token (left ++ base) := by
  cases fed with
  | number denotes => exact .number denotes (stack ++ base)
  | operator gives rest => exact .operator gives (rest ++ base)

/-- A run that goes through does the same above other elements, and these stay. -/
theorem foldlM_feed_append {tokens : List Token} {stack left : Stack}
    (run : tokens.foldlM feed stack = .ok left) (base : Stack) :
    tokens.foldlM feed (stack ++ base) = .ok (left ++ base) := by
  -- Each step that goes through does so above other elements, and hands on a stack to which this
  -- applies again.
  induction tokens generalizing stack with
  | nil =>
      cases run
      rfl
  | cons token tokens ih =>
      rw [List.foldlM_cons, except_bind_eq_ok_iff] at run
      obtain ⟨mid, first, rest⟩ := run
      have fed : Fed (stack ++ base) token (mid ++ base) := (feed_eq_ok_iff.mp first).append base
      rw [List.foldlM_cons, fed.feed_eq, except_ok_bind]
      exact ih rest

/-- A list that has a value puts it on top of any stack, and the machine then finds too many
elements if there was one before. -/
theorem run_of_evaluatePostfix {tokens : List Token} {v : Float}
    (value : evaluatePostfix tokens = .ok v) {base : Stack} (holds : base ≠ []) :
    run tokens base = .error ⟨.leftOver (base.length + 1), v :: base⟩ := by
  obtain ⟨e, rfl, denotes⟩ := evaluatePostfix_eq_ok_iff.mp value
  have others : (v :: base).length ≠ 1 := by
    simpa using holds
  unfold run
  rw [foldlM_feed_postorder denotes base, except_ok_bind, result_eq_error others,
    List.length_cons]

/-- Only the top of the stack is touched. A token that goes through puts a number on top or replaces
the two topmost elements by one; a token that is refused leaves the stack as it was, except that
a division by zero has taken the two topmost elements and put nothing there. Symbols are applied and
refused as their operators are, and a symbol that no operator has takes two elements before it is
refused. Taking elements leaves those below, or takes none if there are too few.

What a run leaves above a part of the stack does not depend on this part, which stays. So a list
that has a value, run on a machine with elements, leaves them untouched below its value, and all of
them are counted as left over. -/
theorem only_top_touched :
    (∀ stack token left, feed stack token = .ok left ↔ Fed stack token left) ∧
    (∀ stack token halt, feed stack token = .error halt ↔ Refused stack token halt) ∧
    (∀ symbol stack left, applySymbol symbol stack = .ok left ↔
      ∃ op, Operator.ofSymbol? symbol = some op ∧ Fed stack (.operator op) left) ∧
    (∀ symbol stack halt, applySymbol symbol stack = .error halt ↔
      (∃ op e, Operator.ofSymbol? symbol = some op ∧ halt.error = .user e ∧
        Refused stack (.operator op) ⟨e, halt.stack⟩) ∨
      Operator.ofSymbol? symbol = none ∧
        ((stack.length < 2 ∧ halt = ⟨.user (.tooFewElements 2), stack⟩) ∨
          ∃ left right, stack = right :: left :: halt.stack ∧
            halt.error = .caller (.noSuchSymbol symbol))) ∧
    (∀ values stack base, push values (stack ++ base) = push values stack ++ base) ∧
    (∀ count stack taken rest, pop count stack = .ok (taken, rest) ↔
      taken ++ rest = stack ∧ taken.length = count.toNat) ∧
    (∀ count stack e, pop count stack = .error e ↔
      stack.length < count ∧ e = .tooFewElements count) ∧
    (∀ (tokens : List Token) (stack left base : Stack), tokens.foldlM feed stack = .ok left →
      tokens.foldlM feed (stack ++ base) = .ok (left ++ base)) ∧
    (∀ tokens v base, evaluatePostfix tokens = .ok v → base ≠ [] →
      ∃ fault, run tokens base = .error ⟨fault, v :: base⟩ ∧
        fault.notice = ⟨.invalidExpression,
          integerText (base.length + 1) ++ " element(s) left on stack, expected 1", none⟩) := by
  refine ⟨fun _ _ _ => feed_eq_ok_iff, fun _ _ _ => feed_eq_error_iff,
    fun _ _ _ => applySymbol_eq_ok_iff, fun _ _ _ => applySymbol_eq_error_iff,
    fun _ _ _ => (List.append_assoc ..).symm, fun _ _ _ _ => pop_eq_ok_iff,
    fun _ _ _ => pop_eq_error_iff, fun _ _ _ base run => foldlM_feed_append run base, ?_⟩
  intro tokens v base value holds
  exact ⟨_, run_of_evaluatePostfix value holds, rfl⟩

/-- `8 3 -` on a machine that holds two elements: they stay below `5.0`, and three elements are
left. -/
theorem only_top_touched_difference :
    [.number "8", .number "3", .operator .subtract].foldlM feed [2.0, 1.0]
      = .ok [5.0, 2.0, 1.0] ∧
    ∃ fault, run [.number "8", .number "3", .operator .subtract] [2.0, 1.0]
        = .error ⟨fault, [5.0, 2.0, 1.0]⟩ ∧
      fault.notice
        = ⟨.invalidExpression, "3 element(s) left on stack, expected 1", none⟩ := by
  obtain ⟨-, -, -, -, -, -, -, frame, leftOver⟩ := only_top_touched
  have difference : (8.0 : Float) - 3.0 = 5.0 := by decide +kernel
  have denotes : Expr.HasValue (.binary .subtract (.number "8") (.number "3")) 5.0 := by
    rw [← difference]
    exact .binary (.number (by decide +kernel)) (.number (by decide +kernel)) (.difference 8.0 3.0)
  obtain ⟨fault, stopped, notice⟩ := leftOver
    [.number "8", .number "3", .operator .subtract] 5.0 [2.0, 1.0]
    (evaluatePostfix_eq_ok_iff.mpr ⟨_, rfl, denotes⟩) (by simp)
  exact ⟨frame _ [] [5.0] [2.0, 1.0] (foldlM_feed_postorder denotes []), fault, stopped, notice⟩

end InfixCalc.Machine
