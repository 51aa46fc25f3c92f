import InfixCalc.Machine
import InfixCalc.Proofs.Expr

/-!
# `InfixCalc.Proofs.Machine.Postorder`: which lists the machine runs, and where it stops

The machine knows no trees. This module says what it does in terms of them: a list of tokens has
gone through exactly if it is a row of postorders of trees that have values, and then these values
are on the stack, the value of the last tree on top (`Leaves`, `foldlM_feed_eq_ok_iff`).

From this follow both halves of the outcome of a list (`evaluatePostfix_outcome`):

* It has a value exactly if it is the postorder of a tree that has one, which is then the value of
  the list; and the tree is the only one with this postorder.
* Otherwise it has the fault of the first position that offends, for one of four reasons
  (`Offends`); or, if no position does (`Clear`), the number of values left is at fault.

The reasons are stated without a stack. What is on it at a position is known from the tokens in
front: their `depth` is its height, and the two trees whose postorders end there have the two
topmost values.
-/

set_option autoImplicit false

namespace InfixCalc

open Machine (feed)

/-- The tokens are a row of postorders of trees that have values, and these values, the one of the
last tree first, are the stack. -/
inductive Leaves : List Token → Stack → Prop where
  | nil : Leaves [] []
  | tree {tokens : List Token} {stack : Stack} {e : Expr} {v : Float} (before : Leaves tokens stack)
    (value : e.HasValue v) : Leaves (tokens ++ e.postorder) (v :: stack)

/-- The depth of the tokens is the height of the stack. -/
theorem Leaves.depth_eq {tokens : List Token} {stack : Stack} (h : Leaves tokens stack) :
    depth tokens = stack.length := by
  induction h with
  | nil => rfl
  | @tree _ _ e _ _ _ ih =>
      rw [depth_append, ih, e.depth_postorder, List.length_cons]
      rfl

/-! ### Runs that go through -/

/-- With two elements on the stack an operator gives its value, or has its fault and has taken them.
-/
theorem Machine.apply_cons_cons (op : Operator) (right left : Float) (rest : Stack) :
    apply op (right :: left :: rest) =
      match op.value left right with
      | .error e => .error ⟨e, rest⟩
      | .ok v => .ok (v :: rest) :=
  rfl

/-- The postorder of a tree that has a value puts this value on top of any stack. -/
theorem foldlM_feed_postorder {e : Expr} {v : Float} (value : e.HasValue v) (stack : Stack) :
    e.postorder.foldlM feed stack = .ok (v :: stack) := by
  induction value generalizing stack with
  | @number text v denotes =>
      show (feed stack (.number text) >>= pure) = _
      rw [feed, numeralValue_eq_ok_iff.mpr denotes]
      rfl
  | @binary op left right l r _ _ _ gives ihLeft ihRight =>
      have operands : (left.postorder ++ right.postorder).foldlM feed stack
          = .ok (r :: l :: stack) := by
        rw [foldlM_append_of_ok (ihLeft stack), ihRight]
      rw [Expr.postorder, foldlM_concat_of_ok operands, feed, Machine.apply_cons_cons,
        gives.value_eq]

/-- The postorder of a tree that is at fault stops the machine with this fault. -/
theorem foldlM_feed_postorder_of_error {e : Expr} {fault : CalcError}
    (failed : e.evaluate = .error fault) (stack : Stack) :
    ∃ left, e.postorder.foldlM feed stack = .error ⟨fault, left⟩ := by
  induction e generalizing stack with
  | number text =>
      refine ⟨stack, ?_⟩
      show (feed stack (.number text) >>= pure) = _
      rw [feed, show numeralValue text = .error fault from failed]
      rfl
  | binary op left right ihLeft ihRight =>
      rw [Expr.evaluate_binary] at failed
      -- The run stops where the evaluation of the tree does: in an operand or at the operator.
      cases leftValue : left.evaluate with
      | error fault' =>
          rw [leftValue] at failed
          cases failed
          obtain ⟨stopped, run⟩ := ihLeft leftValue stack
          refine ⟨stopped, ?_⟩
          rw [Expr.postorder, List.append_assoc, List.foldlM_append, run, except_error_bind]
      | ok l =>
          rw [leftValue, except_ok_bind] at failed
          have first : left.postorder.foldlM feed stack = .ok (l :: stack) :=
            foldlM_feed_postorder (Expr.evaluate_eq_ok_iff.mp leftValue) stack
          cases rightValue : right.evaluate with
          | error fault' =>
              rw [rightValue] at failed
              cases failed
              obtain ⟨stopped, run⟩ := ihRight rightValue (l :: stack)
              refine ⟨stopped, ?_⟩
              rw [Expr.postorder, List.append_assoc, foldlM_append_of_ok first,
                List.foldlM_append, run, except_error_bind]
          | ok r =>
              rw [rightValue, except_ok_bind] at failed
              have operands : (left.postorder ++ right.postorder).foldlM feed stack
                  = .ok (r :: l :: stack) := by
                rw [foldlM_append_of_ok first,
                  foldlM_feed_postorder (Expr.evaluate_eq_ok_iff.mp rightValue)]
              refine ⟨stack, ?_⟩
              rw [Expr.postorder, foldlM_concat_of_ok operands, feed, Machine.apply_cons_cons,
                failed]

/-- A row of postorders of trees that have values puts these on top of any stack. -/
theorem Leaves.run {tokens : List Token} {stack : Stack} (h : Leaves tokens stack)
    (below : Stack) : tokens.foldlM feed below = .ok (stack ++ below) := by
  induction h with
  | nil => rfl
  | tree _ value ih =>
      rw [foldlM_append_of_ok ih, foldlM_feed_postorder value]
      rfl

/-- If a row ends with the postorder of a tree, the value of this tree is on top. -/
theorem Leaves.of_append_postorder {tokens : List Token} {e : Expr} {stack : Stack}
    (h : Leaves (tokens ++ e.postorder) stack) :
    ∃ v rest, stack = v :: rest ∧ e.HasValue v ∧ Leaves tokens rest := by
  generalize row : tokens ++ e.postorder = list at h
  cases h with
  | nil => exact absurd (List.append_eq_nil_iff.mp row).2 e.postorder_ne_nil
  | @tree _ rest _ v before value =>
      obtain ⟨rfl, rfl⟩ := Expr.append_postorder_inj row
      exact ⟨v, rest, rfl, value, before⟩

/-- With two values on the stack or more, the row ends with two trees that have the two topmost
values. -/
theorem Leaves.exists_operands {tokens : List Token} {r l : Float} {rest : Stack}
    (h : Leaves tokens (r :: l :: rest)) :
    ∃ (front : List Token) (left right : Expr),
      tokens = front ++ left.postorder ++ right.postorder ∧ left.HasValue l ∧
      right.HasValue r ∧ Leaves front rest := by
  cases h with
  | @tree _ _ right _ before rightValue =>
      cases before with
      | @tree front _ left _ before leftValue =>
          exact ⟨front, left, right, rfl, leftValue, rightValue, before⟩

/-- A step that succeeds keeps the row: a number is a tree of its own, and an operator joins the
last two trees. -/
theorem Leaves.feed {tokens : List Token} {stack stack' : Stack} {x : Token}
    (h : Leaves tokens stack) (fed : feed stack x = .ok stack') :
    Leaves (tokens ++ [x]) stack' := by
  cases x with
  | number text =>
      rw [Machine.feed] at fed
      cases reads : numeralValue text with
      | error e => rw [reads] at fed; cases fed
      | ok v =>
          rw [reads] at fed
          cases fed
          exact .tree h (.number (numeralValue_eq_ok_iff.mp reads))
  | operator op =>
      -- With fewer than two values the step would have failed.
      match stack, h, fed with
      | r :: l :: rest, h, fed =>
          obtain ⟨front, left, right, rfl, leftValue, rightValue, before⟩ := h.exists_operands
          rw [Machine.feed, Machine.apply_cons_cons] at fed
          cases applied : op.value l r with
          | error e => rw [applied] at fed; cases fed
          | ok v =>
              rw [applied] at fed
              cases fed
              have gives := Operator.value_eq_ok_iff.mp applied
              have joined := before.tree (.binary leftValue rightValue gives)
              simpa [Expr.postorder] using joined
  | leftParen => cases fed
  | rightParen => cases fed
  | foreign object => cases fed

/-- The machine takes in a whole list exactly if it is a row of postorders of trees that have
values, and is left with these. -/
theorem foldlM_feed_eq_ok_iff {tokens : List Token} {stack : Stack} :
    tokens.foldlM feed [] = .ok stack ↔ Leaves tokens stack := by
  constructor
  · -- Every step keeps a row, and the run begins with the empty one.
    exact foldlM_ok_induction Leaves .nil fun _ _ _ _ => Leaves.feed
  · intro h
    rw [h.run [], List.append_nil]

/-! ### Positions that offend -/

/-- The token offends behind the tokens `before`, with this report:

- `unrunnable`: it is neither a number nor an operator;
- `unreadable`: it is a number whose text denotes none;
- `tooFew`: it is an operator behind less than two values;
- `division`: it divides, and the second of the two trees that end in front of it has the value
  zero, of either sign. -/
inductive Offends (before : List Token) : Token → Notice → Prop where
  | unrunnable {x : Token} (noNumber : x.isNumber = false) (noOperator : x.isOperator = false) :
    Offends before x ⟨.invalidExpression, "Cannot run " ++ x.shown, none⟩
  | unreadable {text : String} (unreadable : Numeral.readDouble? text = none) :
    Offends before (.number text) ⟨.invalidExpression, "Cannot convert " ++ text, some .value⟩
  | tooFew {op : Operator} (few : depth before < 2) :
    Offends before (.operator op) ⟨.invalidExpression, "Less than 2 element(s) on stack", none⟩
  | division {front : List Token} {left right : Expr} {l r : Float}
    (operands : before = front ++ left.postorder ++ right.postorder) (leftValue : left.HasValue l)
    (rightValue : right.HasValue r) (zero : (r == 0) = true) :
    Offends before (.operator .divide)
      ⟨.divisionByZero, "Division by zero: " ++ Double.text l ++ " / " ++ Double.text r, none⟩

/-- No position of the list offends behind the tokens in front of it. -/
def Clear (tokens : List Token) : Prop :=
  ∀ before x after, tokens = before ++ x :: after → ∀ notice, ¬ Offends before x notice

/-- With fewer elements an operator takes nothing. -/
theorem Machine.apply_of_length_lt {stack : Stack} (op : Operator) (few : stack.length < 2) :
    apply op stack = .error ⟨.tooFewElements 2, stack⟩ := by
  match stack, few with
  | [], _ => rfl
  | [_], _ => rfl

/-- What is said about an operator that lacks operands. -/
theorem CalcError.notice_tooFewElements_two :
    (tooFewElements 2).notice
      = ⟨.invalidExpression, "Less than 2 element(s) on stack", none⟩ := by
  decide +kernel

/-- A step that fails behind a row offends there. -/
theorem Leaves.offends_of_feed {tokens : List Token} {stack : Stack} {x : Token}
    {halt : Halt CalcError} (h : Leaves tokens stack) (fed : Machine.feed stack x = .error halt) :
    Offends tokens x halt.error.notice := by
  cases x with
  | number text =>
      rw [Machine.feed] at fed
      cases reads : numeralValue text with
      | ok v => rw [reads] at fed; cases fed
      | error e =>
          rw [reads] at fed
          cases fed
          obtain ⟨unreadable, rfl⟩ := numeralValue_eq_error_iff.mp reads
          exact .unreadable unreadable
  | operator op =>
      rw [Machine.feed] at fed
      rcases Nat.lt_or_ge stack.length 2 with few | enough
      · rw [Machine.apply_of_length_lt op few] at fed
        cases fed
        show Offends tokens (.operator op) (CalcError.tooFewElements 2).notice
        rw [CalcError.notice_tooFewElements_two]
        exact .tooFew (by rw [h.depth_eq]; omega)
      · -- With two values or more only a division can fail, and its operands are the last two
        -- trees.
        match stack, enough, h, fed with
        | r :: l :: rest, _, h, fed =>
            obtain ⟨front, left, right, rfl, leftValue, rightValue, before⟩ := h.exists_operands
            rw [Machine.apply_cons_cons] at fed
            cases applied : op.value l r with
            | ok v => rw [applied] at fed; cases fed
            | error e =>
                rw [applied] at fed
                cases fed
                obtain ⟨rfl, zero, rfl⟩ := Operator.value_eq_error_iff.mp applied
                exact .division rfl leftValue rightValue zero
  | leftParen => cases fed; exact .unrunnable rfl rfl
  | rightParen => cases fed; exact .unrunnable rfl rfl
  | foreign object => cases fed; exact .unrunnable rfl rfl

/-- A token that offends behind a row makes the step fail with this report. -/
theorem Leaves.feed_of_offends {tokens : List Token} {stack : Stack} {x : Token} {notice : Notice}
    (h : Leaves tokens stack) (offends : Offends tokens x notice) :
    ∃ halt, Machine.feed stack x = .error halt ∧ halt.error.notice = notice := by
  cases offends with
  | unrunnable noNumber noOperator =>
      cases x with
      | number text => cases noNumber
      | operator op => cases noOperator
      | leftParen => exact ⟨_, rfl, rfl⟩
      | rightParen => exact ⟨_, rfl, rfl⟩
      | foreign object => exact ⟨_, rfl, rfl⟩
  | @unreadable text unreadable =>
      refine ⟨⟨.unreadableNumeral text, stack⟩, ?_, rfl⟩
      rw [Machine.feed, numeralValue_eq_error_iff.mpr ⟨unreadable, rfl⟩]
  | @tooFew op few =>
      refine ⟨⟨.tooFewElements 2, stack⟩, ?_, CalcError.notice_tooFewElements_two⟩
      rw [h.depth_eq] at few
      exact Machine.apply_of_length_lt op (by omega)
  | @division front left right l r operands leftValue rightValue zero =>
      subst operands
      -- The two trees that end here are the two that the row ends with.
      obtain ⟨r', _, rfl, rightValue', h⟩ := h.of_append_postorder
      obtain ⟨l', rest, rfl, leftValue', _⟩ := h.of_append_postorder
      cases rightValue.unique rightValue'
      cases leftValue.unique leftValue'
      refine ⟨⟨.divisionByZero l r, rest⟩, ?_, rfl⟩
      rw [Machine.feed, Machine.apply_cons_cons,
        Operator.value_eq_error_iff.mpr ⟨rfl, zero, rfl⟩]

/-- No position offends exactly if the list is a row of postorders of trees that have values. -/
theorem clear_iff {tokens : List Token} : Clear tokens ↔ ∃ stack, Leaves tokens stack := by
  constructor
  · intro clear
    cases run : tokens.foldlM feed [] with
    | ok stack => exact ⟨stack, foldlM_feed_eq_ok_iff.mp run⟩
    | error halt =>
        -- The step that fails is one that offends, behind a front part that went through.
        obtain ⟨before, x, after, stack, split, front, fed⟩ := foldlM_eq_error_iff.mp run
        have offends := (foldlM_feed_eq_ok_iff.mp front).offends_of_feed fed
        exact absurd offends (clear before x after split _)
  · rintro ⟨stack, h⟩ before x after rfl notice offends
    -- The run goes through, so its step at `x` does not fail.
    have run := foldlM_feed_eq_ok_iff.mpr h
    rw [List.foldlM_append, except_bind_eq_ok_iff] at run
    obtain ⟨mid, front, back⟩ := run
    rw [List.foldlM_cons, except_bind_eq_ok_iff] at back
    obtain ⟨next, fed, -⟩ := back
    obtain ⟨halt, failed, -⟩ := (foldlM_feed_eq_ok_iff.mp front).feed_of_offends offends
    rw [failed] at fed
    cases fed

/-! ### The outcome of a list -/

/-- A run that goes through ends with the one value that is left. -/
theorem evaluatePostfix_of_leaves {tokens : List Token} {stack : Stack}
    (h : Leaves tokens stack) : evaluatePostfix tokens = Machine.result stack := by
  have run : tokens.foldlM feed [] = .ok stack := foldlM_feed_eq_ok_iff.mpr h
  unfold evaluatePostfix Machine.run
  rw [run, except_ok_bind]
  cases Machine.result stack <;> rfl

/-- A list on which the run stops has the fault that it stops with. -/
theorem evaluatePostfix_of_error {tokens : List Token} {halt : Halt CalcError}
    (run : tokens.foldlM feed [] = .error halt) : evaluatePostfix tokens = .error halt.error := by
  unfold evaluatePostfix Machine.run
  rw [run, except_error_bind]

/-- A stack gives a result if the result is all that is on it. -/
theorem Machine.result_eq_ok_iff {stack : Stack} {v : Float} :
    result stack = .ok v ↔ stack = [v] := by
  match stack with
  | [] => simp [result]
  | [_] => simp [result]
  | _ :: _ :: _ => simp [result]

/-- Any other number of elements is too many, or too few. -/
theorem Machine.result_eq_error {stack : Stack} (other : stack.length ≠ 1) :
    result stack = .error (.leftOver stack.length) := by
  match stack with
  | [] => rfl
  | [_] => exact absurd rfl other
  | _ :: _ :: _ => rfl

/-- The fault of a list is that of the first token that the machine refuses, or that the elements
left are not one. -/
theorem evaluatePostfix_eq_error_cases {tokens : List Token} {fault : CalcError}
    (h : evaluatePostfix tokens = .error fault) :
    (∃ before x after stack halt, tokens = before ++ x :: after ∧ Leaves before stack ∧
      feed stack x = .error halt ∧ halt.error = fault) ∨
    ∃ stack, Leaves tokens stack ∧ stack.length ≠ 1 ∧ fault = .leftOver stack.length := by
  cases run : tokens.foldlM feed [] with
  | error halt =>
      rw [evaluatePostfix_of_error run] at h
      cases h
      obtain ⟨before, x, after, stack, split, front, fed⟩ := foldlM_eq_error_iff.mp run
      exact .inl ⟨before, x, after, stack, halt, split, foldlM_feed_eq_ok_iff.mp front, fed, rfl⟩
  | ok stack =>
      have leaves := foldlM_feed_eq_ok_iff.mp run
      rw [evaluatePostfix_of_leaves leaves] at h
      -- With one value left there would be no fault.
      have other : stack.length ≠ 1 := by
        intro one
        obtain ⟨v, rfl⟩ := List.length_eq_one_iff.mp one
        cases h
      rw [Machine.result_eq_error other] at h
      cases h
      exact .inr ⟨stack, leaves, other, rfl⟩

/-- A list has a value exactly if it is the postorder of a tree that has it. -/
theorem evaluatePostfix_eq_ok_iff {tokens : List Token} {v : Float} :
    evaluatePostfix tokens = .ok v ↔ ∃ e : Expr, tokens = e.postorder ∧ e.HasValue v := by
  constructor
  · intro h
    cases run : tokens.foldlM feed [] with
    | error halt =>
        rw [evaluatePostfix_of_error run] at h
        cases h
    | ok stack =>
        have leaves := foldlM_feed_eq_ok_iff.mp run
        rw [evaluatePostfix_of_leaves leaves, Machine.result_eq_ok_iff] at h
        subst h
        -- One value on the stack is one tree, with nothing before it.
        cases leaves with
        | @tree _ _ e _ before value =>
            cases before
            exact ⟨e, rfl, value⟩
  · rintro ⟨e, rfl, value⟩
    have leaves : Leaves e.postorder [v] := Leaves.nil.tree value
    rw [evaluatePostfix_of_leaves leaves, Machine.result_eq_ok_iff]

/-- The machine gives a postorder the outcome of its tree. -/
theorem evaluatePostfix_postorder (e : Expr) : evaluatePostfix e.postorder = e.evaluate := by
  cases outcome : e.evaluate with
  | ok v => exact evaluatePostfix_eq_ok_iff.mpr ⟨e, rfl, Expr.evaluate_eq_ok_iff.mp outcome⟩
  | error fault =>
      obtain ⟨left, run⟩ := foldlM_feed_postorder_of_error outcome []
      exact evaluatePostfix_of_error run

/-- A list fails exactly if a position offends behind a front part that is clear, or if all of it is
clear and the count of values is not one. -/
theorem evaluatePostfix_eq_error_iff {tokens : List Token} {notice : Notice} :
    (∃ fault, evaluatePostfix tokens = .error fault ∧ fault.notice = notice) ↔
      (∃ before x after, tokens = before ++ x :: after ∧ Clear before ∧
        Offends before x notice) ∨
      Clear tokens ∧ depth tokens ≠ 1 ∧ notice = ⟨.invalidExpression,
        integerText (depth tokens) ++ " element(s) left on stack, expected 1", none⟩ := by
  constructor
  · rintro ⟨fault, h, rfl⟩
    rcases evaluatePostfix_eq_error_cases h with
      ⟨before, x, after, stack, halt, split, leaves, fed, rfl⟩ | ⟨stack, leaves, other, rfl⟩
    · exact .inl ⟨before, x, after, split, clear_iff.mpr ⟨stack, leaves⟩,
        leaves.offends_of_feed fed⟩
    · refine .inr ⟨clear_iff.mpr ⟨stack, leaves⟩, ?_, ?_⟩
      · rw [leaves.depth_eq]
        omega
      · rw [leaves.depth_eq]
        rfl
  · rintro (⟨before, x, after, rfl, clear, offends⟩ | ⟨clear, other, rfl⟩)
    · obtain ⟨stack, leaves⟩ := clear_iff.mp clear
      obtain ⟨halt, fed, same⟩ := leaves.feed_of_offends offends
      exact ⟨halt.error, evaluatePostfix_of_error (foldlM_eq_error_iff.mpr
        ⟨before, x, after, stack, rfl, foldlM_feed_eq_ok_iff.mpr leaves, fed⟩), same⟩
    · obtain ⟨stack, leaves⟩ := clear_iff.mp clear
      rw [leaves.depth_eq] at other ⊢
      refine ⟨.leftOver stack.length, ?_, rfl⟩
      rw [evaluatePostfix_of_leaves leaves, Machine.result_eq_error (by omega)]

/-- A list fails for its structure, for a numeral, or for a division by zero. -/
theorem kind_of_evaluatePostfix_eq_error {tokens : List Token} {fault : CalcError}
    (h : evaluatePostfix tokens = .error fault) :
    fault.kind = .invalidExpression ∨ fault.kind = .divisionByZero := by
  have kinds : fault.notice.kind = .invalidExpression ∨ fault.notice.kind = .divisionByZero := by
    rcases evaluatePostfix_eq_error_iff.mp ⟨fault, h, rfl⟩ with
      ⟨before, x, after, -, -, offends⟩ | ⟨-, -, same⟩
    · generalize fault.notice = notice at offends
      cases offends with
      | unrunnable => exact .inl rfl
      | unreadable => exact .inl rfl
      | tooFew => exact .inl rfl
      | division => exact .inr rfl
    · rw [same]
      exact .inl rfl
  exact kinds

/-- The outcome of any list of tokens. It has a value exactly if it is the postorder of a tree that
has it, and then of no other tree. It has a fault exactly if it has a first position that offends,
and then the fault of this position; or if no position offends and the values left, as many as
there are more numbers than operators, are not one. -/
theorem evaluatePostfix_outcome (tokens : List Token) :
    (∀ v, evaluatePostfix tokens = .ok v ↔
      ∃ e : Expr, tokens = e.postorder ∧ (∀ e' : Expr, tokens = e'.postorder → e' = e) ∧
        e.HasValue v) ∧
    ∀ notice, (∃ fault, evaluatePostfix tokens = .error fault ∧ fault.notice = notice) ↔
      (∃ before x after, tokens = before ++ x :: after ∧ Clear before ∧
        Offends before x notice) ∨
      Clear tokens ∧ depth tokens ≠ 1 ∧ notice = ⟨.invalidExpression,
        integerText (depth tokens) ++ " element(s) left on stack, expected 1", none⟩ := by
  refine ⟨fun v => ?_, fun notice => evaluatePostfix_eq_error_iff⟩
  rw [evaluatePostfix_eq_ok_iff]
  constructor
  · -- A list is the postorder of one tree at most, so no other can be meant.
    rintro ⟨e, rfl, value⟩
    exact ⟨e, rfl, fun e' same => Expr.postorder_injective same.symm, value⟩
  · rintro ⟨e, same, -, value⟩
    exact ⟨e, same, value⟩

/-- Both operands of the division are values of operators: `8 3 -` is 5 and `1 3 +` is 4. -/
example : (evaluatePostfix [.number "8", .number "3", .operator .subtract, .number "1",
    .number "3", .operator .add, .operator .divide]).toOption = some 1.25 := by
  decide +kernel

end InfixCalc
