import InfixCalc.Expr
import InfixCalc.Proofs.Fold

/-!
# `InfixCalc.Proofs.Expr`: the value of a tree, its first fault, and its postorder

`Expr.evaluate` gives a value or a fault. Two relations say without an evaluator when it gives
which:

* `Expr.HasValue`: every numeral denotes a number, each operator gives for the values of its two
  sides what double arithmetic does (`Operator.Gives`), so no division has a right side of value
  zero, and this is the value (`Expr.evaluate_eq_ok_iff`).
* `Expr.FirstFault`: going through the tree from left to right, operands before their operator, this
  is the first numeral that denotes no number or the first division by zero, with the report that it
  makes (`Expr.evaluate_eq_error_iff`).

The postorder of a tree ends where the tree ends: if a list ends with the postorders of two trees,
these are the same tree (`Expr.append_postorder_inj`). So a list is the postorder of one tree at
most. And with numbers counted up and operators counted down (`depth`), a postorder counts one
(`Expr.depth_postorder`).
-/

set_option autoImplicit false

namespace InfixCalc

/-! ### The two rules of arithmetic -/

/-- A numeral has the value of the number that it denotes. -/
theorem numeralValue_eq_ok_iff {text : String} {v : Float} :
    numeralValue text = .ok v ↔ Numeral.readDouble? text = some v := by
  unfold numeralValue
  cases Numeral.readDouble? text <;> simp

/-- A numeral that denotes no number is reported, and no other. -/
theorem numeralValue_eq_error_iff {text : String} {fault : CalcError} :
    numeralValue text = .error fault ↔
      Numeral.readDouble? text = none ∧ fault = .unreadableNumeral text := by
  unfold numeralValue
  cases Numeral.readDouble? text <;> simp [eq_comm]

/-- What an operator gives for two doubles: `+` gives their sum, `-` their difference, `*` their
product and `/` their quotient, as double arithmetic has them. For a divisor that is zero, of either
sign, nothing is given. -/
inductive Operator.Gives : Operator → Float → Float → Float → Prop where
  | sum (left right : Float) : Gives .add left right (left + right)
  | difference (left right : Float) : Gives .subtract left right (left - right)
  | product (left right : Float) : Gives .multiply left right (left * right)
  | quotient (left : Float) {right : Float} (nonzero : (right == 0) = false) :
    Gives .divide left right (left / right)

/-- Every operator gives something for two doubles, unless it divides by zero. -/
theorem Operator.gives_or_divides (op : Operator) (left right : Float) :
    (∃ v, op.Gives left right v) ∨ op = .divide ∧ (right == 0) = true := by
  cases op with
  | add => exact .inl ⟨_, .sum left right⟩
  | subtract => exact .inl ⟨_, .difference left right⟩
  | multiply => exact .inl ⟨_, .product left right⟩
  | divide =>
      cases zero : right == 0 with
      | false => exact .inl ⟨_, .quotient left zero⟩
      | true => exact .inr ⟨rfl, rfl⟩

/-- What an operator gives is its value. -/
theorem Operator.Gives.value_eq {op : Operator} {left right v : Float}
    (gives : op.Gives left right v) : op.value left right = .ok v := by
  cases gives with
  | sum => rfl
  | difference => rfl
  | product => rfl
  | quotient left nonzero =>
      unfold value
      rw [nonzero]
      rfl

/-- Exactly a division by zero is refused. -/
theorem Operator.value_eq_error_iff {op : Operator} {left right : Float} {fault : CalcError} :
    op.value left right = .error fault ↔
      op = .divide ∧ (right == 0) = true ∧ fault = .divisionByZero left right := by
  unfold Operator.value
  by_cases h : op = .divide <;> cases zero : right == 0 <;> simp [h, eq_comm]

/-- The value of an operator is exactly what it gives. -/
theorem Operator.value_eq_ok_iff {op : Operator} {left right v : Float} :
    op.value left right = .ok v ↔ op.Gives left right v := by
  refine ⟨fun value => ?_, Gives.value_eq⟩
  rcases op.gives_or_divides left right with ⟨v', gives⟩ | divides
  · cases gives.value_eq.symm.trans value
    exact gives
  · have refused : op.value left right = .error (.divisionByZero left right) :=
      value_eq_error_iff.mpr ⟨divides.1, divides.2, rfl⟩
    cases refused.symm.trans value

namespace Expr

/-- The numerals of the tree, from left to right. -/
def numerals : Expr → List String
  | number text => [text]
  | binary _ left right => left.numerals ++ right.numerals

/-! ### Values and first faults -/

/-- All numerals of the tree denote numbers, every operator in it gives something for the values of
its two sides, and this is the value of the tree. -/
inductive HasValue : Expr → Float → Prop where
  | number {text : String} {v : Float} (denotes : Numeral.readDouble? text = some v) :
    HasValue (.number text) v
  | binary {op : Operator} {left right : Expr} {l r v : Float} (leftValue : HasValue left l)
    (rightValue : HasValue right r) (gives : op.Gives l r v) :
    HasValue (.binary op left right) v

/-- The report of the first fault of the tree, the left operand being visited before the right one
and both before their operator:

- `number`: a numeral denotes no number;
- `left`, `right`: the fault is in an operand, and every operand before it has a value;
- `division`: both operands have values, and the divisor is zero, of either sign. -/
inductive FirstFault : Expr → Notice → Prop where
  | number {text : String} (unreadable : Numeral.readDouble? text = none) :
    FirstFault (.number text) ⟨.invalidExpression, "Cannot convert " ++ text, some .value⟩
  | left {op : Operator} {left right : Expr} {notice : Notice} (fault : FirstFault left notice) :
    FirstFault (.binary op left right) notice
  | right {op : Operator} {left right : Expr} {l : Float} {notice : Notice}
    (leftValue : HasValue left l) (fault : FirstFault right notice) :
    FirstFault (.binary op left right) notice
  | division {left right : Expr} {l r : Float} (leftValue : HasValue left l)
    (rightValue : HasValue right r) (zero : (r == 0) = true) :
    FirstFault (.binary .divide left right)
      ⟨.divisionByZero, "Division by zero: " ++ Double.text l ++ " / " ++ Double.text r, none⟩

/-- The evaluation of an operator over two trees, in its three stages. -/
theorem evaluate_binary (op : Operator) (left right : Expr) :
    (binary op left right).evaluate
      = left.evaluate >>= fun l => right.evaluate >>= fun r => op.value l r :=
  rfl

/-- Evaluation gives exactly the value of a tree that has one. -/
theorem evaluate_eq_ok_iff {e : Expr} {v : Float} : e.evaluate = .ok v ↔ e.HasValue v := by
  -- The induction is on the tree: an operator has a value if both operands have one and it gives
  -- one for them.
  induction e generalizing v with
  | number text =>
      constructor
      · intro h
        exact .number (numeralValue_eq_ok_iff.mp h)
      · rintro ⟨denotes⟩
        exact numeralValue_eq_ok_iff.mpr denotes
  | binary op left right ihLeft ihRight =>
      constructor
      · intro h
        rw [evaluate_binary, except_bind_eq_ok_iff] at h
        obtain ⟨l, leftValue, h⟩ := h
        obtain ⟨r, rightValue, h⟩ := (except_bind_eq_ok_iff _ _ _).mp h
        exact .binary (ihLeft.mp leftValue) (ihRight.mp rightValue)
          (Operator.value_eq_ok_iff.mp h)
      · intro h
        cases h with
        | binary leftValue rightValue gives =>
            rw [evaluate_binary, ihLeft.mpr leftValue, except_ok_bind, ihRight.mpr rightValue,
              except_ok_bind]
            exact gives.value_eq

/-- A tree has one value at most. -/
theorem HasValue.unique {e : Expr} {v v' : Float} (h : e.HasValue v) (h' : e.HasValue v') :
    v = v' := by
  have same := (evaluate_eq_ok_iff.mpr h).symm.trans (evaluate_eq_ok_iff.mpr h')
  cases same
  rfl

/-- Evaluation gives exactly the first fault of a tree that has one. -/
theorem evaluate_eq_error_iff {e : Expr} {notice : Notice} :
    (∃ fault, e.evaluate = .error fault ∧ fault.notice = notice) ↔ e.FirstFault notice := by
  constructor
  · rintro ⟨fault, h, rfl⟩
    -- The operands are tried in the order in which they are evaluated.
    induction e with
    | number text =>
        obtain ⟨unreadable, rfl⟩ := numeralValue_eq_error_iff.mp h
        exact .number unreadable
    | binary op left right ihLeft ihRight =>
        rw [evaluate_binary] at h
        cases leftValue : left.evaluate with
        | error fault' =>
            rw [leftValue] at h
            cases h
            exact .left (ihLeft leftValue)
        | ok l =>
            rw [leftValue, except_ok_bind] at h
            cases rightValue : right.evaluate with
            | error fault' =>
                rw [rightValue] at h
                cases h
                exact .right (evaluate_eq_ok_iff.mp leftValue) (ihRight rightValue)
            | ok r =>
                rw [rightValue, except_ok_bind] at h
                obtain ⟨rfl, zero, rfl⟩ := Operator.value_eq_error_iff.mp h
                exact .division (evaluate_eq_ok_iff.mp leftValue)
                  (evaluate_eq_ok_iff.mp rightValue) zero
  · intro h
    induction h with
    | @number text unreadable =>
        exact ⟨_, numeralValue_eq_error_iff.mpr ⟨unreadable, rfl⟩, rfl⟩
    | left _ ih =>
        obtain ⟨fault, failed, rfl⟩ := ih
        refine ⟨fault, ?_, rfl⟩
        rw [evaluate_binary, failed, except_error_bind]
    | right leftValue _ ih =>
        obtain ⟨fault, failed, rfl⟩ := ih
        refine ⟨fault, ?_, rfl⟩
        rw [evaluate_binary, evaluate_eq_ok_iff.mpr leftValue, except_ok_bind, failed,
          except_error_bind]
    | @division left right l r leftValue rightValue zero =>
        refine ⟨.divisionByZero l r, ?_, rfl⟩
        rw [evaluate_binary, evaluate_eq_ok_iff.mpr leftValue, except_ok_bind,
          evaluate_eq_ok_iff.mpr rightValue, except_ok_bind]
        exact Operator.value_eq_error_iff.mpr ⟨rfl, zero, rfl⟩

/-! ### The postorder determines the tree -/

/-- A tree has at least one token. -/
theorem postorder_ne_nil (e : Expr) : e.postorder ≠ [] := by
  cases e <;> simp [postorder]

/-- A list that ends with the postorder of a tree ends so in one way only. -/
theorem append_postorder_inj {before before' : List Token} {e e' : Expr}
    (h : before ++ e.postorder = before' ++ e'.postorder) : before = before' ∧ e = e' := by
  -- The last token shows what stands at the top of a tree. Below an operator the right operand
  -- ends the list, and the left one ends what is left of it.
  induction e generalizing before before' e' with
  | number text =>
      cases e' with
      | number text' =>
          obtain ⟨rfl, last⟩ := List.append_inj' h rfl
          cases last
          exact ⟨rfl, rfl⟩
      | binary op' left' right' =>
          have split : before ++ [Token.number text]
              = (before' ++ (left'.postorder ++ right'.postorder)) ++ [.operator op'] := by
            simpa [postorder] using h
          cases (List.append_inj' split rfl).2
  | binary op left right ihLeft ihRight =>
      cases e' with
      | number text' =>
          have split : (before ++ (left.postorder ++ right.postorder)) ++ [.operator op]
              = before' ++ [Token.number text'] := by
            simpa [postorder] using h
          cases (List.append_inj' split rfl).2
      | binary op' left' right' =>
          have split : ((before ++ left.postorder) ++ right.postorder) ++ [Token.operator op]
              = ((before' ++ left'.postorder) ++ right'.postorder) ++ [Token.operator op'] := by
            simpa [postorder] using h
          obtain ⟨operands, last⟩ := List.append_inj' split rfl
          cases last
          obtain ⟨front, rfl⟩ := ihRight operands
          obtain ⟨rfl, rfl⟩ := ihLeft front
          exact ⟨rfl, rfl⟩

/-- Two trees with the same postorder are the same. -/
theorem postorder_injective : Function.Injective postorder := by
  intro e e' same
  have ends : [] ++ e.postorder = [] ++ e'.postorder := same
  exact (append_postorder_inj ends).2

end Expr

/-! ### Counting operands -/

def Token.isNumber : Token → Bool
  | .number _ => true
  | _ => false

def Token.isOperator : Token → Bool
  | .operator _ => true
  | _ => false

/-- How many values the tokens leave if all goes well: a number brings one, and an operator makes
one of two. -/
def depth (tokens : List Token) : Int :=
  tokens.countP Token.isNumber - tokens.countP Token.isOperator

/-- The values that lists leave add up. -/
theorem depth_append (tokens others : List Token) :
    depth (tokens ++ others) = depth tokens + depth others := by
  simp only [depth, List.countP_append, Int.natCast_add]
  omega

/-- The postorder of a tree leaves one value. -/
theorem Expr.depth_postorder (e : Expr) : depth e.postorder = 1 := by
  induction e with
  | number text => rfl
  | binary op left right ihLeft ihRight =>
      have last : depth [Token.operator op] = -1 := rfl
      rw [postorder, depth_append, depth_append, ihLeft, ihRight, last]
      rfl

end InfixCalc
