import InfixCalc.Postfix
import InfixCalc.Proofs.Fold

/-!
# `InfixCalc.Proofs.Postfix.Yard`: sending out a row of held operators

Three operations of the yard send operators out from the top of what is held back: an operator that
comes in (`Yard.sendTighter`), a closing parenthesis (`Yard.close`) and the end of the list
(`Yard.flush`). They differ in where they stop. Each lemma here takes what is held back apart into
the row of operators on top that leaves and the rest where the operation stops, and says that the
row leaves topmost first.

`Yard.Extends` relates two states of the yard: the later one has, above what the earlier one held
back, a row of operators of at least a given precedence, and once the row is sent out, exactly the
given list has been sent since. It is what reading a phrase does to the yard.
-/

set_option autoImplicit false

namespace InfixCalc

/-- There are two precedences. -/
theorem Operator.precedence_eq (op : Operator) : op.precedence = 1 ∨ op.precedence = 2 := by
  cases op <;> simp [Operator.precedence]

namespace Yard

/-- The operator on top, if there is one, binds looser than the bound. Then an operator of this
precedence sends nothing out. -/
def LooserOnTop (bound : Nat) : List Held → Prop
  | .operator top :: _ => top.precedence < bound
  | _ => True

/-- What is looser than a bound is looser than a greater one. -/
theorem LooserOnTop.mono {bound bound' : Nat} {held : List Held} (le : bound ≤ bound')
    (loose : LooserOnTop bound held) : LooserOnTop bound' held := by
  match held with
  | [] => trivial
  | .leftParen :: _ => trivial
  | .operator _ :: _ => exact Nat.lt_of_lt_of_le loose le

/-- Every operator binds looser than 3. -/
theorem looserOnTop_three (held : List Held) : LooserOnTop 3 held := by
  match held with
  | [] => trivial
  | .leftParen :: _ => trivial
  | .operator top :: _ =>
      have := top.precedence_eq
      show top.precedence < 3
      omega

/-- An operator sends out a row of operators that bind at least as tightly, if what follows does
not. -/
theorem sendTighter_append (op : Operator) (tops : List Operator) (sent : List Token)
    {held : List Held} (tight : ∀ top ∈ tops, op.precedence ≤ top.precedence)
    (loose : LooserOnTop op.precedence held) :
    sendTighter op sent (tops.map .operator ++ held)
      = ⟨(tops.map .operator).reverse ++ sent, held⟩ := by
  induction tops generalizing sent with
  | nil =>
      -- The row is empty, and what is on top stays where it is.
      match held with
      | [] => rfl
      | .leftParen :: _ => rfl
      | .operator top :: rest =>
          show sendTighter op sent (.operator top :: rest) = ⟨sent, .operator top :: rest⟩
          rw [sendTighter, if_neg (Nat.not_le.mpr loose)]
  | cons top tops ih =>
      rw [List.map_cons, List.cons_append, sendTighter,
        if_pos (tight top List.mem_cons_self),
        ih _ fun top' mem => tight top' (List.mem_cons_of_mem _ mem)]
      simp

/-- A closing parenthesis sends out the row of operators down to an opening one, and takes that
away. -/
theorem close_append_leftParen (tops : List Operator) (sent : List Token) (held : List Held) :
    close sent (tops.map .operator ++ .leftParen :: held)
      = .ok ⟨(tops.map .operator).reverse ++ sent, held⟩ := by
  induction tops generalizing sent with
  | nil => rfl
  | cons top tops ih =>
      rw [List.map_cons, List.cons_append, close, ih]
      simp

/-- A closing parenthesis with nothing but operators before it has no partner. -/
theorem close_map_operator (tops : List Operator) (sent : List Token) :
    close sent (tops.map .operator) = .error .unmatchedRight := by
  induction tops generalizing sent with
  | nil => rfl
  | cons top tops ih =>
      rw [List.map_cons, close, ih]

/-- At the end a row of operators is sent out from its top to its bottom. -/
theorem flush_map_operator (tops : List Operator) (sent : List Token) :
    flush sent (tops.map .operator) = .ok ((tops.map Token.operator).reverse ++ sent).reverse := by
  induction tops generalizing sent with
  | nil => rfl
  | cons top tops ih =>
      rw [List.map_cons, flush, ih]
      simp

/-- An opening parenthesis that is held back at the end has no partner. -/
theorem flush_append_leftParen (tops : List Operator) (sent : List Token) (held : List Held) :
    flush sent (tops.map .operator ++ .leftParen :: held) = .error .unmatchedLeft := by
  induction tops generalizing sent with
  | nil => rfl
  | cons top tops ih =>
      rw [List.map_cons, List.cons_append, flush, ih]

/-- A closing parenthesis is refused for one reason only. -/
theorem eq_unmatchedRight_of_close {sent : List Token} {held : List Held} {e : CalcError}
    (h : close sent held = .error e) : e = .unmatchedRight := by
  fun_induction close sent held with
  | case1 _ _ _ ih => exact ih h
  | case2 => cases h
  | case3 => cases h; rfl

/-- So is the end. -/
theorem eq_unmatchedLeft_of_flush {sent : List Token} {held : List Held} {e : CalcError}
    (h : flush sent held = .error e) : e = .unmatchedLeft := by
  fun_induction flush sent held with
  | case1 _ _ _ ih => exact ih h
  | case2 => cases h; rfl
  | case3 => cases h

/-- A step is refused for an unmatched closing parenthesis or for a foreign object. -/
theorem eq_of_step_eq_error {y : Yard} {x : Token} {e : CalcError} (h : y.step x = .error e) :
    e = .unmatchedRight ∨ ∃ object, x = .foreign object := by
  cases x with
  | number text => cases h
  | operator op => cases h
  | leftParen => cases h
  | rightParen => exact .inl (eq_unmatchedRight_of_close h)
  | foreign object => exact .inr ⟨object, rfl⟩

/-! ### What reading a phrase adds -/

/-- The later state holds back a row of operators of the bound or tighter above what the earlier one
held back; with the row sent out, the list has been sent since. -/
def Extends (bound : Nat) (ordered : List Token) (y later : Yard) : Prop :=
  ∃ tops : List Operator, (∀ top ∈ tops, bound ≤ top.precedence) ∧
    later.held = tops.map .operator ++ y.held ∧
    (tops.map .operator).reverse ++ later.sent = ordered.reverse ++ y.sent

namespace Extends

variable {bound bound' : Nat} {ordered first second : List Token} {y later : Yard} {op : Operator}

/-- What has been sent out at once leaves no row behind. -/
theorem of_sent (bound : Nat) (ordered : List Token) (y : Yard) :
    Extends bound ordered y ⟨ordered.reverse ++ y.sent, y.held⟩ :=
  ⟨[], by simp, rfl, rfl⟩

/-- A row that is tight enough for a bound is tight enough for a lower one. -/
theorem mono (le : bound ≤ bound') (h : Extends bound' ordered y later) :
    Extends bound ordered y later := by
  obtain ⟨tops, tight, held, sent⟩ := h
  exact ⟨tops, fun top mem => Nat.le_trans le (tight top mem), held, sent⟩

/-- No operator is tighter than all: beyond the precedences everything has been sent. -/
theorem eq_of_two_lt (beyond : 2 < bound) (h : Extends bound ordered y later) :
    later = ⟨ordered.reverse ++ y.sent, y.held⟩ := by
  obtain ⟨tops, tight, held, sent⟩ := h
  cases tops with
  | nil =>
      cases later
      simp_all
  | cons top _ =>
      -- An operator of the row would bind tighter than any there is.
      have least := tight top List.mem_cons_self
      have := top.precedence_eq
      omega

/-- An operator that binds no tighter than the row sends all of it out. -/
theorem sendTighter_eq (h : Extends bound ordered y later) (le : op.precedence ≤ bound)
    (loose : LooserOnTop op.precedence y.held) :
    sendTighter op later.sent later.held = ⟨ordered.reverse ++ y.sent, y.held⟩ := by
  obtain ⟨tops, tight, held, sent⟩ := h
  rw [held, sendTighter_append op tops _ (fun top mem => Nat.le_trans le (tight top mem)) loose,
    sent]

/-- A closing parenthesis sends all of the row out if an opening one lies below it. -/
theorem close_eq {held : List Held} (h : Extends bound ordered y later)
    (opened : y.held = .leftParen :: held) :
    close later.sent later.held = .ok ⟨ordered.reverse ++ y.sent, held⟩ := by
  obtain ⟨tops, -, above, sent⟩ := h
  rw [above, opened, close_append_leftParen, sent]

/-- The end of the list sends all of the row out if nothing lies below it. -/
theorem flush_eq (h : Extends bound ordered y later) (last : y.held = []) :
    flush later.sent later.held = .ok (ordered.reverse ++ y.sent).reverse := by
  obtain ⟨tops, -, above, sent⟩ := h
  rw [above, last, List.append_nil, flush_map_operator, sent]

/-- An operator that is held back above everything, and what its right side adds, together add its
left side, its right side and the operator. -/
theorem binary (le : bound ≤ op.precedence) (le' : bound ≤ bound')
    (right : Extends bound' second ⟨first.reverse ++ y.sent, .operator op :: y.held⟩ later) :
    Extends bound (first ++ second ++ [.operator op]) y later := by
  obtain ⟨tops, tight, held, sent⟩ := right
  -- The operator is held back right below the row of its right side, so it leaves last.
  refine ⟨tops ++ [op], ?_, ?_, ?_⟩
  · intro top mem
    rcases List.mem_append.mp mem with mem | mem
    · exact Nat.le_trans le' (tight top mem)
    · cases List.mem_singleton.mp mem
      exact le
  · simpa using held
  · simpa using sent

end Extends

end Yard

/-- Without foreign objects the conversion fails on parentheses only. -/
theorem kind_of_toPostfix_eq_error {tokens : List Token} {e : CalcError}
    (noForeign : ∀ object, Token.foreign object ∉ tokens) (h : toPostfix tokens = .error e) :
    e.kind = .mismatchedParens := by
  unfold toPostfix at h
  cases run : tokens.foldlM Yard.step Yard.empty with
  | ok y =>
      rw [run, except_ok_bind] at h
      rw [Yard.eq_unmatchedLeft_of_flush h]
      rfl
  | error e' =>
      rw [run] at h
      cases h
      -- What the run fails with is what the step at the first refused token fails with.
      obtain ⟨before, x, after, mid, rfl, -, refused⟩ := foldlM_eq_error_iff.mp run
      rcases Yard.eq_of_step_eq_error refused with rfl | ⟨object, rfl⟩
      · rfl
      · exact absurd (by simp) (noForeign object)

end InfixCalc
