import InfixCalc.Proofs.Postfix.Sentence

/-!
# `InfixCalc.Proofs.Postfix.Unfinished`: what a phrase that is not finished lacks

The front part of a sentence is a list of tokens in which all neighbours fit. What it can still lack
is at its end: an operand behind the last operator, or parentheses for the groups that are open. No
stage looks for either. The conversion to postfix order fails only for an open group, because the
opening parenthesis is still held back at the end; and a missing operand only shows in the count
of values, since the number of operands and the number of operators of such a list tell how it ends.

The main statements:

* `count_leftParen_held`: the parentheses that are held back are those read and not yet closed.
* `depth_of_isChain`: if all neighbours fit, the depth of a list tells whether an operand has just
  ended.
* `isSentence_of_run`: a list of which all neighbours fit and of which the conversion has read every
  token is a sentence, unless it is empty, ends with an operator or has a group open.
* `Arranges.isSentence_of_postorder`: a list of which all neighbours fit and that is arranged into
  the postorder of a tree is a sentence.
-/

set_option autoImplicit false

namespace InfixCalc

/-! ### Open groups -/

namespace Yard

/-- An operator leaves all groups open. -/
theorem count_leftParen_sendTighter (op : Operator) (sent : List Token) (held : List Held) :
    (sendTighter op sent held).held.count .leftParen = held.count .leftParen := by
  fun_induction sendTighter op sent held with
  | case1 sent top rest tight ih => simpa using ih
  | case2 => rfl
  | case3 => rfl

/-- A closing parenthesis closes one group. -/
theorem count_leftParen_close {sent : List Token} {held : List Held} {y : Yard}
    (closed : close sent held = .ok y) :
    y.held.count .leftParen + 1 = held.count .leftParen := by
  fun_induction close sent held with
  | case1 sent top rest ih => simpa using ih closed
  | case2 =>
      cases closed
      simp
  | case3 => cases closed

/-- A step opens a group, closes one, or leaves their number as it is. -/
theorem count_leftParen_step {y y' : Yard} {x : Token} (stepped : y.step x = .ok y') :
    y'.held.count .leftParen + [x].count .rightParen
      = y.held.count .leftParen + [x].count .leftParen := by
  cases x with
  | number text =>
      cases stepped
      simp [send]
  | operator op =>
      cases stepped
      simp [count_leftParen_sendTighter]
  | leftParen =>
      cases stepped
      simp
  | rightParen => simpa using count_leftParen_close stepped
  | foreign object => cases stepped

/-- The parentheses that are held back are those that have been read and not been closed. -/
theorem count_leftParen_held {read : List Token} {y : Yard}
    (run : read.foldlM step empty = .ok y) :
    y.held.count .leftParen + read.count .rightParen = read.count .leftParen := by
  refine foldlM_ok_induction (fun read (y : Yard) =>
    y.held.count .leftParen + read.count .rightParen = read.count .leftParen) rfl ?_ run
  intro read y x y' counts stepped
  have step := count_leftParen_step stepped
  rw [List.count_append, List.count_append]
  omega

/-- Without a parenthesis everything that is held back can be sent out. -/
theorem exists_flush_eq_ok (sent : List Token) {held : List Held}
    (none : held.count .leftParen = 0) : ∃ ordered, flush sent held = .ok ordered := by
  fun_induction flush sent held with
  | case1 sent top rest ih => exact ih (by simpa using none)
  | case2 => simp at none
  | case3 => exact ⟨_, rfl⟩

end Yard

/-- What has been read without a group left open is a loose sum. -/
theorem exists_arranges_of_run {read : List Token} {y : Yard}
    (run : read.foldlM Yard.step Yard.empty = .ok y)
    (closed : ¬ read.count .rightParen < read.count .leftParen) :
    ∃ ordered, Arranges .sum read ordered := by
  have counts := Yard.count_leftParen_held run
  have none : y.held.count .leftParen = 0 := by omega
  obtain ⟨ordered, flushed⟩ := Yard.exists_flush_eq_ok y.sent none
  refine ⟨ordered, toPostfix_eq_ok_iff.mp ?_⟩
  show (read.foldlM Yard.step Yard.empty >>= fun y => Yard.flush y.sent y.held) = _
  rw [run, except_ok_bind, flushed]

/-- In a loose phrase every group is closed. -/
theorem Arranges.count_eq {level : Level} {tokens ordered : List Token}
    (phrase : Arranges level tokens ordered) :
    tokens.count .leftParen = tokens.count .rightParen := by
  induction phrase with
  | nothing => rfl
  | number text _ ih => simpa using ih
  | group _ _ before inside =>
      simp
      omega
  | factor _ ih => exact ih
  | product _ _ _ left right => simp [left, right]
  | term _ ih => exact ih
  | sum _ _ _ left right => simp [left, right]

/-- Postfix order holds numbers and operators only. -/
theorem Arranges.all_isNumber_or_isOperator {level : Level} {tokens ordered : List Token}
    (phrase : Arranges level tokens ordered) :
    ordered.all (fun token => token.isNumber || token.isOperator) = true := by
  induction phrase with
  | nothing => rfl
  | number text _ ih => simp only [List.all_append, ih]; rfl
  | group _ _ before inside => simp only [List.all_append, before, inside]; rfl
  | factor _ ih => exact ih
  | product _ _ _ left right => simp only [List.all_append, left, right]; rfl
  | term _ ih => exact ih
  | sum _ _ _ left right => simp only [List.all_append, left, right]; rfl

/-- The conversion keeps the numbers, and their order. -/
theorem Arranges.filter_isNumber {level : Level} {tokens ordered : List Token}
    (phrase : Arranges level tokens ordered) :
    ordered.filter Token.isNumber = tokens.filter Token.isNumber := by
  induction phrase with
  | nothing => rfl
  | number text _ ih => simp [List.filter_append, ih]
  | group _ _ before inside => simp [List.filter_append, before, inside, Token.isNumber]
  | factor _ ih => exact ih
  | product _ _ _ left right => simp [List.filter_append, left, right, Token.isNumber]
  | term _ ih => exact ih
  | sum _ _ _ left right => simp [List.filter_append, left, right, Token.isNumber]

/-! ### Missing operands -/

/-- Nothing is lost on the way into postfix order that the depth counts. -/
theorem Arranges.depth_eq {level : Level} {tokens ordered : List Token}
    (phrase : Arranges level tokens ordered) : depth ordered = depth tokens := by
  have cons (x : Token) (list : List Token) : depth (x :: list) = depth [x] + depth list :=
    depth_append [x] list
  have left : depth [Token.leftParen] = 0 := rfl
  have right : depth [Token.rightParen] = 0 := rfl
  -- Numbers count one and operators minus one, wherever they go; parentheses count nothing.
  induction phrase with
  | nothing => rfl
  | number text _ ih => rw [depth_append, depth_append, ih]
  | @group tokens ordered inner innerOrdered _ _ before inside =>
      rw [depth_append, depth_append, depth_append, cons, before, inside, left, right]
      omega
  | factor _ ih => exact ih
  | @product _ others _ _ op _ _ _ first second =>
      rw [depth_append, depth_append, depth_append, cons _ others, first, second]
      omega
  | term _ ih => exact ih
  | @sum _ others _ _ op _ _ _ first second =>
      rw [depth_append, depth_append, depth_append, cons _ others, first, second]
      omega

/-- A token that fits changes the depth exactly if it changes whether an operand has just ended. -/
theorem Token.Fits.depth_eq {x y : Token} (fits : Token.Fits x y)
    (noForeign : ∀ object, y ≠ .foreign object) :
    depth [y] + x.endsOperand.toNat = y.endsOperand.toNat := by
  unfold Token.Fits at fits
  cases y with
  | foreign object => exact absurd rfl (noForeign object)
  | _ => cases ends : x.endsOperand <;> simp_all [depth, beginsOperand, endsOperand, isNumber,
      isOperator]

/-- If all neighbours fit, the depth of a list tells whether an operand ends with it. -/
theorem depth_of_isChain {x last : Token} {front : List Token}
    (noForeign : ∀ object, Token.foreign object ∉ front ++ [last])
    (chain : (x :: (front ++ [last])).IsChain Token.Fits) :
    depth (front ++ [last]) + x.endsOperand.toNat = last.endsOperand.toNat := by
  induction front generalizing x with
  | nil =>
      have fits : Token.Fits x last := List.isChain_pair.mp chain
      exact fits.depth_eq fun object same => noForeign object (by simp [same])
  | cons y front ih =>
      rw [List.cons_append, List.isChain_cons_cons] at chain
      obtain ⟨fits, chain⟩ := chain
      have first := fits.depth_eq fun object same => noForeign object (by simp [same])
      have rest := ih (fun object mem => noForeign object (List.mem_cons_of_mem _ mem)) chain
      -- The first token and the rest are counted apart, and in between the state is that of the
      -- first.
      have split : depth (y :: front ++ [last]) = depth [y] + depth (front ++ [last]) :=
        depth_append [y] _
      rw [split]
      omega

/-! ### What is missing at the end -/

/-- A loose sum in which all neighbours fit and whose last token ends an operand is a sentence. -/
theorem Arranges.isSentence_of_endsOperand {front ordered : List Token} {last : Token}
    (phrase : Arranges .sum (front ++ [last]) ordered)
    (chain : (Token.leftParen :: (front ++ [last])).IsChain Token.Fits)
    (ends : last.endsOperand = true) : IsSentence (front ++ [last]) := by
  have fits : Token.Fits last .rightParen := by simp [Token.Fits, Token.beginsOperand, ends]
  have whole : (Token.leftParen :: front ++ last :: [Token.rightParen]).IsChain Token.Fits :=
    List.isChain_append_cons_cons.mpr ⟨chain, fits, .singleton _⟩
  exact phrase.isSentence_iff.mpr (by simpa [InfixPlaced] using whole)

/-- Tokens that have been read, and of which all neighbours fit, are a sentence unless something
is missing: there are none, the last one is an operator, or a group is open. -/
theorem isSentence_of_run {read : List Token} {y : Yard}
    (run : read.foldlM Yard.step Yard.empty = .ok y)
    (chain : (Token.leftParen :: read).IsChain Token.Fits) (nonempty : read ≠ [])
    (noOperator : ∀ op, read.getLast? ≠ some (.operator op))
    (closed : ¬ read.count .rightParen < read.count .leftParen) : IsSentence read := by
  obtain ⟨ordered, phrase⟩ := exists_arranges_of_run run closed
  obtain ⟨front, last, rfl⟩ := (List.eq_nil_or_concat' read).resolve_left nonempty
  refine phrase.isSentence_of_endsOperand chain ?_
  rw [List.foldlM_append] at run
  obtain ⟨mid, before, behind⟩ := (except_bind_eq_ok_iff _ _ _).mp run
  cases last with
  | number text => rfl
  | rightParen => rfl
  | operator op => exact absurd (by simp) (noOperator op)
  | leftParen =>
      -- As the last token it opens a group that is not closed.
      have counts := Yard.count_leftParen_held before
      simp at closed
      omega
  | foreign object => cases behind

/-- If all neighbours fit, a list that is arranged into the postorder of a tree is a sentence: its
depth is that of the tree, and so an operand ends with it. -/
theorem Arranges.isSentence_of_postorder {tokens : List Token} {e : Expr}
    (phrase : Arranges .sum tokens e.postorder)
    (noForeign : ∀ object, Token.foreign object ∉ tokens)
    (chain : (Token.leftParen :: tokens).IsChain Token.Fits) : IsSentence tokens := by
  have one : depth tokens = 1 := by rw [← phrase.depth_eq, e.depth_postorder]
  rcases List.eq_nil_or_concat' tokens with rfl | ⟨front, last, rfl⟩
  · cases one
  · refine phrase.isSentence_of_endsOperand chain ?_
    have height := depth_of_isChain noForeign chain
    rw [one] at height
    -- With no operand at its end the list would have the depth zero.
    cases ends : last.endsOperand with
    | true => rfl
    | false =>
        rw [ends] at height
        cases height

end InfixCalc
