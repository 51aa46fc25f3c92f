import InfixCalc.Grammar
import InfixCalc.Proofs.Postfix.Yard

/-!
# `InfixCalc.Proofs.Postfix.Arrangement`: what is brought into postfix order, and how

The conversion to postfix order never asks whether an operator has its operands. So it accepts more
than the sentences of infix arithmetic, and `Arranges` says how much more: the grammar stays as it
is, except that in the place of one factor there may be any number of numerals and groups in a
row, or none at all. `Arranges level tokens ordered` says in addition what a phrase of this loose
grammar is arranged into: the numerals stay in order, and an operator follows whatever its two sides
are arranged into.

The main statements:

* `toPostfix_eq_ok_iff`: the conversion succeeds exactly on the loose phrases, and gives what they
  are arranged into.
* `Derives.arranges`: a phrase of the grammar is a loose phrase, and it is arranged into the
  postorder of its tree.

The first direction of `toPostfix_eq_ok_iff` is an induction on the phrase (`run_of_arranges`).
`Yard.Extends` is what it carries: after the phrase the yard holds back some operators of the
phrase, all of them at least as tight as the level, and sending these out completes the arrangement.
The second direction is an invariant of the conversion (`Underway`): what has been read so far is a
phrase of the lowest level, in the middle of a context that explains what is held back
(`Pending`).
-/

set_option autoImplicit false

namespace InfixCalc

/-- An operator joins terms or factors. -/
theorem Operator.isSum_or_isProduct (op : Operator) : op.IsSum ∨ op.IsProduct := by
  cases op <;> decide

/-- No operator joins both. -/
theorem Operator.IsProduct.not_isSum {op : Operator} (isProduct : op.IsProduct) : ¬ op.IsSum := by
  rcases isProduct with rfl | rfl <;> decide

/-- The tokens are a phrase of the level in the loose grammar, and the second list is their postfix
order. The loose grammar differs from the grammar in its factors. In the place of one there may be

- `nothing`: no token at all;
- `number`: a numeral, behind whatever stands there already;
- `group`: a loose sum in parentheses, behind whatever stands there already. -/
inductive Arranges : Level → List Token → List Token → Prop where
  | nothing : Arranges .factor [] []
  | number {tokens ordered : List Token} (text : String)
    (before : Arranges .factor tokens ordered) :
    Arranges .factor (tokens ++ [.number text]) (ordered ++ [.number text])
  | group {tokens ordered inner innerOrdered : List Token}
    (before : Arranges .factor tokens ordered) (inside : Arranges .sum inner innerOrdered) :
    Arranges .factor (tokens ++ .leftParen :: inner ++ [.rightParen]) (ordered ++ innerOrdered)
  | factor {tokens ordered : List Token} (phrase : Arranges .factor tokens ordered) :
    Arranges .term tokens ordered
  | product {tokens others first second : List Token} {op : Operator}
    (isProduct : op.IsProduct) (left : Arranges .term tokens first)
    (right : Arranges .factor others second) :
    Arranges .term (tokens ++ .operator op :: others) (first ++ second ++ [.operator op])
  | term {tokens ordered : List Token} (phrase : Arranges .term tokens ordered) :
    Arranges .sum tokens ordered
  | sum {tokens others first second : List Token} {op : Operator}
    (isSum : op.IsSum) (left : Arranges .sum tokens first)
    (right : Arranges .term others second) :
    Arranges .sum (tokens ++ .operator op :: others) (first ++ second ++ [.operator op])

/-- A phrase of the grammar is arranged into the postorder of its tree. -/
theorem Derives.arranges {level : Level} {tokens : List Token} {e : Expr}
    (phrase : Derives level tokens e) : Arranges level tokens e.postorder := by
  induction phrase with
  | number text => exact .number text .nothing
  | group _ inside => exact .group .nothing inside
  | factor _ ih => exact .factor ih
  | product isProduct _ _ left right => exact .product isProduct left right
  | term _ ih => exact .term ih
  | sum isSum _ _ left right => exact .sum isSum left right

/-! ### A phrase is arranged by the conversion -/

open Yard (LooserOnTop Extends)

/-- How tightly the operators that a level joins its parts with bind in the conversion. Factors are
joined by none, so their number is beyond all operators. -/
def Level.precedence : Level → Nat
  | sum => 1
  | term => 2
  | factor => 3

/-- The operators of a sum bind as tightly as its level. -/
theorem Operator.IsSum.precedence_eq {op : Operator} (isSum : op.IsSum) :
    op.precedence = Level.sum.precedence := by
  rcases isSum with rfl | rfl <;> rfl

/-- The operators of a term bind as tightly as its level. -/
theorem Operator.IsProduct.precedence_eq {op : Operator} (isProduct : op.IsProduct) :
    op.precedence = Level.term.precedence := by
  rcases isProduct with rfl | rfl <;> rfl

/-- Reading the tokens, from any state whose top is looser than the level, adds the list to the
yard. What was sent and held back before is arbitrary, since the parts of a phrase are read on top
of each other. -/
def Reads (level : Level) (tokens ordered : List Token) : Prop :=
  ∀ y : Yard, LooserOnTop level.precedence y.held →
    ∃ later, tokens.foldlM Yard.step y = .ok later ∧ Extends level.precedence ordered y later

namespace Reads

variable {level next : Level} {tokens others first second ordered : List Token} {op : Operator}

/-- What is read at a tighter level is read at a looser one. -/
theorem of_le (le : level.precedence ≤ next.precedence) (h : Reads next tokens ordered) :
    Reads level tokens ordered := by
  intro y loose
  obtain ⟨later, read, added⟩ := h y (loose.mono le)
  exact ⟨later, read, added.mono le⟩

/-- An operator of the level between a phrase of the level and one of a tighter level: it sends the
left phrase out to the last operator, and is itself held back below the right phrase. -/
theorem binary (ofLevel : op.precedence = level.precedence)
    (lt : level.precedence < next.precedence) (left : Reads level tokens first)
    (right : Reads next others second) :
    Reads level (tokens ++ .operator op :: others) (first ++ second ++ [.operator op]) := by
  intro y loose
  obtain ⟨mid, front, before⟩ := left y loose
  -- The operator finds the row of the left phrase and, below it, what was on top before.
  have stepped : mid.step (.operator op)
      = .ok ⟨first.reverse ++ y.sent, .operator op :: y.held⟩ := by
    show Except.ok { Yard.sendTighter op mid.sent mid.held with
      held := .operator op :: (Yard.sendTighter op mid.sent mid.held).held } = _
    rw [before.sendTighter_eq (Nat.le_of_eq ofLevel) (ofLevel ▸ loose)]
  have onTop : LooserOnTop next.precedence (.operator op :: y.held) := by
    show op.precedence < next.precedence
    omega
  obtain ⟨later, back, added⟩ :=
    right ⟨first.reverse ++ y.sent, .operator op :: y.held⟩ onTop
  refine ⟨later, ?_, added.binary (Nat.le_of_eq ofLevel.symm) (Nat.le_of_lt lt)⟩
  rw [foldlM_append_of_ok front, List.foldlM_cons, stepped, except_ok_bind, back]

/-- What stands in the place of a factor leaves nothing held back. -/
theorem run_factor (h : Reads .factor tokens ordered) (y : Yard) :
    tokens.foldlM Yard.step y = .ok ⟨ordered.reverse ++ y.sent, y.held⟩ := by
  obtain ⟨later, read, added⟩ := h y (Yard.looserOnTop_three y.held)
  rw [read, added.eq_of_two_lt (by decide)]

/-- What is sent out whole, with nothing held back, is read in the place of a factor. -/
theorem of_run
    (run : ∀ y : Yard, tokens.foldlM Yard.step y = .ok ⟨ordered.reverse ++ y.sent, y.held⟩) :
    Reads .factor tokens ordered := by
  intro y _
  exact ⟨_, run y, .of_sent _ _ y⟩

end Reads

/-- A loose phrase is read as what it is arranged into. -/
theorem Arranges.reads {level : Level} {tokens ordered : List Token}
    (phrase : Arranges level tokens ordered) : Reads level tokens ordered := by
  induction phrase with
  | nothing => exact .of_run fun y => rfl
  | number text _ before =>
      refine .of_run fun y => ?_
      rw [foldlM_concat_of_ok (before.run_factor y), List.reverse_append]
      rfl
  | @group tokens ordered inner innerOrdered _ _ before inside =>
      refine .of_run fun y => ?_
      -- The group is read above the opening parenthesis, which no operator inside passes.
      obtain ⟨later, read, added⟩ :=
        inside ⟨ordered.reverse ++ y.sent, .leftParen :: y.held⟩ trivial
      have closed : later.step .rightParen
          = .ok ⟨innerOrdered.reverse ++ (ordered.reverse ++ y.sent), y.held⟩ :=
        added.close_eq rfl
      rw [List.append_assoc, foldlM_append_of_ok (before.run_factor y)]
      show (inner ++ [Token.rightParen]).foldlM Yard.step
        ⟨ordered.reverse ++ y.sent, .leftParen :: y.held⟩ = _
      rw [foldlM_concat_of_ok read, closed, List.reverse_append, List.append_assoc]
  | factor _ ih => exact ih.of_le (by decide)
  | product isProduct _ _ left right => exact .binary isProduct.precedence_eq (by decide) left right
  | term _ ih => exact ih.of_le (by decide)
  | sum isSum _ _ left right => exact .binary isSum.precedence_eq (by decide) left right

/-- A loose sum is brought into the order that it is arranged into. -/
theorem toPostfix_of_arranges {tokens ordered : List Token}
    (phrase : Arranges .sum tokens ordered) : toPostfix tokens = .ok ordered := by
  obtain ⟨later, read, added⟩ := phrase.reads Yard.empty trivial
  show (tokens.foldlM Yard.step Yard.empty >>= fun y => Yard.flush y.sent y.held) = _
  rw [read, except_ok_bind, added.flush_eq rfl]
  simp [Yard.empty]

/-! ### The conversion reads nothing but loose phrases -/

/-- Reading has come to a place where a phrase of the level begins: what has been read up to there,
and what is held back. Such a place is

- `start`, the beginning of the list, and `group`, behind an opening parenthesis, for a sum;
- `term`, where a sum begins, and `sum`, behind a sum and `+` or `-`, for a term;
- `factor`, where a term begins, and `product`, behind a term and `*` or `/`, for a factor. -/
inductive Pending : Level → List Token → List Held → Prop where
  | start : Pending .sum [] []
  | group {read tokens ordered : List Token} {held : List Held}
    (context : Pending .factor read held) (phrase : Arranges .factor tokens ordered) :
    Pending .sum (read ++ tokens ++ [.leftParen]) (.leftParen :: held)
  | term {read : List Token} {held : List Held} (context : Pending .sum read held) :
    Pending .term read held
  | sum {read tokens ordered : List Token} {held : List Held} {op : Operator}
    (isSum : op.IsSum) (context : Pending .sum read held)
    (phrase : Arranges .sum tokens ordered) :
    Pending .term (read ++ tokens ++ [.operator op]) (.operator op :: held)
  | factor {read : List Token} {held : List Held} (context : Pending .term read held) :
    Pending .factor read held
  | product {read tokens ordered : List Token} {held : List Held} {op : Operator}
    (isProduct : op.IsProduct) (context : Pending .term read held)
    (phrase : Arranges .term tokens ordered) :
    Pending .factor (read ++ tokens ++ [.operator op]) (.operator op :: held)

/-- Where a phrase begins, the operator on top, if there is one, binds looser than the phrase. -/
theorem Pending.looserOnTop {level : Level} {read : List Token} {held : List Held}
    (h : Pending level read held) : LooserOnTop level.precedence held := by
  induction h with
  | start => trivial
  | group => trivial
  | term _ ih => exact ih.mono (by decide)
  | @sum _ _ _ _ op isSum _ _ _ =>
      show op.precedence < Level.term.precedence
      exact isSum.precedence_eq ▸ (by decide)
  | factor _ ih => exact ih.mono (by decide)
  | @product _ _ _ _ op isProduct _ _ _ =>
      show op.precedence < Level.factor.precedence
      exact isProduct.precedence_eq ▸ (by decide)

/-- What has been read is a phrase of the level behind a place where one begins. At the level of
factors this is the invariant of the conversion. -/
def Underway (level : Level) (read : List Token) (held : List Held) : Prop :=
  ∃ context tokens ordered, read = context ++ tokens ∧ Pending level context held ∧
    Arranges level tokens ordered

namespace Underway

variable {read : List Token} {held : List Held} {op : Operator}

/-- What is read as a factor ends a term, with the operator of a product on top if it is the right
side of one. -/
theorem exists_term (h : Underway .factor read held) :
    ∃ (tops : List Operator) (rest : List Held), held = tops.map .operator ++ rest ∧
      (∀ top ∈ tops, 2 ≤ top.precedence) ∧ Underway .term read rest := by
  obtain ⟨context, tokens, ordered, rfl, pending, phrase⟩ := h
  -- The factor begins a term, or it follows one and `*` or `/` and ends a longer one.
  cases pending with
  | factor pending =>
      exact ⟨[], held, rfl, by simp, context, tokens, ordered, rfl, pending, phrase.factor⟩
  | @product read before _ rest op isProduct pending left =>
      have tight : 2 ≤ op.precedence := Nat.le_of_eq isProduct.precedence_eq.symm
      refine ⟨[op], rest, rfl, by simpa using tight, read, before ++ .operator op :: tokens, _, ?_,
        pending, .product isProduct left phrase⟩
      simp

/-- What is read as a factor ends a sum, with the operators of a product and of a sum on top where
it is their right side. -/
theorem exists_sum (h : Underway .factor read held) :
    ∃ (tops : List Operator) (rest : List Held), held = tops.map .operator ++ rest ∧
      (∀ top ∈ tops, 1 ≤ top.precedence) ∧ Underway .sum read rest := by
  obtain ⟨tops, held', rfl, tight, context, tokens, ordered, rfl, pending, phrase⟩ :=
    h.exists_term
  have tight' : ∀ top ∈ tops, 1 ≤ top.precedence := fun top mem =>
    Nat.le_of_succ_le (tight top mem)
  -- Likewise the term begins a sum, or it ends a longer one.
  cases pending with
  | term pending =>
      exact ⟨tops, held', rfl, tight', context, tokens, ordered, rfl, pending, phrase.term⟩
  | @sum read before _ rest op isSum pending left =>
      refine ⟨tops ++ [op], rest, by simp, ?_, read, before ++ .operator op :: tokens, _, ?_,
        pending, .sum isSum left phrase⟩
      · simpa [isSum.precedence_eq, Level.precedence, or_imp, forall_and] using tight'
      · simp

/-- An operator that comes in sends the tops of its precedence or tighter out, and a phrase of the
next level begins behind it. -/
theorem operator (h : Underway .factor read held) (op : Operator) (sent : List Token) :
    Underway .factor (read ++ [.operator op])
      (.operator op :: (Yard.sendTighter op sent held).held) := by
  -- The operator ends the widest phrase of its level, and that is the row it sends out.
  rcases op.isSum_or_isProduct with isSum | isProduct
  · obtain ⟨tops, rest, rfl, tight, context, tokens, ordered, rfl, pending, phrase⟩ :=
      h.exists_sum
    rw [Yard.sendTighter_append op tops sent (isSum.precedence_eq ▸ tight)
      (isSum.precedence_eq ▸ pending.looserOnTop)]
    exact ⟨_, [], [], (List.append_nil _).symm, (pending.sum isSum phrase).factor, .nothing⟩
  · obtain ⟨tops, rest, rfl, tight, context, tokens, ordered, rfl, pending, phrase⟩ :=
      h.exists_term
    rw [Yard.sendTighter_append op tops sent (isProduct.precedence_eq ▸ tight)
      (isProduct.precedence_eq ▸ pending.looserOnTop)]
    exact ⟨_, [], [], (List.append_nil _).symm, pending.product isProduct phrase, .nothing⟩

/-- A closing parenthesis that is not refused makes a group of the loose sum behind the latest
opening one. -/
theorem rightParen {sent : List Token} {y : Yard} (h : Underway .factor read held)
    (closed : Yard.close sent held = .ok y) : Underway .factor (read ++ [.rightParen]) y.held := by
  obtain ⟨tops, rest, rfl, -, context, tokens, ordered, rfl, pending, phrase⟩ := h.exists_sum
  cases pending with
  | start =>
      -- No parenthesis is open, so this one would have been refused.
      rw [List.append_nil, Yard.close_map_operator] at closed
      cases closed
  | @group outer before _ rest pending left =>
      rw [Yard.close_append_leftParen] at closed
      cases closed
      exact ⟨outer, before ++ .leftParen :: tokens ++ [.rightParen], _, by simp, pending,
        .group left phrase⟩

/-- Every step of the conversion keeps the invariant. -/
theorem step {y y' : Yard} {x : Token} (h : Underway .factor read y.held)
    (stepped : y.step x = .ok y') : Underway .factor (read ++ [x]) y'.held := by
  cases x with
  | number text =>
      cases stepped
      obtain ⟨context, tokens, ordered, rfl, pending, phrase⟩ := h
      exact ⟨context, tokens ++ [.number text], _, by simp, pending, phrase.number text⟩
  | operator op =>
      cases stepped
      exact h.operator op y.sent
  | leftParen =>
      cases stepped
      -- An opening parenthesis leaves the phrase for later and begins one of its own.
      obtain ⟨context, tokens, ordered, rfl, pending, phrase⟩ := h
      exact ⟨_, [], [], (List.append_nil _).symm, (pending.group phrase).term.factor, .nothing⟩
  | rightParen => exact h.rightParen stepped
  | foreign object => cases stepped

/-- If everything that is held back can be sent out, what has been read is a loose sum. -/
theorem arranges_of_flush {sent ordered : List Token} (h : Underway .factor read held)
    (flushed : Yard.flush sent held = .ok ordered) : ∃ list, Arranges .sum read list := by
  obtain ⟨tops, rest, rfl, -, context, tokens, list, rfl, pending, phrase⟩ := h.exists_sum
  cases pending with
  | start => exact ⟨list, phrase⟩
  | group =>
      -- A parenthesis is still open, and the end would have been refused.
      rw [Yard.flush_append_leftParen] at flushed
      cases flushed

end Underway

/-- Whatever has been read without a fault is underway. -/
theorem underway_of_run {read : List Token} {y : Yard}
    (run : read.foldlM Yard.step Yard.empty = .ok y) : Underway .factor read y.held :=
  foldlM_ok_induction (fun read (y : Yard) => Underway .factor read y.held)
    ⟨[], [], [], rfl, Pending.start.term.factor, .nothing⟩ (fun _ _ _ _ => Underway.step) run

/-- The conversion succeeds exactly on the loose sums, and gives what they are arranged into. -/
theorem toPostfix_eq_ok_iff {tokens ordered : List Token} :
    toPostfix tokens = .ok ordered ↔ Arranges .sum tokens ordered := by
  refine ⟨fun h => ?_, toPostfix_of_arranges⟩
  obtain ⟨y, run, flushed⟩ := (except_bind_eq_ok_iff _ _ _).mp h
  obtain ⟨list, phrase⟩ := (underway_of_run run).arranges_of_flush flushed
  -- The arrangement of the phrase is what the conversion gives, so it is the one at hand.
  have same := (toPostfix_of_arranges phrase).symm.trans h
  cases same
  exact phrase

end InfixCalc
