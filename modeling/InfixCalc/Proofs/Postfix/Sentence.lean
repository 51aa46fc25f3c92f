import InfixCalc.Proofs.Expr
import InfixCalc.Proofs.Postfix.Arrangement
import Mathlib.Data.List.Chain

/-!
# `InfixCalc.Proofs.Postfix.Sentence`: the sentences among what is brought into postfix order

A sentence is brought into the postorder of its tree (`toPostfix_of_derives`). Since a postorder
belongs to one tree, a list of tokens is a sentence with one tree at most (`Derives.unique`).

The conversion also accepts lists that are no sentences. What sets the sentences apart is which
tokens stand side by side: an operand begins exactly where none has just ended (`InfixPlaced`).
Among the lists that the conversion accepts, the sentences are those in which all neighbours fit
(`Arranges.isSentence_iff`).
-/

set_option autoImplicit false

namespace InfixCalc

/-- A sentence is brought into the postorder of its tree. In particular three factors with two
operators between them are grouped to the left, unless the first operator is `+` or `-` and the
second one `*` or `/`. -/
theorem toPostfix_of_derives :
    (∀ (tokens : List Token) (e : Expr), Derives .sum tokens e →
      toPostfix tokens = .ok e.postorder) ∧
    ∀ (first second third : List Token) (a b c : Expr) (p q : Operator),
      Derives .factor first a → Derives .factor second b → Derives .factor third c →
      toPostfix (first ++ .operator p :: second ++ .operator q :: third)
        = .ok (if p.IsSum ∧ q.IsProduct then Expr.binary p a (.binary q b c)
            else Expr.binary q (.binary p a b) c).postorder := by
  have main : ∀ (tokens : List Token) (e : Expr), Derives .sum tokens e →
      toPostfix tokens = .ok e.postorder := fun tokens e sentence =>
    toPostfix_of_arranges sentence.arranges
  refine ⟨main, fun first second third a b c p q isA isB isC => main _ _ ?_⟩
  -- The tree of three factors is the one that the grammar derives, in each mixture of operators.
  rcases p.isSum_or_isProduct with isSum | isProduct
  · rcases q.isSum_or_isProduct with isSum' | isProduct'
    · rw [if_neg fun both => both.2.not_isSum isSum']
      exact .sum isSum' (.sum isSum (.term (.factor isA)) (.factor isB)) (.factor isC)
    · rw [if_pos ⟨isSum, isProduct'⟩, List.append_assoc, List.cons_append]
      exact .sum isSum (.term (.factor isA)) (.product isProduct' (.factor isB) isC)
  · rw [if_neg fun both => isProduct.not_isSum both.1]
    rcases q.isSum_or_isProduct with isSum' | isProduct'
    · exact .sum isSum' (.term (.product isProduct (.factor isA) isB)) (.factor isC)
    · exact .term (.product isProduct' (.product isProduct (.factor isA) isB) isC)

/-- `8-(3-2)*4` as a sentence, and as three factors of which the second is a group. -/
theorem toPostfix_of_derives_group :
    (Derives .sum [.number "8", .operator .subtract, .leftParen, .number "3", .operator .subtract,
        .number "2", .rightParen, .operator .multiply, .number "4"]
      (.binary .subtract (.number "8")
        (.binary .multiply (.binary .subtract (.number "3") (.number "2")) (.number "4"))) ∧
    toPostfix [.number "8", .operator .subtract, .leftParen, .number "3", .operator .subtract,
        .number "2", .rightParen, .operator .multiply, .number "4"]
      = .ok [.number "8", .number "3", .number "2", .operator .subtract, .number "4",
        .operator .multiply, .operator .subtract]) ∧
    Derives .factor [.number "8"] (.number "8") ∧
    Derives .factor [.leftParen, .number "3", .operator .subtract, .number "2", .rightParen]
      (.binary .subtract (.number "3") (.number "2")) ∧
    Derives .factor [.number "4"] (.number "4") ∧
    toPostfix ([.number "8"] ++ .operator .subtract :: [.leftParen, .number "3",
        .operator .subtract, .number "2", .rightParen] ++ .operator .multiply :: [.number "4"])
      = .ok (Expr.binary .subtract (.number "8")
        (.binary .multiply (.binary .subtract (.number "3") (.number "2"))
          (.number "4"))).postorder := by
  have group : Derives .factor
      [.leftParen, .number "3", .operator .subtract, .number "2", .rightParen]
      (.binary .subtract (.number "3") (.number "2")) :=
    .group (.sum (.inr rfl) (.term (.factor (.number "3"))) (.factor (.number "2")))
  have sentence : Derives .sum [.number "8", .operator .subtract, .leftParen, .number "3",
      .operator .subtract, .number "2", .rightParen, .operator .multiply, .number "4"]
      (.binary .subtract (.number "8")
        (.binary .multiply (.binary .subtract (.number "3") (.number "2")) (.number "4"))) :=
    .sum (.inr rfl) (.term (.factor (.number "8")))
      (.product (.inl rfl) (.factor group) (.number "4"))
  exact ⟨⟨sentence, toPostfix_of_derives.1 _ _ sentence⟩, .number "8", group, .number "4",
    toPostfix_of_derives.2 _ _ _ _ _ _ .subtract .multiply (.number "8") group (.number "4")⟩

/-- A list of tokens is a sentence with one tree at most. -/
theorem Derives.unique {tokens : List Token} {e e' : Expr} (h : Derives .sum tokens e)
    (h' : Derives .sum tokens e') : e = e' := by
  have same := (toPostfix_of_arranges h.arranges).symm.trans (toPostfix_of_arranges h'.arranges)
  exact Expr.postorder_injective (Except.ok.inj same)

/-! ### Which tokens stand side by side -/

def Token.beginsOperand : Token → Bool
  | .number _ => true
  | .leftParen => true
  | _ => false

def Token.endsOperand : Token → Bool
  | .number _ => true
  | .rightParen => true
  | _ => false

/-- The second token may follow the first: an operand begins exactly if none has just ended. -/
def Token.Fits (x y : Token) : Prop :=
  y.beginsOperand = !x.endsOperand

instance : DecidableRel Token.Fits := fun x y =>
  inferInstanceAs (Decidable (y.beginsOperand = !x.endsOperand))

/-- All neighbours fit. The list as a whole stands where an operand does, as if in parentheses. -/
def InfixPlaced (tokens : List Token) : Prop :=
  (Token.leftParen :: tokens ++ [Token.rightParen]).IsChain Token.Fits

instance (tokens : List Token) : Decidable (InfixPlaced tokens) :=
  inferInstanceAs (Decidable ((Token.leftParen :: tokens ++ [Token.rightParen]).IsChain Token.Fits))

/-- The neighbours in an operator with two sides are those of each side. -/
theorem isChain_binary_iff {x y : Token} {op : Operator} {tokens others : List Token} :
    (x :: (tokens ++ Token.operator op :: others) ++ [y]).IsChain Token.Fits ↔
      (x :: tokens ++ [Token.operator op]).IsChain Token.Fits ∧
        (Token.operator op :: others ++ [y]).IsChain Token.Fits := by
  have parts : x :: (tokens ++ Token.operator op :: others) ++ [y]
      = (x :: tokens) ++ Token.operator op :: (others ++ [y]) := by
    simp
  rw [parts, List.isChain_split]
  rfl

/-- In a phrase of the grammar all neighbours fit, between any token that ends no operand and any
that begins none. -/
theorem Derives.isChain {level : Level} {tokens : List Token} {e : Expr}
    (phrase : Derives level tokens e) {x y : Token} (before : x.endsOperand = false)
    (behind : y.beginsOperand = false) : (x :: tokens ++ [y]).IsChain Token.Fits := by
  -- The neighbours of a phrase may be any, so that those of its parts can be put in: a parenthesis
  -- or an operator.
  induction phrase generalizing x y with
  | number text =>
      have first : Token.Fits x (.number text) := by simp [Token.Fits, Token.beginsOperand, before]
      have last : Token.Fits (.number text) y := by simp [Token.Fits, Token.endsOperand, behind]
      exact .cons_cons first (.cons_cons last (.singleton y))
  | @group tokens e _ inside =>
      have first : Token.Fits x .leftParen := by simp [Token.Fits, Token.beginsOperand, before]
      have last : Token.Fits .rightParen y := by simp [Token.Fits, Token.endsOperand, behind]
      have whole : (Token.leftParen :: tokens ++ Token.rightParen :: [y]).IsChain Token.Fits :=
        List.isChain_split.mpr ⟨inside rfl rfl, .cons_cons last (.singleton y)⟩
      have parts : x :: (Token.leftParen :: tokens ++ [.rightParen]) ++ [y]
          = x :: (Token.leftParen :: tokens ++ Token.rightParen :: [y]) := by
        simp
      rw [parts]
      exact .cons_cons first whole
  | factor _ ih => exact ih before behind
  | product _ _ _ left right =>
      exact isChain_binary_iff.mpr ⟨left before rfl, right rfl behind⟩
  | term _ ih => exact ih before behind
  | sum _ _ _ left right =>
      exact isChain_binary_iff.mpr ⟨left before rfl, right rfl behind⟩

/-- In a sentence, with its two ends for neighbours, all neighbours fit. -/
theorem IsSentence.infixPlaced {tokens : List Token} (h : IsSentence tokens) :
    InfixPlaced tokens := by
  obtain ⟨e, sentence⟩ := h
  exact sentence.isChain rfl rfl

/-- What stands in the place of a factor ends an operand, if it is not empty. -/
theorem Arranges.endsOperand {tokens ordered : List Token}
    (phrase : Arranges .factor tokens ordered) :
    tokens = [] ∨ ∃ init last, tokens = init ++ [last] ∧ last.endsOperand = true := by
  cases phrase with
  | nothing => exact .inl rfl
  | @number tokens _ text _ => exact .inr ⟨tokens, .number text, rfl, rfl⟩
  | @group tokens _ inner _ _ _ =>
      exact .inr ⟨tokens ++ .leftParen :: inner, .rightParen, rfl, rfl⟩

/-- If the neighbours fit, nothing stands in the place of a factor in front of an operand that
begins. -/
theorem Arranges.eq_nil_of_isChain {tokens ordered rest : List Token} {x y : Token}
    (phrase : Arranges .factor tokens ordered) (begins : y.beginsOperand = true)
    (chain : (x :: (tokens ++ y :: rest)).IsChain Token.Fits) : tokens = [] := by
  rcases phrase.endsOperand with empty | ⟨init, last, rfl, ends⟩
  · exact empty
  · rw [List.append_assoc, List.singleton_append, List.isChain_cons_append_cons_cons] at chain
    obtain ⟨-, fits, -⟩ := chain
    rw [Token.Fits, begins, ends] at fits
    cases fits

/-- A loose phrase in which all neighbours fit is a phrase of the grammar. In each place of a factor
there is then exactly one: none would leave two tokens side by side that do not fit, and so would a
second one. -/
theorem Arranges.exists_derives {level : Level} {tokens ordered : List Token}
    (phrase : Arranges level tokens ordered) {x y : Token} (before : x.endsOperand = false)
    (behind : y.beginsOperand = false) (chain : (x :: tokens ++ [y]).IsChain Token.Fits) :
    ∃ e, Derives level tokens e := by
  induction phrase generalizing x y with
  | nothing =>
      -- No operand ends in front of the gap, and none begins behind it.
      have fits : Token.Fits x y := List.isChain_pair.mp chain
      rw [Token.Fits, before, behind] at fits
      cases fits
  | @number tokens _ text front _ =>
      have chain' : (x :: (tokens ++ Token.number text :: [y])).IsChain Token.Fits := by
        simpa using chain
      -- An operand begins with the numeral, so nothing stands in front of it.
      obtain rfl := front.eq_nil_of_isChain rfl chain'
      exact ⟨_, .number text⟩
  | @group tokens _ inner _ front _ _ inside =>
      have chain' : (x :: (tokens ++ Token.leftParen ::
          (inner ++ Token.rightParen :: [y]))).IsChain Token.Fits := by
        simpa using chain
      obtain rfl := front.eq_nil_of_isChain rfl chain'
      rw [List.nil_append, List.isChain_cons_cons, List.isChain_cons_split] at chain'
      obtain ⟨-, chain', -⟩ := chain'
      obtain ⟨e, derived⟩ := inside rfl rfl chain'
      exact ⟨e, .group derived⟩
  | factor _ ih =>
      obtain ⟨e, derived⟩ := ih before behind chain
      exact ⟨e, .factor derived⟩
  | product isProduct _ _ left right =>
      obtain ⟨chainLeft, chainRight⟩ := isChain_binary_iff.mp chain
      obtain ⟨l, derivedLeft⟩ := left before rfl chainLeft
      obtain ⟨r, derivedRight⟩ := right rfl behind chainRight
      exact ⟨_, .product isProduct derivedLeft derivedRight⟩
  | term _ ih =>
      obtain ⟨e, derived⟩ := ih before behind chain
      exact ⟨e, .term derived⟩
  | sum isSum _ _ left right =>
      obtain ⟨chainLeft, chainRight⟩ := isChain_binary_iff.mp chain
      obtain ⟨l, derivedLeft⟩ := left before rfl chainLeft
      obtain ⟨r, derivedRight⟩ := right rfl behind chainRight
      exact ⟨_, .sum isSum derivedLeft derivedRight⟩

/-- Among the loose sums the sentences are those in which all neighbours fit. -/
theorem Arranges.isSentence_iff {tokens ordered : List Token}
    (phrase : Arranges .sum tokens ordered) : IsSentence tokens ↔ InfixPlaced tokens :=
  ⟨IsSentence.infixPlaced, fun placed => phrase.exists_derives rfl rfl placed⟩

end InfixCalc
