import InfixCalc.Evaluation
import InfixCalc.Proofs.Token.Spelling

/-!
# `InfixCalc.Proofs.Evaluation.Space`: white space carries no meaning

Two lines with the same visible characters are the same line to every stage, wherever their white
space stands, be it inside a numeral (`outcomes_eq_of_visible_eq`). That includes their faults: a
refused character and a malformed numeral are named as if there were no white space.
-/

set_option autoImplicit false

namespace InfixCalc

open Text

/-- Lines in which the same is visible have the same tokens, or the same fault. -/
theorem tokenize_eq_of_visible_eq {line other : String} (same : visible line = visible other) :
    tokenize line = tokenize other := by
  rw [tokenize_eq, tokenize_eq, same]

/-- The tokens of two lines are the same only if the lines differ in nothing but white space. -/
theorem visible_eq_of_tokenize_eq {line other : String} {tokens : List Token}
    (first : tokenize line = .ok tokens) (second : tokenize other = .ok tokens) :
    visible line = visible other := by
  rw [← (tokenize_eq_ok_iff.mp first).2, (tokenize_eq_ok_iff.mp second).2]

/-- Lines with the same visible characters have the same tokens, the same postfix order and the same
value, or in each case the same fault. Their evaluations leave the same log. White space is also all
that is lost: lines with the same tokens have the same visible characters. -/
theorem outcomes_eq_of_visible_eq (line other : String) :
    (visible line = visible other →
      tokenize line = tokenize other ∧
      (tokenize line >>= toPostfix) = (tokenize other >>= toPostfix) ∧
      evaluate line = evaluate other ∧
      trace line = trace other) ∧
    ∀ tokens, tokenize line = .ok tokens → tokenize other = .ok tokens →
      visible line = visible other := by
  refine ⟨fun same => ?_, fun tokens => visible_eq_of_tokenize_eq⟩
  have tokens := tokenize_eq_of_visible_eq same
  have traces : trace line = trace other := by
    rw [trace, trace, tokens]
  exact ⟨tokens, by rw [tokens], by rw [evaluate, evaluate, traces], traces⟩

/-- `1 2 / 0` with a space inside its first numeral and `12/<tab>0` fail alike. -/
theorem outcomes_eq_of_visible_eq_division :
    visible "1 2 / 0" = visible "12/\t0" ∧ evaluate "1 2 / 0" = evaluate "12/\t0" := by
  have same : visible "1 2 / 0" = visible "12/\t0" := by decide
  exact ⟨same, ((outcomes_eq_of_visible_eq _ _).1 same).2.2.1⟩

end InfixCalc
