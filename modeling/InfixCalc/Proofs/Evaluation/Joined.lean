import InfixCalc.Proofs.Evaluation
import InfixCalc.Proofs.Token.Spelling

/-!
# `InfixCalc.Proofs.Evaluation.Joined`: an operator between two lines in parentheses

A line that has a value can be put in parentheses and calculated with, whether or not it is the line
of a sentence: with an operator between two such lines, the outcome is that of the operator between
their values (`evaluate_joined`). So nothing in a line reaches out of the parentheses around it.

Each stage contributes its part. A parenthesis or an operator between two lines ends the numeral
in front of it, and so the tokens of the two lines stay what they are (`tokenize_around`). What is
in parentheses is a factor, and it is arranged into what it is arranged into by itself
(`Arranges.between`). And the machine runs the postorder of one tree behind that of another.
-/

set_option autoImplicit false

namespace InfixCalc

/-! ### Tokens of joined lines -/

/-- A token that is no numeral can stand between any two rows. -/
theorem IsRow.append_cons {tokens others : List Token} {token : Token} (left : IsRow tokens)
    (right : IsRow others) (typed : token.IsTyped) (noNumber : token.isNumber = false) :
    IsRow (tokens ++ token :: others) := by
  constructor
  · intro other mem
    rcases List.mem_append.mp mem with mem | mem
    · exact left.typed other mem
    · rcases List.mem_cons.mp mem with rfl | mem
      · exact typed
      · exact right.typed other mem
  · -- On either side of the token one of the two neighbours is no numeral.
    refine List.isChain_append.mpr ⟨left.apart, List.isChain_cons.mpr ⟨?_, right.apart⟩, ?_⟩
    · intro next _ numbers
      rw [noNumber] at numbers
      cases numbers.1
    · intro last _ next first numbers
      cases first
      rw [noNumber] at numbers
      cases numbers.2

/-- The tokens of two lines stay what they are if the text of a token that is no numeral is typed
between them. -/
theorem tokenize_around {line other : String} {tokens others : List Token} (token : Token)
    (first : tokenize line = .ok tokens) (second : tokenize other = .ok others)
    (typed : token.IsTyped) (noNumber : token.isNumber = false) :
    tokenize (line ++ token.text ++ other) = .ok (tokens ++ token :: others) := by
  obtain ⟨left, spellsLeft⟩ := tokenize_eq_ok_iff.mp first
  obtain ⟨right, spellsRight⟩ := tokenize_eq_ok_iff.mp second
  -- A token has no white space in its text, so all of it is visible.
  have shown : visible token.text = token.text.toList := by
    rw [visible, List.filter_eq_self]
    intro c mem
    simp [(Token.of_mem_text typed mem).1]
  refine tokenize_eq_ok_iff.mpr ⟨left.append_cons right typed noNumber, ?_⟩
  rw [visible_append, visible_append, shown, ← spellsLeft, ← spellsRight]
  simp

/-- Parentheses around a line are two more tokens. -/
theorem tokenize_grouped {line : String} {tokens : List Token}
    (scanned : tokenize line = .ok tokens) :
    tokenize ("(" ++ line ++ ")") = .ok (.leftParen :: tokens ++ [.rightParen]) := by
  have nothing : tokenize "" = .ok [] := by
    with_unfolding_all rfl
  have opened := tokenize_around .leftParen nothing scanned trivial rfl
  have closed := tokenize_around .rightParen opened nothing trivial rfl
  rwa [String.empty_append, String.append_empty] at closed

/-! ### Values of joined lines -/

/-- An operator between two factors makes a loose sum, whichever it is. -/
theorem Arranges.between {tokens others first second : List Token}
    (left : Arranges .factor tokens first) (right : Arranges .factor others second)
    (op : Operator) :
    Arranges .sum (tokens ++ .operator op :: others) (first ++ second ++ [.operator op]) := by
  rcases op.isSum_or_isProduct with isSum | isProduct
  · exact .sum isSum (.term (.factor left)) (.factor right)
  · exact .term (.product isProduct (.factor left) right)

/-- Two lines in parentheses with an operator between them. -/
def joined (line : String) (op : Operator) (other : String) : String :=
  "(" ++ line ++ ")" ++ op.symbol ++ ("(" ++ other ++ ")")

/-- The outcome of two lines that have values, with an operator between them, is that of the
operator between the values. -/
theorem evaluate_joined_eq {line other : String} {l r : Float} (first : evaluate line = .ok l)
    (second : evaluate other = .ok r) (op : Operator) :
    evaluate (joined line op other) = op.value l r := by
  obtain ⟨tokens, left, scanned, phrase, leftValue⟩ := evaluate_eq_ok_iff_arranges.mp first
  obtain ⟨others, right, scanned', phrase', rightValue⟩ := evaluate_eq_ok_iff_arranges.mp second
  have scannedAll : tokenize (joined line op other)
      = .ok ((.leftParen :: tokens ++ [.rightParen]) ++
        .operator op :: (.leftParen :: others ++ [.rightParen])) :=
    tokenize_around (.operator op) (tokenize_grouped scanned) (tokenize_grouped scanned')
      trivial rfl
  -- A group is a factor, whatever is in it, so the operator stands between two factors.
  have phraseAll := (Arranges.group .nothing phrase).between (.group .nothing phrase') op
  calc evaluate (joined line op other)
      = evaluatePostfix (Expr.binary op left right).postorder :=
        evaluate_of_arranges scannedAll phraseAll
    _ = (Expr.binary op left right).evaluate := evaluatePostfix_postorder _
    _ = op.value l r := by
        rw [Expr.evaluate_binary, Expr.evaluate_eq_ok_iff.mpr leftValue, except_ok_bind,
          Expr.evaluate_eq_ok_iff.mpr rightValue, except_ok_bind]

/-- If two lines have values, the line of both in parentheses with an operator between them divides
by zero, and reports the two values, exactly if the operator divides and the second value is zero,
of either sign. Otherwise its value is what the operator gives for the two values: their sum, their
difference, their product or their quotient. -/
theorem evaluate_joined {line other : String} {l r : Float} (first : evaluate line = .ok l)
    (second : evaluate other = .ok r) (op : Operator) :
    ((∃ fault, evaluate (joined line op other) = .error fault ∧
      fault.notice = ⟨.divisionByZero,
        "Division by zero: " ++ Double.text l ++ " / " ++ Double.text r, none⟩) ↔
      op = .divide ∧ (r == 0) = true) ∧
    (¬ (op = .divide ∧ (r == 0) = true) →
      ∃ v, op.Gives l r v ∧ evaluate (joined line op other) = .ok v) := by
  rw [evaluate_joined_eq first second]
  refine ⟨⟨?_, ?_⟩, ?_⟩
  · rintro ⟨fault, failed, -⟩
    obtain ⟨divides, zero, -⟩ := Operator.value_eq_error_iff.mp failed
    exact ⟨divides, zero⟩
  · rintro ⟨divides, zero⟩
    exact ⟨.divisionByZero l r, Operator.value_eq_error_iff.mpr ⟨divides, zero, rfl⟩, rfl⟩
  · intro others
    obtain ⟨v, gives⟩ := (op.gives_or_divides l r).resolve_right others
    exact ⟨v, gives, gives.value_eq⟩

/-- `(1)2+` is not the line of a sentence, but it has a value. It can be divided by, and dividing it
by zero is reported with its value. -/
theorem evaluate_joined_juxtaposed :
    evaluate "(1)2+" = .ok 3.0 ∧ evaluate "0" = .ok 0.0 ∧
    (∃ fault, evaluate "((1)2+)/(0)" = .error fault ∧
      fault.notice = ⟨.divisionByZero, "Division by zero: 3.0 / 0.0", none⟩) ∧
    evaluate "(0)/((1)2+)" = .ok 0.0 := by
  have scanned : tokenize "(1)2+"
      = .ok [.leftParen, .number "1", .rightParen, .number "2", .operator .add] := by
    with_unfolding_all rfl
  have scanned' : tokenize "0" = .ok [.number "0"] := by
    with_unfolding_all rfl
  have three : evaluate "(1)2+" = .ok 3.0 :=
    evaluate_eq_ok_iff_arranges.mpr
      ⟨_, _, scanned, toPostfix_eq_ok_iff.mp rfl, hasValue_one_add_two⟩
  have zero : evaluate "0" = .ok 0.0 :=
    evaluate_eq_ok_iff_arranges.mpr ⟨_, .number "0", scanned', toPostfix_eq_ok_iff.mp rfl,
      .number (by decide +kernel)⟩
  have texts : "Division by zero: " ++ Double.text 3.0 ++ " / " ++ Double.text 0.0
      = "Division by zero: 3.0 / 0.0" := by
    decide +kernel
  have quotient : (0.0 : Float) / 3.0 = 0.0 := by decide +kernel
  have isZero : ((0.0 : Float) == 0) = true := by decide +kernel
  have notZero : ((3.0 : Float) == 0) = false := by decide +kernel
  have divided := (evaluate_joined three zero .divide).1.mpr ⟨rfl, isZero⟩
  obtain ⟨v, gives, numerator⟩ := (evaluate_joined zero three .divide).2 fun divides =>
    Bool.noConfusion (divides.2.symm.trans notZero)
  cases gives
  rw [texts] at divided
  rw [quotient] at numerator
  exact ⟨three, zero, divided, numerator⟩

end InfixCalc
