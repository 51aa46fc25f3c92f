import InfixCalc.Proofs.Double.Typed
import InfixCalc.Proofs.Token.Stop

/-!
# `InfixCalc.Proofs.Evaluation.Display`: results typed in again

What is on display as a result can be typed in again. Some texts of doubles are no numerals of the
expression syntax, which knows no signs and no exponents, but none of them is taken for another
number: `displayText_retyped` says which results evaluate to themselves, and that all others are
refused.

There are three ways to be refused. A letter, be it of an exponent or of a name, is a foreign
character (`evaluate_of_isForeign`). A minus sign in front of a numeral is an operator that lacks an
operand (`evaluate_minus`). Everything else is one numeral, and the reader of numerals gives the
double back that the text was made of.
-/

set_option autoImplicit false

namespace InfixCalc

open Double

/-! ### Lines of one numeral -/

section
variable {chars : List Char}

/-- A row is what a line is cut into that is spelled by it. -/
theorem tokenize_ofList {tokens : List Token} (row : IsRow tokens)
    (spells : tokens.flatMap (·.text.toList) = chars) :
    tokenize (String.ofList chars) = .ok tokens := by
  have spelled : Token.spelled tokens = String.ofList chars := by
    rw [← String.toList_inj, Token.toList_spelled, spells, String.toList_ofList]
  rw [← spelled, tokenize_spelled row]

/-- A line that is a numeral has the value of the numeral. -/
theorem evaluate_numeral (typed : Numeral.IsTyped chars) :
    evaluate (String.ofList chars) = numeralValue (String.ofList chars) := by
  have row : IsRow [.number (String.ofList chars)] :=
    ⟨by simpa [Token.IsTyped] using typed, .singleton _⟩
  have scanned : tokenize (String.ofList chars) = .ok [.number (String.ofList chars)] :=
    tokenize_ofList row (by simp [Token.text])
  exact (evaluate_of_derives scanned (.term (.factor (.number _)))).1

/-- A numeral with a minus sign in front has no value: the operator lacks an operand. -/
theorem evaluate_minus (typed : Numeral.IsTyped chars) :
    ∃ fault, evaluate (String.ofList ('-' :: chars)) = .error fault := by
  have row : IsRow [.operator .subtract, .number (String.ofList chars)] := by
    refine ⟨by simpa [Token.IsTyped] using typed, ?_⟩
    simp [Token.isNumber]
  have scanned : tokenize (String.ofList ('-' :: chars))
      = .ok [.operator .subtract, .number (String.ofList chars)] :=
    tokenize_ofList row (by simp [Token.text]; rfl)
  have phrase : Arranges .sum [.operator .subtract, .number (String.ofList chars)]
      [.number (String.ofList chars), .operator .subtract] :=
    toPostfix_eq_ok_iff.mp rfl
  rw [evaluate_of_arranges scanned phrase]
  cases outcome : evaluatePostfix [.number (String.ofList chars), .operator .subtract] with
  | error fault => exact ⟨fault, rfl⟩
  | ok v =>
      -- A postorder has one number more than it has operators.
      obtain ⟨e, postorder, -⟩ := evaluatePostfix_eq_ok_iff.mp outcome
      have one := e.depth_postorder
      rw [← postorder] at one
      cases one

end

/-- A line with a foreign character is refused. -/
theorem evaluate_of_isForeign {line : String} {c : Char} (mem : c ∈ line.toList)
    (foreign : IsForeign c) : ∃ fault, evaluate line = .error fault := by
  obtain ⟨e, stopped, -⟩ := exists_invalidCharacter_iff.mpr ⟨c, mem, foreign⟩
  exact ⟨e, by rw [evaluate_eq_bind, stopped, except_error_bind]⟩

/-! ### Texts on display -/

variable {v : Float}

/-- The text of a whole number is read as this number. -/
theorem readDouble?_wholePart (finite : isFinite v = true) (whole : isWhole v = true) :
    ∃ r, Numeral.readDouble? (integerText (wholePart v)) = some r ∧ (r == v) = true := by
  obtain ⟨n, value⟩ := isWhole_iff.mp whole
  have part := wholePart_eq_of_magnitude value
  have digits : (wholePart v).natAbs = n := by
    rw [part]
    split <;> simp
  have place : decimalIndex n 0 = index v := by
    refine (decimalIndex_eq_iff (isFinite_iff.mp finite)).mpr ?_
    rw [zpow_zero, mul_one, ← value]
    exact isRead_magnitude v
  -- The text has a sign and all digits, and is read as a decimal with no exponent.
  have read : Numeral.readDouble? (integerText (wholePart v))
      = some (ofIndex (wholePart v < 0) (index v)) := by
    rw [Numeral.readDouble?, parse?_integerText, digits, ← place]
    rfl
  refine ⟨_, read, ?_⟩
  by_cases zero : n = 0
  · -- The sign of a zero is not on display, and the two zeros are equal.
    have none : index v = 0 := by
      rw [← place, zero]
      rfl
    have unsigned : decide (wholePart v < 0) = false := by
      rw [part, zero]
      split <;> rfl
    have same := ofIndex_index v
    rw [none] at same
    rw [unsigned, none, ← same]
    exact zero_beq _
  · have sign : decide (wholePart v < 0) = isNegative v := by
      rw [part]
      cases isNegative v
      · simp
      · simpa using Nat.pos_of_ne_zero zero
    rw [sign, ofIndex_index]
    exact beq_self (isNotANumber_of_isFinite finite)

/-- The text of an infinite double is read as this double. -/
theorem readDouble?_text_of_infinite (number : isNotANumber v = false)
    (infinite : ¬ isFinite v = true) : Numeral.readDouble? (text v) = some v := by
  have place : index v = infinityIndex := by
    rw [isFinite_iff] at infinite
    exact Nat.le_antisymm (Nat.not_lt.mp (of_decide_eq_false number)) (Nat.not_lt.mp infinite)
  have same := ofIndex_index v
  rw [place] at same
  have name (negative : Bool) :
      Numeral.parse? (String.ofList (if negative then '-' :: ['i', 'n', 'f'] else ['i', 'n', 'f']))
        = some (.infinite negative) := by
    cases negative <;> decide +kernel
  rw [text, number, if_neg Bool.false_ne_true, unsignedText, if_neg infinite, Numeral.readDouble?,
    name, Option.map_some, Numeral.toDouble, same]

/-- A whole number is displayed without a point and with all its digits. -/
theorem displayText_of_isWhole (finite : isFinite v = true) (whole : isWhole v = true) :
    displayText v = integerText (wholePart v) := by
  rw [displayText, finite, whole]
  rfl

/-- Any other number is displayed as the text that stands for it. -/
theorem displayText_of_fraction (fraction : isWhole v = false) : displayText v = text v := by
  rw [displayText, fraction, Bool.and_false, if_neg Bool.false_ne_true]

/-- What is not finite is displayed as it is written. -/
theorem displayText_of_not_isFinite (infinite : ¬ isFinite v = true) :
    displayText v = text v := by
  rw [displayText, eq_false_of_ne_true infinite, Bool.false_and, if_neg Bool.false_ne_true]

/-- What is on display for a number is read as this number. -/
theorem readDouble?_displayText (number : isNotANumber v = false) :
    ∃ r, Numeral.readDouble? (displayText v) = some r ∧ (r == v) = true := by
  by_cases finite : isFinite v = true
  · cases whole : isWhole v with
    | true =>
        rw [displayText_of_isWhole finite whole]
        exact readDouble?_wholePart finite whole
    | false =>
        rw [displayText_of_fraction whole]
        exact ⟨v, readDouble?_text finite, beq_self number⟩
  · rw [displayText_of_not_isFinite finite]
    exact ⟨v, readDouble?_text_of_infinite number finite, beq_self number⟩

/-! ### Typed in again -/

/-- The double can be typed in as it is displayed: it is not negative, and it is a whole number or
not too small. -/
def Retypable (v : Float) : Prop :=
  isFinite v = true ∧ 0 ≤ toRat v ∧ ((∃ n : Int, toRat v = n) ∨ 1 / 10 ^ 4 ≤ toRat v)

/-- The bound below which texts have an exponent, as a power of ten. -/
theorem one_div_ten_pow_four : (1 / 10 ^ 4 : Rat) = 10 ^ (-4 : Int) := by
  norm_num

/-- A number with a fraction can be typed in exactly if it has no sign and is not too small. -/
theorem retypable_iff_of_fraction (finite : isFinite v = true) (fraction : isWhole v = false) :
    Retypable v ↔ isNegative v = false ∧ 10 ^ (-4 : Int) ≤ magnitude v := by
  have noInteger : ¬ ∃ n : Int, toRat v = n := by
    rintro ⟨n, value⟩
    rw [isWhole_of_toRat value] at fraction
    cases fraction
  have positive : 0 < magnitude v := by
    refine lt_of_le_of_ne (magnitude_nonneg v) fun zero => ?_
    rw [isWhole_iff.mpr ⟨0, by rw [← zero, Nat.cast_zero]⟩] at fraction
    cases fraction
  rw [Retypable, or_iff_right noInteger, one_div_ten_pow_four, toRat]
  -- With a sign the number would be below zero, since it is not zero.
  cases isNegative v
  · simp [finite, positive.le]
  · simp [not_le.mpr positive]

/-- What is on display for such a double is a numeral that can be typed. -/
theorem exists_isTyped_displayText (retypable : Retypable v) :
    ∃ chars, Numeral.IsTyped chars ∧ displayText v = String.ofList chars := by
  have finite := retypable.1
  cases whole : isWhole v with
  | true =>
      have nonneg : ¬ wholePart v < 0 := by
        have le := retypable.2.1
        rw [toRat_eq_wholePart whole] at le
        exact not_lt.mpr (by exact_mod_cast le)
      refine ⟨_, isTyped_toDigits (wholePart v).natAbs, ?_⟩
      rw [displayText_of_isWhole finite whole, integerText, if_neg nonneg]
  | false =>
      obtain ⟨positive, great⟩ := (retypable_iff_of_fraction finite whole).mp retypable
      -- Without a sign, the text is the unsigned one.
      refine ⟨_, isTyped_unsignedText finite whole great, ?_⟩
      rw [displayText_of_fraction whole, text, isNotANumber_of_isFinite finite, positive,
        if_neg Bool.false_ne_true, if_neg Bool.false_ne_true]

/-- A letter of the unsigned text is in the text. -/
theorem mem_text {c : Char} (number : isNotANumber v = false) (mem : c ∈ unsignedText v) :
    c ∈ (text v).toList := by
  rw [text, number, if_neg Bool.false_ne_true, String.toList_ofList]
  split
  · exact List.mem_cons_of_mem _ mem
  · exact mem

/-- Anything else on display is refused. -/
theorem evaluate_displayText_of_not_retypable (other : ¬ Retypable v) :
    ∃ fault, evaluate (displayText v) = .error fault := by
  by_cases finite : isFinite v = true
  · cases whole : isWhole v with
    | true =>
        -- A whole number is refused for its sign.
        have negative : wholePart v < 0 := by
          by_contra nonneg
          refine other ⟨finite, ?_, .inl ⟨wholePart v, toRat_eq_wholePart whole⟩⟩
          rw [toRat_eq_wholePart whole]
          exact_mod_cast not_lt.mp nonneg
        rw [displayText_of_isWhole finite whole, integerText, if_pos negative]
        exact evaluate_minus (isTyped_toDigits _)
    | false =>
        have number := isNotANumber_of_isFinite finite
        rw [displayText_of_fraction whole]
        by_cases great : 10 ^ (-4 : Int) ≤ magnitude v
        · have negative : isNegative v = true := by
            by_contra positive
            exact other ((retypable_iff_of_fraction finite whole).mpr
              ⟨eq_false_of_ne_true positive, great⟩)
          rw [text, number, if_neg Bool.false_ne_true, if_pos negative]
          exact evaluate_minus (isTyped_unsignedText finite whole great)
        · exact evaluate_of_isForeign (mem_text number (mem_unsignedText finite whole great))
            (by decide)
  · rw [displayText_of_not_isFinite finite]
    cases number : isNotANumber v with
    | true =>
        have foreign : IsForeign 'n' := by decide
        refine evaluate_of_isForeign ?_ foreign
        rw [text, if_pos number]
        decide
    | false =>
        have foreign : IsForeign 'i' := by decide
        refine evaluate_of_isForeign (mem_text number ?_) foreign
        rw [unsignedText, if_neg finite]
        decide

/-- A result that is typed in again as it is displayed is never taken for another number. A finite
double that is not negative, and is a whole number or at least `10 ^ -4`, evaluates to a double that
is equal to it, be it zero with a sign; every other double is refused. And the reader of numerals,
which knows signs, exponents and names, gives back every double that is a number. -/
theorem displayText_retyped (v : Float) :
    (Retypable v → ∃ r, evaluate (displayText v) = .ok r ∧ (r == v) = true) ∧
    (¬ Retypable v → ∃ fault, evaluate (displayText v) = .error fault) ∧
    (isNotANumber v = false →
      ∃ r, Numeral.readDouble? (displayText v) = some r ∧ (r == v) = true) := by
  refine ⟨fun retypable => ?_, evaluate_displayText_of_not_retypable, readDouble?_displayText⟩
  obtain ⟨chars, typed, shown⟩ := exists_isTyped_displayText retypable
  obtain ⟨r, read, same⟩ := readDouble?_displayText (isNotANumber_of_isFinite retypable.1)
  refine ⟨r, ?_, same⟩
  -- The line is one numeral, so it evaluates to what the numeral is read as.
  rw [shown] at read ⊢
  rw [evaluate_numeral typed, numeralValue_eq_ok_iff.mpr read]

/-- The double nearest to `10 ^ -4` is displayed as `0.0001`, which evaluates to it. A tenth of it
is displayed with an exponent, and is refused. -/
theorem displayText_retyped_bounds :
    Retypable 0.0001 ∧ (∃ r, evaluate "0.0001" = .ok r ∧ (r == 0.0001) = true) ∧
    ¬ Retypable 0.00001 ∧ (∃ fault, evaluate "1e-05" = .error fault) ∧
    isNotANumber 0.00001 = false ∧
    ∃ r, Numeral.readDouble? "1e-05" = some r ∧ (r == 0.00001) = true := by
  have shown : displayText 0.0001 = "0.0001" := by decide +kernel
  have shown' : displayText 0.00001 = "1e-05" := by decide +kernel
  have retypable : Retypable 0.0001 :=
    ⟨by decide +kernel, by decide +kernel, .inr (by decide +kernel)⟩
  have fraction : isWhole 0.00001 = false := by decide +kernel
  have number : isNotANumber 0.00001 = false := by decide +kernel
  have other : ¬ Retypable 0.00001 := by
    rintro ⟨-, -, ⟨n, value⟩ | great⟩
    · cases (isWhole_of_toRat value).symm.trans fraction
    · exact absurd great (by decide +kernel)
  have same := (displayText_retyped 0.0001).1 retypable
  have refused := (displayText_retyped 0.00001).2.1 other
  have read := (displayText_retyped 0.00001).2.2 number
  rw [shown] at same
  rw [shown'] at refused read
  exact ⟨retypable, same, other, refused, number, read⟩

end InfixCalc
