import InfixCalc.Proofs.Double.Text
import InfixCalc.Rounding

/-!
# `InfixCalc.Proofs.Rounding`: rounding leaves no noise behind

A rounded result is a decimal that has been read as a double, and the decimal that stands for this
double need not be the one that was read. Still it has no digit beyond the places:
`onGrid_toPlaces`. So rounding a rounded result changes nothing, not even the sign of a zero:
`toPlaces_toPlaces`.

`roundResult_onGrid_stable` says both about results and their texts. The text is the one that a
double has everywhere, and the one on display, which leaves the point of whole numbers out. From
`-999999` places up to far beyond the length of any double no rounding is refused
(`roundResult_eq_ok`), so nothing is lost by the limits of decimal arithmetic.
-/

set_option autoImplicit false

namespace InfixCalc

open Double

namespace Rounding

variable {v : Float} {places : Int}

/-- A finite double is rounded as the decimal that stands for it. -/
theorem toPlaces_of_isFinite (finite : isFinite v = true) :
    toPlaces places v = ofDecimal ((toDecimal v).roundHalfUp places) := by
  rw [toPlaces, if_pos finite]

/-- What is not finite is left alone. -/
theorem toPlaces_of_not_isFinite (infinite : ¬ isFinite v = true) : toPlaces places v = v := by
  rw [toPlaces, if_neg infinite]

/-- Rounding keeps the sign, also that of a number that becomes zero. -/
theorem isNegative_toPlaces (places : Int) (v : Float) :
    isNegative (toPlaces places v) = isNegative v := by
  by_cases finite : isFinite v = true
  · rw [toPlaces_of_isFinite finite, isNegative_ofDecimal]
    exact negative_toDecimal v
  · rw [toPlaces_of_not_isFinite finite]

/-- A rounded double is the one nearest to the rounded decimal. -/
theorem isRead_toPlaces (finite : isFinite v = true)
    (finite' : isFinite (toPlaces places v) = true) :
    IsRead (index (toPlaces places v))
      (⌊(toDecimal v).magnitude * 10 ^ places + 1 / 2⌋₊ * 10 ^ (-places) * 2 ^ 1074) := by
  rw [toPlaces_of_isFinite finite] at finite' ⊢
  rw [← Decimal.magnitude_roundHalfUp]
  exact isRead_ofDecimal finite'

/-- A rounded double stands for a whole number of steps of `10 ^ -places`. -/
theorem onGrid_toPlaces (finite : isFinite v = true)
    (finite' : isFinite (toPlaces places v) = true) :
    (toDecimal (toPlaces places v)).OnGrid places := by
  rw [toPlaces_of_isFinite finite] at finite' ⊢
  exact onGrid_toDecimal (Decimal.roundHalfUp_onGrid places _) (isRead_ofDecimal finite')

/-- Rounding keeps a double with no digit beyond the places. -/
theorem toPlaces_of_onGrid (finite : isFinite v = true) (grid : (toDecimal v).OnGrid places) :
    toPlaces places v = v := by
  calc toPlaces places v
      = ofDecimal ((toDecimal v).roundHalfUp places) := toPlaces_of_isFinite finite
    _ = ofDecimal (toDecimal v) :=
        ofDecimal_congr rfl (Decimal.magnitude_roundHalfUp_of_onGrid grid)
    _ = v := ofDecimal_toDecimal finite

/-- Rounding twice is rounding once. -/
theorem toPlaces_toPlaces (places : Int) (v : Float) :
    toPlaces places (toPlaces places v) = toPlaces places v := by
  by_cases finite : isFinite v = true
  · by_cases finite' : isFinite (toPlaces places v) = true
    · exact toPlaces_of_onGrid finite' (onGrid_toPlaces finite finite')
    · exact toPlaces_of_not_isFinite finite'
  · rw [toPlaces_of_not_isFinite finite, toPlaces_of_not_isFinite finite]

/-- Decimal arithmetic has room for every finite double and any number of places that is not too far
out. -/
theorem check_toDecimal (finite : isFinite v = true) (low : -999999 ≤ places)
    (high : places < 10 ^ 17) : check places (toDecimal v) = .ok () := by
  have first := neg_le_leadingExponent_toDecimal v
  have last := leadingExponent_toDecimal_le finite
  -- The digits to work with are at least those of the places, less the place of the first digit.
  have digits : workingDigits places (toDecimal v)
      = max 28 ((toDecimal v).leadingExponent + places + 2) := rfl
  unfold check
  dsimp only
  generalize workingDigits places (toDecimal v) = working at digits ⊢
  rw [if_neg, if_neg, if_neg, if_neg]
  · show ¬ 999999 < -places
    omega
  · show ¬ 2 * (999999 + working) < places.natAbs
    omega
  · show ¬ 999999999999999999 < working
    omega
  · show ¬ 0x7FFFFFFFFFFFFFFF < working
    omega

end Rounding

open Rounding

variable {v : Float} {places : Int}

/-- From `-999999` places up to far beyond the length of any double no rounding is refused. -/
theorem roundResult_eq_ok (v : Float) (low : -999999 ≤ places) (high : places < 10 ^ 17) :
    roundResult (some places) v = .ok (toPlaces places v) := by
  by_cases finite : isFinite v = true
  · simp only [roundResult, if_pos finite, check_toDecimal finite low high]
    rfl
  · simp only [roundResult, if_neg finite, toPlaces_of_not_isFinite finite]

/-- Noise does not come back. A result is rounded to the double nearest to its decimal, rounded half
up to the places, with its sign. If this double is finite, its text is read as the double and
denotes a whole number of steps of `10 ^ -places`, and on display it has no digit beyond the places.
Rounding it again gives the same double. -/
theorem roundResult_onGrid_stable (finite : isFinite v = true) (low : -999999 ≤ places)
    (high : places < 10 ^ 17) :
    ∃ y, roundResult (some places) v = .ok y ∧
      isNegative y = isNegative v ∧
      (isFinite y = true →
        IsRead (index y)
          (⌊(toDecimal v).magnitude * 10 ^ places + 1 / 2⌋₊ * 10 ^ (-places) * 2 ^ 1074) ∧
        Numeral.readDouble? (text y) = some y ∧
        (∃ d, Numeral.parse? (text y) = some (.finite d) ∧ d.OnGrid places) ∧
        (0 ≤ places →
          ∃ d, Numeral.parse? (displayText y) = some (.finite d) ∧ -places ≤ d.exponent)) ∧
      roundResult (some places) y = .ok y := by
  refine ⟨toPlaces places v, roundResult_eq_ok v low high, isNegative_toPlaces places v,
    fun finite' => ⟨isRead_toPlaces finite finite', readDouble?_text finite', ?_, fun nonneg => ?_⟩,
    ?_⟩
  · obtain ⟨d, read, -, number, -⟩ := exists_parse?_text finite'
    exact ⟨d, read, (onGrid_toPlaces finite finite').congr number⟩
  · exact exists_parse?_displayText finite' nonneg (onGrid_toPlaces finite finite')
  · -- Whatever is rounded lies on the grid, and there rounding changes nothing.
    rw [roundResult_eq_ok _ low high, toPlaces_toPlaces]

/-- The double next above that of `0.3`, which is the sum of `0.1` and `0.2`, at one place. -/
theorem roundResult_onGrid_stable_sum :
    isFinite (ofIndex false 0x3FD3333333333334) = true ∧ -999999 ≤ (1 : Int) ∧ (1 : Int) < 10 ^ 17 ∧
    ∃ y, roundResult (some 1) (ofIndex false 0x3FD3333333333334) = .ok y ∧
      (isFinite y = true →
        (∃ d, Numeral.parse? (text y) = some (.finite d) ∧ d.OnGrid 1) ∧
        ∃ d, Numeral.parse? (displayText y) = some (.finite d) ∧ -1 ≤ d.exponent) ∧
      roundResult (some 1) y = .ok y := by
  have finite : isFinite (ofIndex false 0x3FD3333333333334) = true := by decide +kernel
  have low : -999999 ≤ (1 : Int) := by decide
  have high : (1 : Int) < 10 ^ 17 := by decide
  obtain ⟨y, rounded, -, texts, again⟩ := roundResult_onGrid_stable finite low high
  refine ⟨finite, low, high, y, rounded, fun finite' => ?_, again⟩
  obtain ⟨-, -, multiple, display⟩ := texts finite'
  exact ⟨multiple, display (by decide)⟩

/-- The noise is there before rounding, and is gone from the text afterwards. -/
example :
    text (ofIndex false 0x3FD3333333333334) = "0.30000000000000004" ∧
      text (toPlaces 1 (ofIndex false 0x3FD3333333333334)) = "0.3" := by
  decide +kernel

end InfixCalc
