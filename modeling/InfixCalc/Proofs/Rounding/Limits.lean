import InfixCalc.Proofs.Decimal.Limits
import InfixCalc.Proofs.Rounding

/-!
# `InfixCalc.Proofs.Rounding.Limits`: rounding has room

Results are rounded exactly, behind a check of the number of places. Decimal arithmetic would do it
within its limits: a power of ten is made, and the decimal is brought to its exponent, which is
refused if there are not digits enough. `Rounding.limited` spells this out. For as many digits as
are asked for (`Rounding.workingDigits`, which can be granted below `10 ^ 17` places) nothing is
refused but a power of ten that is too great (`Rounding.limited_eq_ok`,
`Rounding.limited_eq_error`). So the check refuses what decimal arithmetic would, and the exact
result is the one that it would give: `roundResult_nearest`.
-/

set_option autoImplicit false

namespace InfixCalc

open Double

/-- The refusal that a signal leads to. -/
def Signal.refusal : Signal → RoundError
  | invalid => .shiftInvalid
  | overflow => .exponentOverflow

/-- A signal leads to one of the two refusals. -/
theorem Signal.refusal_eq (signal : Signal) :
    signal.refusal = .exponentOverflow ∨ signal.refusal = .shiftInvalid := by
  cases signal with
  | invalid => exact .inr rfl
  | overflow => exact .inl rfl

namespace Rounding

/-- The limits for rounding a decimal to a number of places. -/
def limits (places : Int) (d : Decimal) : Limits :=
  ⟨workingDigits places d, exponentLimit, -exponentLimit⟩

/-- A decimal rounded to a number of places, by decimal arithmetic with these limits. -/
def limited (places : Int) (d : Decimal) : Except Signal Decimal := do
  let step ← (limits places d).scale (-places) ⟨false, 1, 0⟩
  (limits places d).quantize step.exponent d

variable {places : Int} {d : Decimal}

/-- The digits that the limits allow, by the place of the first digit. -/
theorem digits_limits (places : Int) (d : Decimal) :
    (limits places d).digits = max 28 (d.leadingExponent + places + 2) :=
  rfl

/-- The digits asked for are enough for the rounded decimal, also if there is a carry. -/
theorem digitCount_le_digits (places : Int) (d : Decimal) :
    (digitCount ⌊d.magnitude * 10 ^ places + 1 / 2⌋₊ : Int)
      ≤ max 28 (d.leadingExponent + places + 2) := by
  have digits := d.digitCount_rounded_le places
  omega

/-- The power of ten that is the last place is within the limits. -/
theorem scale_eq_ok (low : -999999 ≤ places) (first : -1074 ≤ d.leadingExponent) :
    (limits places d).scale (-places) ⟨false, 1, 0⟩ = .ok ⟨false, 1, -places⟩ := by
  have digits := digits_limits places d
  have one : digitCount 1 = 1 := digitCount_of_lt_ten (by decide)
  have within :
      ¬ 2 * ((limits places d).greatest + (limits places d).digits) < (-places).natAbs := by
    show ¬ 2 * (999999 + (limits places d).digits) < (-places).natAbs
    omega
  have tiny : (limits places d).tiny ≤ -places := by
    show -999999 - ((limits places d).digits - 1) ≤ -places
    omega
  -- A single digit fits in, and its exponent is between the limits.
  rw [Limits.scale, if_neg within, zero_add]
  refine Limits.fit_eq_self Nat.one_ne_zero ?_ tiny ?_
  · show (digitCount 1 : Int) ≤ (limits places d).digits
    omega
  · show (digitCount 1 : Int) + -places - 1 ≤ 999999
    omega

/-- From `-999999` places on nothing is refused. -/
theorem limited_eq_ok (low : -999999 ≤ places) (first : -1074 ≤ d.leadingExponent)
    (last : d.leadingExponent ≤ 1024) :
    limited places d = .ok (d.rescale Decimal.halfUp (-places)) := by
  have digits := digits_limits places d
  have room := digitCount_le_digits places d
  have count := d.digitCount_rounded_le places
  rw [← Decimal.coefficient_rescale] at room count
  rw [limited, scale_eq_ok low first]
  show (limits places d).quantize (-places) d = _
  -- Three tests: the exponent is in range at both ends, there are digits enough, and so is the
  -- first digit's place.
  refine if_pos ⟨?_, ?_, digits ▸ room, ?_⟩
  · show -999999 - ((limits places d).digits - 1) ≤ -places
    omega
  · show -places ≤ 999999
    omega
  · show (digitCount (d.rescale Decimal.halfUp (-places)).coefficient : Int) + -places - 1 ≤ 999999
    omega

/-- Below, the power of ten is too great, and far below it cannot even be asked for. -/
theorem limited_eq_error (beyond : places < -999999) (last : d.leadingExponent ≤ 1024) :
    limited places d
      = .error (if 2 * (999999 + 28) < places.natAbs then .invalid else .overflow) := by
  have digits : (limits places d).digits = 28 := by
    rw [digits_limits]
    omega
  rw [limited, Limits.scale, digits, Int.natAbs_neg]
  show (if 2 * ((999999 : Int) + 28) < places.natAbs then Except.error Signal.invalid else _) >>= _
    = _
  -- Of the two refusals, the first is for what cannot be asked for.
  by_cases far : 2 * (999999 + 28) < places.natAbs
  · rw [if_pos far, if_pos (by omega)]
    rfl
  · have one : digitCount 1 = 1 := digitCount_of_lt_ten (by decide)
    rw [if_neg far, if_neg (by omega), zero_add, Limits.fit_eq_overflow Nat.one_ne_zero]
    · rfl
    · show (999999 : Int) < digitCount 1 + -places - 1
      omega

/-- The check refuses the same numbers of places for the same reasons. -/
theorem check_eq_error (beyond : places < -999999) (last : d.leadingExponent ≤ 1024) :
    check places d
      = .error
        (if 2 * (999999 + 28) < places.natAbs then .shiftInvalid else .exponentOverflow) := by
  have digits : workingDigits places d = 28 := by
    show max 28 (d.leadingExponent + places + 2) = 28
    omega
  have word : ¬ wordLimit < 28 := by decide
  have limit : ¬ digitLimit < 28 := by decide
  -- With so few digits the tests for great numbers of places pass.
  rw [check, digits, if_neg word, if_neg limit]
  show (if 2 * ((999999 : Int) + 28) < places.natAbs then _
    else if (999999 : Int) < -places then _ else _) = _
  by_cases far : 2 * (999999 + 28) < places.natAbs
  · rw [if_pos far, if_pos (by omega)]
  · rw [if_neg far, if_neg (by omega), if_pos (by omega)]

end Rounding

open Rounding

variable {v : Float} {places : Int} {d : Decimal}

/-- A result is rounded as decimal arithmetic rounds the decimal that its text denotes. -/
theorem roundResult_eq_limited (finite : isFinite v = true) (high : places < 10 ^ 17)
    (sign : d.negative = isNegative v) (number : d.magnitude = (toDecimal v).magnitude)
    (place : d.leadingExponent = (toDecimal v).leadingExponent) :
    roundResult (some places) v = ((limited places d).mapError Signal.refusal).map ofDecimal := by
  have first := neg_le_leadingExponent_toDecimal v
  have last := leadingExponent_toDecimal_le finite
  -- Below the limit both refuse, by the same test.
  by_cases low : -999999 ≤ places
  · have same : toPlaces places v = ofDecimal (d.rescale Decimal.halfUp (-places)) := by
      rw [toPlaces_of_isFinite finite]
      refine ofDecimal_congr ((negative_toDecimal v).trans sign.symm) ?_
      rw [Decimal.magnitude_rescale, Decimal.magnitude_roundHalfUp, Decimal.magnitude_roundHalfUp,
        number]
    rw [roundResult_eq_ok v low high, limited_eq_ok low (place ▸ first) (place ▸ last), same]
    rfl
  · have beyond : places < -999999 := by omega
    rw [limited_eq_error beyond (place ▸ last), roundResult, if_pos finite,
      check_eq_error beyond last]
    by_cases far : 2 * (999999 + 28) < places.natAbs
    · rw [if_pos far, if_pos far]
      rfl
    · rw [if_neg far, if_neg far]
      rfl

/-- The decimal of a text has its first digit where the shortest decimal has it. -/
theorem leadingExponent_of_parse?_text (number : d.magnitude = (toDecimal v).magnitude)
    (shape : d.coefficient % 10 ≠ 0 ∨ d.exponent = -1) :
    d.leadingExponent = (toDecimal v).leadingExponent := by
  by_cases zero : index v = 0
  · -- Zero is written with one digit behind the point.
    have none : d.coefficient = 0 := by
      rw [← Decimal.magnitude_eq_zero_iff, number, Decimal.magnitude_eq_zero_iff,
        toDecimal_of_eq_zero zero]
    have exponent : d.exponent = -1 := shape.resolve_left (by simp [none])
    rw [leadingExponent_toDecimal_of_eq_zero zero, Decimal.leadingExponent, none, exponent,
      digitCount_of_lt_ten (by decide)]
    rfl
  · have nonzero := coefficient_toDecimal_ne_zero zero
    have nonzero' : d.coefficient ≠ 0 := by
      rwa [Ne, ← Decimal.magnitude_eq_zero_iff, number, Decimal.magnitude_eq_zero_iff]
    exact Decimal.leadingExponent_congr nonzero' nonzero number

/-- Rounding a finite double to places, for its text and the decimal that the text denotes. It is
what decimal arithmetic does within its limits. Only powers of ten that are too great are refused.
Otherwise there is room for all digits of the rounded decimal, a carry included, and the result is
the double nearest to it, or infinity beyond the last one; it has the sign of the decimal, also if
it is zero. -/
theorem roundResult_nearest (finite : isFinite v = true) (high : places < 10 ^ 17) :
    ∃ d, Numeral.parse? (text v) = some (.finite d) ∧ d.negative = isNegative v ∧
      roundResult (some places) v = ((limited places d).mapError Signal.refusal).map ofDecimal ∧
      ((∃ e, roundResult (some places) v = .error e) ↔ places < -999999) ∧
      (∀ e, roundResult (some places) v = .error e → e = .exponentOverflow ∨ e = .shiftInvalid) ∧
      (-999999 ≤ places →
        digitCount ⌊d.magnitude * 10 ^ places + 1 / 2⌋₊ ≤ max 28 (d.leadingExponent + places + 2) ∧
        ∃ y, roundResult (some places) v = .ok y ∧ isNegative y = d.negative ∧
          ∃ i, index y = min i infinityIndex ∧
            IsNearest i
              (⌊d.magnitude * 10 ^ places + 1 / 2⌋₊ * 10 ^ (-places) * 2 ^ 1074)) := by
  obtain ⟨d, read, sign, number, shape⟩ := exists_parse?_text finite
  have place := leadingExponent_of_parse?_text number shape
  have first := neg_le_leadingExponent_toDecimal v
  have last := leadingExponent_toDecimal_le finite
  have same := roundResult_eq_limited finite high sign number place
  refine ⟨d, read, sign, same, ?_, ?_, fun low => ⟨digitCount_le_digits places d, ?_⟩⟩
  · constructor
    · rintro ⟨e, refused⟩
      by_contra low
      rw [roundResult_eq_ok v (by omega) high] at refused
      cases refused
    · intro beyond
      rw [same, limited_eq_error beyond (place ▸ last)]
      exact ⟨_, rfl⟩
  · intro e refused
    rw [same] at refused
    cases run : limited places d with
    | ok rounded =>
        rw [run] at refused
        cases refused
    | error signal =>
        rw [run] at refused
        cases refused
        exact signal.refusal_eq
  · -- The rounded decimal is read at the index of the nearest double.
    obtain ⟨i, nearest, read⟩ := exists_isRead_decimalIndex
      (d.rescale Decimal.halfUp (-places)).coefficient (-places)
    rw [Decimal.coefficient_rescale] at read
    refine ⟨_, ?_, isNegative_ofDecimal (d.rescale Decimal.halfUp (-places)), i, ?_,
      read.isNearest⟩
    · rw [same, limited_eq_ok low (place ▸ first) (place ▸ last)]
      rfl
    · rw [index_ofDecimal]
      exact nearest

/-- The double of `9.96` at one place, where a carry makes one digit more. -/
theorem roundResult_nearest_carry :
    isFinite (ofIndex false 0x4023EB851EB851EC) = true ∧ (1 : Int) < 10 ^ 17 ∧
    ∃ d y, Numeral.parse? (text (ofIndex false 0x4023EB851EB851EC)) = some (.finite d) ∧
      roundResult (some 1) (ofIndex false 0x4023EB851EB851EC) = .ok y ∧
      isNegative y = d.negative := by
  have finite : isFinite (ofIndex false 0x4023EB851EB851EC) = true := by decide +kernel
  have high : (1 : Int) < 10 ^ 17 := by decide
  obtain ⟨d, read, -, -, -, -, rounds⟩ := roundResult_nearest finite high
  obtain ⟨-, y, rounded, sign, -⟩ := rounds (by decide)
  exact ⟨finite, high, d, y, read, rounded, sign⟩

example :
    text (ofIndex false 0x4023EB851EB851EC) = "9.96" ∧
      text (toPlaces 1 (ofIndex false 0x4023EB851EB851EC)) = "10.0" := by
  decide +kernel

end InfixCalc
