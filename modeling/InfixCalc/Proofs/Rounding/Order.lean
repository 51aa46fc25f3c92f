import InfixCalc.Proofs.Double.Order
import InfixCalc.Proofs.Double.Value
import InfixCalc.Proofs.Rounding

/-!
# `InfixCalc.Proofs.Rounding.Order`: rounding respects order and sign

Three roundings make a rounded result: the double becomes its shortest decimal, the decimal is
rounded half up, and what comes out becomes a double again. None of them can turn an order around.
The numbers that are read as one double lie apart from those of the next, so shortest decimals are
in the order of their doubles (`magnitude_toDecimal_mono`); the greatest whole number of steps up to
half a step above a number grows with it; and greater numbers are read as greater doubles, or as the
same one (`decimalIndex_mono`). All three leave the sign alone, so below zero the same is true the
other way round (`toPlaces_mono`), and the opposite is rounded to the opposite (`toPlaces_neg`).

A result with a point cannot be rounded to infinity: the greatest finite double is whole, so it is
rounded to itself, and by the order none below it can get past it (`isFinite_toPlaces`).
-/

set_option autoImplicit false

namespace InfixCalc

open Double

namespace Double

variable {v w : Float}

/-- Doubles at the same place have the same shortest decimal, signs left aside. -/
theorem magnitude_toDecimal_congr (same : index v = index w) :
    (toDecimal v).magnitude = (toDecimal w).magnitude := by
  by_cases zero : index v = 0
  · rw [toDecimal_of_eq_zero zero, toDecimal_of_eq_zero (same ▸ zero)]
    rfl
  · rw [toDecimal_of_ne_zero zero, toDecimal_of_ne_zero (same ▸ zero), same]
    rfl

/-- Shortest decimals are in the order of their doubles. -/
theorem magnitude_toDecimal_mono (le : index v ≤ index w) :
    (toDecimal v).magnitude ≤ (toDecimal w).magnitude := by
  rcases Nat.eq_or_lt_of_le le with same | lt
  · exact (magnitude_toDecimal_congr same).le
  · by_contra greater
    have scaled : (toDecimal w).magnitude * 2 ^ 1074 ≤ (toDecimal v).magnitude * 2 ^ 1074 :=
      mul_le_mul_of_nonneg_right (not_le.mp greater).le (by positivity)
    exact absurd ((isRead_toDecimal w).le_of_le (isRead_toDecimal v) scaled) (by omega)

/-- Greater decimals are read as greater doubles, or as the same one. -/
theorem decimalIndex_mono {d d' : Decimal} (le : d.magnitude ≤ d'.magnitude) :
    decimalIndex d.coefficient d.exponent ≤ decimalIndex d'.coefficient d'.exponent := by
  obtain ⟨i, index, read⟩ := exists_isRead_decimalIndex d.coefficient d.exponent
  obtain ⟨j, index', read'⟩ := exists_isRead_decimalIndex d'.coefficient d'.exponent
  have scaled : d.magnitude * 2 ^ 1074 ≤ d'.magnitude * 2 ^ 1074 :=
    mul_le_mul_of_nonneg_right le (by positivity)
  have order : i ≤ j := read.le_of_le read' scaled
  omega

end Double

namespace Decimal

/-- A greater decimal is rounded to a greater one, or to the same. -/
theorem magnitude_roundHalfUp_mono {d d' : Decimal} (places : Int)
    (le : d.magnitude ≤ d'.magnitude) :
    (d.roundHalfUp places).magnitude ≤ (d'.roundHalfUp places).magnitude := by
  rw [magnitude_roundHalfUp, magnitude_roundHalfUp]
  have steps : ⌊d.magnitude * 10 ^ places + 1 / 2⌋₊ ≤ ⌊d'.magnitude * 10 ^ places + 1 / 2⌋₊ := by
    gcongr
  gcongr

end Decimal

namespace Rounding

variable {v w : Float} {places : Int}

/-- The place of a rounded finite double. -/
theorem index_toPlaces (finite : isFinite v = true) :
    index (toPlaces places v)
      = decimalIndex ((toDecimal v).roundHalfUp places).coefficient
          ((toDecimal v).roundHalfUp places).exponent := by
  rw [toPlaces_of_isFinite finite, index_ofDecimal]

/-- Rounding keeps the order of magnitudes, infinity being the greatest. -/
theorem index_toPlaces_mono (places : Int) (le : index v ≤ index w)
    (number : isNotANumber w = false) :
    index (toPlaces places v) ≤ index (toPlaces places w) := by
  have top : index w ≤ infinityIndex := Nat.not_lt.mp (of_decide_eq_false number)
  -- The greater one is infinite if the lesser one is, and infinities stay.
  by_cases finite : isFinite v = true
  · rw [index_toPlaces finite]
    by_cases finite' : isFinite w = true
    · rw [index_toPlaces finite']
      exact decimalIndex_mono
        (Decimal.magnitude_roundHalfUp_mono places (magnitude_toDecimal_mono le))
    · rw [toPlaces_of_not_isFinite finite']
      have infinite : infinityIndex ≤ index w := Nat.not_lt.mp (isFinite_iff.not.mp finite')
      exact (decimalIndex_le _ _).trans infinite
  · have infinite : ¬ isFinite w = true := fun finite' =>
      finite (isFinite_iff.mpr (le.trans_lt (isFinite_iff.mp finite')))
    rwa [toPlaces_of_not_isFinite finite, toPlaces_of_not_isFinite infinite]

/-- Zero stays zero. -/
theorem index_toPlaces_of_eq_zero (zero : index v = 0) : index (toPlaces places v) = 0 := by
  have finite : isFinite v = true := isFinite_iff.mpr (by rw [zero]; decide)
  have grid : (toDecimal v).OnGrid places :=
    ⟨0, by rw [toDecimal_of_eq_zero zero, Decimal.magnitude_mk, Nat.cast_zero, zero_mul, zero_mul]⟩
  rw [toPlaces_of_onGrid finite grid, zero]

/-- A number stays a number. -/
theorem isNotANumber_toPlaces (number : isNotANumber v = false) :
    isNotANumber (toPlaces places v) = false := by
  by_cases finite : isFinite v = true
  · refine decide_eq_false (Nat.not_lt.mpr ?_)
    rw [index_toPlaces finite]
    exact decimalIndex_le _ _
  · rwa [toPlaces_of_not_isFinite finite]

/-- Rounding keeps the order, on both sides of zero. -/
theorem toPlaces_mono (places : Int) (le : v ≤ w) : toPlaces places v ≤ toPlaces places w := by
  obtain ⟨number, number'⟩ := isNotANumber_of_le le
  rw [le_iff number number', signedIndex, signedIndex] at le
  rw [le_iff (isNotANumber_toPlaces number) (isNotANumber_toPlaces number'), signedIndex,
    signedIndex, isNegative_toPlaces, isNegative_toPlaces]
  cases sign : isNegative v with
  | false =>
      cases sign' : isNegative w with
      | false =>
          simp only [sign, sign', Bool.false_eq_true, if_false] at le ⊢
          exact Int.ofNat_le.mpr (index_toPlaces_mono places (Int.ofNat_le.mp le) number')
      | true =>
          -- Only zero is not below a number that is not above it.
          simp only [sign, sign', Bool.false_eq_true, if_false, if_true] at le ⊢
          rw [index_toPlaces_of_eq_zero (v := v) (by omega),
            index_toPlaces_of_eq_zero (v := w) (by omega)]
          rfl
  | true =>
      cases sign' : isNegative w with
      | false =>
          simp only [Bool.false_eq_true, if_false, if_true]
          omega
      | true =>
          simp only [sign, sign', if_true] at le ⊢
          exact Int.neg_le_neg
            (Int.ofNat_le.mpr (index_toPlaces_mono places (by omega) number))

/-- The opposite is rounded to the opposite, also if it becomes zero or infinite. -/
theorem toPlaces_neg (places : Int) (number : isNotANumber v = false) :
    toPlaces places (-v) = -toPlaces places v := by
  have le : index v ≤ infinityIndex := Nat.not_lt.mp (of_decide_eq_false number)
  have same : index (-v) = index v := by rw [neg_eq number, index_ofIndex _ le]
  have opposite : isNegative (-v) = !isNegative v := by rw [neg_eq number, isNegative_ofIndex _ le]
  by_cases finite : isFinite v = true
  · have finite' : isFinite (-v) = true := by rwa [isFinite, same]
    -- The decimals differ in their signs only, and rounding does not look at these.
    have decimal : ((toDecimal (-v)).roundHalfUp places).magnitude
        = ((toDecimal v).roundHalfUp places).magnitude := by
      rw [Decimal.magnitude_roundHalfUp, Decimal.magnitude_roundHalfUp,
        magnitude_toDecimal_congr same]
    have sign : ((toDecimal (-v)).roundHalfUp places).negative = !isNegative v := by
      rw [← opposite, ← negative_toDecimal]
      rfl
    rw [neg_eq (isNotANumber_toPlaces number), isNegative_toPlaces, index_toPlaces finite,
      toPlaces_of_isFinite finite', ofDecimal, sign, decimalIndex_congr decimal]
  · have infinite : ¬ isFinite (-v) = true := by rwa [isFinite, same]
    rw [toPlaces_of_not_isFinite finite, toPlaces_of_not_isFinite infinite]

/-- The greatest finite double is whole. -/
theorem exists_greatest : ∃ top : Float, isFinite top = true ∧ isWhole top = true ∧
    ∀ v, isFinite v = true → index v ≤ index top := by
  have place : index (ofIndex false (infinityIndex - 1)) = infinityIndex - 1 :=
    index_ofIndex false (Nat.sub_le _ _)
  -- So far up the distances between doubles are whole numbers.
  have wide : unitsInOne ∣ gap (infinityIndex - 1) := by
    obtain ⟨i, lt, -, width⟩ := exists_units_eq_binade
    exact width ▸ gap_dvd_gap (Nat.le_sub_one_of_lt lt)
  refine ⟨ofIndex false (infinityIndex - 1), isFinite_iff.mpr ?_, ?_, fun v finite => ?_⟩
  · rw [place]
    decide
  · rw [isWhole, place, beq_iff_eq]
    exact Nat.mod_eq_zero_of_dvd (wide.trans (gap_dvd_units _))
  · rw [place]
    exact Nat.le_sub_one_of_lt (isFinite_iff.mp finite)

/-- With places behind the point, or none, a whole number is left as it is. -/
theorem toPlaces_of_isWhole (finite : isFinite v = true) (whole : isWhole v = true)
    (nonneg : 0 ≤ places) : toPlaces places v = v := by
  obtain ⟨n, value⟩ := isWhole_iff.mp whole
  obtain ⟨k, rfl⟩ := Int.eq_ofNat_of_zero_le nonneg
  have read := isRead_magnitude v
  rw [value] at read
  -- The whole number is on the grid and is read as the double, so the shortest decimal is on the
  -- grid too.
  have grid : Decimal.OnGrid k ⟨false, n, 0⟩ := by
    refine ⟨n * 10 ^ k, ?_⟩
    rw [Decimal.magnitude_mk, zpow_neg, zpow_natCast]
    push_cast
    field_simp
  have number : (⟨false, n, 0⟩ : Decimal).magnitude = n := by
    rw [Decimal.magnitude_mk, zpow_zero, mul_one]
  exact toPlaces_of_onGrid finite (onGrid_toDecimal grid (number.symm ▸ read))

/-- Then no finite result is rounded to infinity. -/
theorem isFinite_toPlaces (nonneg : 0 ≤ places) (finite : isFinite v = true) :
    isFinite (toPlaces places v) = true := by
  obtain ⟨top, finite', whole, greatest⟩ := exists_greatest
  have within := index_toPlaces_mono places (greatest v finite) (isNotANumber_of_isFinite finite')
  rw [toPlaces_of_isWhole finite' whole nonneg] at within
  exact isFinite_iff.mpr (within.trans_lt (isFinite_iff.mp finite'))

end Rounding

open Rounding

/-- For every number of places that is not too far out, and without one, rounding is monotone and
odd. Of two results in order the rounded ones are in the same order, infinities included; the
opposite of a result is rounded to the opposite of the rounded one, bit for bit, so also if this is
a zero or infinite; and unless digits in front of the point are rounded away, a finite result stays
finite. -/
theorem roundResult_mono_neg {places? : Option Int}
    (within : ∀ places ∈ places?, -999999 ≤ places ∧ places < 10 ^ 17) :
    (∀ v w : Float, v ≤ w → ∃ y z, roundResult places? v = .ok y ∧ roundResult places? w = .ok z ∧
      y ≤ z) ∧
    (∀ v : Float, isNotANumber v = false →
      ∃ y, roundResult places? v = .ok y ∧ roundResult places? (-v) = .ok (-y)) ∧
    ((∀ places ∈ places?, 0 ≤ places) → ∀ v : Float, isFinite v = true →
      ∃ y, roundResult places? v = .ok y ∧ isFinite y = true) := by
  cases places? with
  | none =>
      exact ⟨fun v w le => ⟨v, w, rfl, rfl, le⟩, fun v _ => ⟨v, rfl, rfl⟩,
        fun _ v finite => ⟨v, rfl, finite⟩⟩
  | some places =>
      -- Within the limits rounding never refuses, so all three are about `toPlaces`.
      obtain ⟨low, high⟩ := within places rfl
      have rounded (v : Float) := roundResult_eq_ok v low high
      refine ⟨fun v w le => ⟨_, _, rounded v, rounded w, toPlaces_mono places le⟩,
        fun v number => ⟨_, rounded v, ?_⟩,
        fun nonneg v finite => ⟨_, rounded v, isFinite_toPlaces (nonneg places rfl) finite⟩⟩
      rw [rounded, toPlaces_neg places number]

/-- A half of the last place below zero, a number that is rounded to zero, and the opposite of this
number, at two places. -/
theorem roundResult_mono_neg_half :
    (∀ places ∈ some (2 : Int), -999999 ≤ places ∧ places < 10 ^ 17) ∧
    (-0.005 : Float) ≤ 0.001 ∧ isNotANumber 0.001 = false ∧
    (∀ places ∈ some (2 : Int), 0 ≤ places) ∧ isFinite 0.001 = true ∧
    (∃ y z, roundResult (some 2) (-0.005) = .ok y ∧ roundResult (some 2) 0.001 = .ok z ∧ y ≤ z) ∧
    (∃ y, roundResult (some 2) 0.001 = .ok y ∧ roundResult (some 2) (-0.001) = .ok (-y)) ∧
    ∃ y, roundResult (some 2) 0.001 = .ok y ∧ isFinite y = true := by
  have within : ∀ places ∈ some (2 : Int), -999999 ≤ places ∧ places < 10 ^ 17 := by
    rintro _ ⟨⟩
    decide
  have nonneg : ∀ places ∈ some (2 : Int), 0 ≤ places := by
    rintro _ ⟨⟩
    decide
  have le : (-0.005 : Float) ≤ 0.001 := by decide +kernel
  have number : isNotANumber 0.001 = false := by decide +kernel
  have finite : isFinite 0.001 = true := by decide +kernel
  obtain ⟨mono, opposite, stays⟩ := roundResult_mono_neg within
  exact ⟨within, le, number, nonneg, finite, mono _ _ le, opposite _ number,
    stays nonneg _ finite⟩

/-- The half is rounded away from zero, and the zero keeps its sign. -/
example : toPlaces 2 (-0.005) = -0.01 ∧ toPlaces 2 (-0.001) = -0.0 := by
  decide +kernel

end InfixCalc
