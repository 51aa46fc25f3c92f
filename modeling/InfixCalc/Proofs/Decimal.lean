import InfixCalc.Decimal
import Mathlib.Algebra.Order.Field.Power
import Mathlib.Algebra.Order.Floor.Semifield
import Mathlib.Data.Rat.Floor
import Mathlib.Tactic.Linarith
import Mathlib.Tactic.Ring

/-!
# `InfixCalc.Proofs.Decimal`: the values of decimals, and rounding them

The magnitude of a decimal is the rational number that it denotes, its sign left aside. The main
statement about rounding is `magnitude_roundHalfUp`: it gives the whole number of steps nearest to
the magnitude, a half going up. So what is rounded is a whole number of steps
(`roundHalfUp_onGrid`), and what is one already keeps its value (`magnitude_roundHalfUp_of_onGrid`).
-/

set_option autoImplicit false

namespace InfixCalc

/-! ### Counting digits -/

/-- A number is below the power of ten that has one digit more. -/
theorem lt_pow_digitCount (n : Nat) : n < 10 ^ digitCount n := by
  fun_induction digitCount n with
  | case1 n small => simpa using small
  | case2 n large ih =>
      rw [Nat.pow_succ]
      omega

/-- Numbers below ten have one digit, and so has zero. -/
theorem digitCount_of_lt_ten {n : Nat} (small : n < 10) : digitCount n = 1 := by
  rw [digitCount, if_pos small]

/-- There is always a digit. -/
theorem digitCount_pos (n : Nat) : 0 < digitCount n := by
  unfold digitCount
  split <;> omega

/-- A number that is not zero is at least the power of ten with as many digits. -/
theorem pow_digitCount_le {n : Nat} (nonzero : n ≠ 0) : 10 ^ (digitCount n - 1) ≤ n := by
  fun_induction digitCount n with
  | case1 n small => simpa using Nat.one_le_iff_ne_zero.mpr nonzero
  | case2 n large ih =>
      have inner := ih (by omega)
      rw [Nat.add_sub_cancel]
      have count := digitCount_pos (n / 10)
      obtain ⟨k, same⟩ : ∃ k, digitCount (n / 10) = k + 1 := ⟨digitCount (n / 10) - 1, by omega⟩
      rw [same, Nat.add_sub_cancel] at inner
      rw [same, Nat.pow_succ]
      omega

namespace Decimal

/-- The number that the decimal denotes, its sign left aside. -/
def magnitude (d : Decimal) : Rat :=
  d.coefficient * 10 ^ d.exponent

/-- The magnitude of a decimal that is given by its parts. -/
theorem magnitude_mk (negative : Bool) (coefficient : Nat) (exponent : Int) :
    magnitude ⟨negative, coefficient, exponent⟩ = coefficient * 10 ^ exponent :=
  rfl

/-- A decimal is zero exactly if its digits are, whatever its exponent. -/
theorem magnitude_eq_zero_iff {d : Decimal} : d.magnitude = 0 ↔ d.coefficient = 0 := by
  have step : (10 : Rat) ^ d.exponent ≠ 0 := zpow_ne_zero _ (by norm_num)
  rw [magnitude, mul_eq_zero, or_iff_left step, Nat.cast_eq_zero]

/-- The first digit of a decimal is not beyond its number. -/
theorem zpow_leadingExponent_le {d : Decimal} (nonzero : d.coefficient ≠ 0) :
    10 ^ d.leadingExponent ≤ d.magnitude := by
  have first := pow_digitCount_le nonzero
  have count := digitCount_pos d.coefficient
  have place : d.leadingExponent = (digitCount d.coefficient - 1 : Nat) + d.exponent := by
    rw [leadingExponent]
    omega
  have first' : (10 : Rat) ^ (digitCount d.coefficient - 1) ≤ d.coefficient := by
    exact_mod_cast first
  rw [place, zpow_add₀ (by norm_num), zpow_natCast, magnitude]
  gcongr

/-- The decimal is a whole number of steps of `10 ^ -places`. -/
def OnGrid (places : Int) (d : Decimal) : Prop :=
  ∃ count : Nat, d.magnitude = count * 10 ^ (-places)

/-- Whether a decimal lies on a grid depends on its magnitude only, not on how it is written. -/
theorem OnGrid.congr {places : Int} {d d' : Decimal} (grid : d.OnGrid places)
    (same : d'.magnitude = d.magnitude) : d'.OnGrid places := by
  rwa [OnGrid, same]

/-- A decimal whose last digit is not zero has this digit at one of the places. -/
theorem neg_le_exponent_of_onGrid {places : Int} {d : Decimal} (grid : d.OnGrid places)
    (last : d.coefficient % 10 ≠ 0) : -places ≤ d.exponent := by
  by_contra beyond
  obtain ⟨count, value⟩ := grid
  obtain ⟨n, power⟩ : ∃ n : Nat, -places = (n + 1 : Nat) + d.exponent :=
    ⟨(-places - d.exponent - 1).toNat, by omega⟩
  have ne : (10 : Rat) ^ d.exponent ≠ 0 := zpow_ne_zero _ (by norm_num)
  rw [magnitude, power, zpow_add₀ (by norm_num), zpow_natCast, ← mul_assoc] at value
  -- The last digit is one place too far, so ten goes into the coefficient.
  have whole : d.coefficient = count * 10 ^ (n + 1) := by
    exact_mod_cast mul_right_cancel₀ ne value
  rw [whole, Nat.pow_succ, ← Nat.mul_assoc] at last
  exact last (Nat.mul_mod_left _ _)

/-- A whole number is the greatest one up to half a step above it. -/
theorem floor_add_half (n : Nat) : ⌊(n : Rat) + 1 / 2⌋₊ = n := by
  rw [Nat.floor_eq_iff (by positivity)]
  constructor <;> linarith

/-- Rounding gives the whole number of steps that is nearest, and the greater one of two equally
near ones. -/
theorem magnitude_roundHalfUp (places : Int) (d : Decimal) :
    (d.roundHalfUp places).magnitude
      = ⌊d.magnitude * 10 ^ places + 1 / 2⌋₊ * 10 ^ (-places) := by
  simp only [magnitude, roundHalfUp, Nat.pow_eq]
  have shift : (d.coefficient * 10 ^ d.exponent : Rat) * 10 ^ places
      = d.coefficient * 10 ^ (d.exponent + places) := by
    rw [mul_assoc, ← zpow_add₀ (by norm_num)]
  rw [shift]
  rcases Int.le_total (-places) d.exponent with coarse | fine
  · -- No digit is dropped, and the number of steps is whole as it is.
    obtain ⟨n, power⟩ : ∃ n : Nat, d.exponent + places = n :=
      ⟨(d.exponent + places).toNat, by omega⟩
    have none : (-places - d.exponent).toNat = 0 := by omega
    have whole : (d.coefficient * 10 ^ (d.exponent + places) : Rat)
        = (d.coefficient * 10 ^ n : Nat) := by
      rw [power, zpow_natCast]
      push_cast
      rfl
    have coefficient : (2 * d.coefficient + 10 ^ 0) / (2 * 10 ^ 0) = d.coefficient := by omega
    have exponent : (10 : Rat) ^ d.exponent = 10 ^ n * 10 ^ (-places) := by
      rw [← zpow_natCast, ← zpow_add₀ (by norm_num), ← power, add_neg_cancel_right]
    rw [none, whole, floor_add_half, coefficient, Nat.cast_zero, add_zero, exponent]
    push_cast
    ring
  · -- Digits are dropped, and adding half a step before the division rounds half up.
    obtain ⟨n, power⟩ : ∃ n : Nat, -places - d.exponent = n :=
      ⟨(-places - d.exponent).toNat, by omega⟩
    have dropped : (-places - d.exponent).toNat = n := by omega
    have step : (0 : Rat) < 10 ^ n := by positivity
    have ratio : (d.coefficient * 10 ^ (d.exponent + places) : Rat) + 1 / 2
        = ((2 * d.coefficient + 10 ^ n : Nat) : Rat) / (2 * 10 ^ n : Nat) := by
      have exponent : d.exponent + places = -(n : Int) := by omega
      rw [exponent, zpow_neg, zpow_natCast]
      push_cast
      field_simp
    have exponent : d.exponent + n = -places := by omega
    rw [dropped, ratio, Nat.floor_div_eq_div, exponent]

/-- A rounded decimal lies on the grid of its places. -/
theorem roundHalfUp_onGrid (places : Int) (d : Decimal) : OnGrid places (d.roundHalfUp places) :=
  ⟨_, magnitude_roundHalfUp places d⟩

/-- A decimal that lies on the grid already is rounded to itself. -/
theorem magnitude_roundHalfUp_of_onGrid {places : Int} {d : Decimal} (grid : OnGrid places d) :
    (d.roundHalfUp places).magnitude = d.magnitude := by
  obtain ⟨count, magnitude⟩ := grid
  have steps : d.magnitude * 10 ^ places = count := by
    rw [magnitude, mul_assoc, ← zpow_add₀ (by norm_num), neg_add_cancel, zpow_zero, mul_one]
  rw [magnitude_roundHalfUp, steps, floor_add_half, magnitude]

end Decimal

end InfixCalc
