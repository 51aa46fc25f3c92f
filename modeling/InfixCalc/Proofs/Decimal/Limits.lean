import InfixCalc.Double.Nearest
import InfixCalc.Proofs.Decimal

/-!
# `InfixCalc.Proofs.Decimal.Limits`: decimal arithmetic with limits

Decimal arithmetic works with so many digits and with exponents up to a limit (`Limits`), and it
signals what is beyond them. Two of its operations are needed for rounding:

* `Limits.scale` multiplies by a power of ten. The result is fitted into the limits (`Limits.fit`):
  it loses the digits that are too many, and it overflows if it is too great.
* `Limits.quantize` brings a decimal to a given exponent, rounding half up. Unlike other operations
  it never gives up a digit to make the result fit: it signals that there is no room.

The exact result of the second one is what rounding to places means (`Decimal.coefficient_rescale`),
and `Decimal.digitCount_rounded_le` says how many digits it can have:
those before the point, those of the places, and one more for a carry.
-/

set_option autoImplicit false

namespace InfixCalc

/-- What decimal arithmetic signals. -/
inductive Signal where
  /-- The operation is not defined on its operands, or its result has no room. -/
  | invalid
  /-- The result is too great. -/
  | overflow
deriving DecidableEq, Repr

namespace Decimal

/-- The whole number nearest to `num / den`, the greater one of two equally near ones. -/
def halfUp (num den : Nat) : Nat :=
  (2 * num + den) / (2 * den)

/-- The decimal with its last digit at the exponent. Zeros are put behind it, or it is divided by a
power of ten and rounded. -/
def rescale (round : Nat → Nat → Nat) (exponent : Int) (d : Decimal) : Decimal where
  negative := d.negative
  coefficient :=
    if exponent ≤ d.exponent then d.coefficient * 10 ^ (d.exponent - exponent).toNat
    else round d.coefficient (10 ^ (exponent - d.exponent).toNat)
  exponent := exponent

end Decimal

/-- The limits of decimal arithmetic. -/
structure Limits where
  /-- The number of digits that a result can have. -/
  digits : Int
  /-- The greatest exponent that a first digit can have. -/
  greatest : Int
  /-- The least exponent that a first digit can have if all digits behind it are to be kept. -/
  least : Int

namespace Limits

/-- The least exponent that a last digit can have. -/
def tiny (l : Limits) : Int :=
  l.least - (l.digits - 1)

/-- The decimal within the limits. Digits that are too many, or too far behind the point, are
dropped; a half goes to the even digit. If a carry makes one digit too many, it is a zero, and it is
dropped too. -/
def fit (l : Limits) (d : Decimal) : Except Signal Decimal :=
  if d.coefficient = 0 then
    .ok { d with exponent := min (max d.exponent l.tiny) l.greatest }
  else if l.greatest < d.leadingExponent then .error .overflow
  else
    let last := max (d.leadingExponent - l.digits + 1) l.tiny
    if last ≤ d.exponent then .ok d
    else
      let rounded := d.rescale Double.roundHalfEven last
      if l.greatest < rounded.leadingExponent then .error .overflow
      else if l.digits < digitCount rounded.coefficient then
        .ok { rounded with coefficient := rounded.coefficient / 10, exponent := last + 1 }
      else .ok rounded

/-- The decimal times a power of ten. -/
def scale (l : Limits) (power : Int) (d : Decimal) : Except Signal Decimal :=
  if 2 * (l.greatest + l.digits) < power.natAbs then .error .invalid
  else l.fit { d with exponent := d.exponent + power }

/-- The decimal with its last digit at the exponent, rounded half up. -/
def quantize (l : Limits) (exponent : Int) (d : Decimal) : Except Signal Decimal :=
  let rounded := d.rescale Decimal.halfUp exponent
  if l.tiny ≤ exponent ∧ exponent ≤ l.greatest ∧ digitCount rounded.coefficient ≤ l.digits ∧
    rounded.leadingExponent ≤ l.greatest then .ok rounded
  else .error .invalid

/-- To one place `9.99` has three digits, which is one more than it has before rounding. -/
example :
    quantize ⟨3, 9, -9⟩ (-1) ⟨false, 999, -2⟩ = .ok ⟨false, 100, -1⟩ ∧
      quantize ⟨2, 9, -9⟩ (-1) ⟨false, 999, -2⟩ = .error .invalid := by
  decide +kernel

/-- A decimal within the limits is left as it is. -/
theorem fit_eq_self {l : Limits} {d : Decimal} (nonzero : d.coefficient ≠ 0)
    (few : digitCount d.coefficient ≤ l.digits) (low : l.tiny ≤ d.exponent)
    (high : d.leadingExponent ≤ l.greatest) : l.fit d = .ok d := by
  have last : max (d.leadingExponent - l.digits + 1) l.tiny ≤ d.exponent := by
    rw [Decimal.leadingExponent]
    omega
  rw [fit, if_neg nonzero, if_neg (by omega)]
  exact if_pos last

/-- A decimal whose first digit stands too high is refused. -/
theorem fit_eq_overflow {l : Limits} {d : Decimal} (nonzero : d.coefficient ≠ 0)
    (beyond : l.greatest < d.leadingExponent) : l.fit d = .error .overflow := by
  rw [fit, if_neg nonzero, if_pos beyond]

end Limits

namespace Decimal

/-! ### Rounding to an exponent -/

/-- Bringing a decimal to an exponent gives the same number as dropping the digits behind it. -/
theorem magnitude_rescale (places : Int) (d : Decimal) :
    (d.rescale halfUp (-places)).magnitude = (d.roundHalfUp places).magnitude := by
  by_cases coarse : -places ≤ d.exponent
  · -- No digit is dropped, and the zeros put behind the decimal do not change its number.
    have none : (-places - d.exponent).toNat = 0 := by omega
    obtain ⟨n, power⟩ : ∃ n : Nat, d.exponent - -places = n :=
      ⟨(d.exponent - -places).toNat, by omega⟩
    have exponent : d.exponent = n + -places := by omega
    have kept : d.roundHalfUp places = d := by
      have coefficient : (2 * d.coefficient + 10 ^ 0) / (2 * 10 ^ 0) = d.coefficient := by omega
      simp only [roundHalfUp, none, Nat.pow_eq, coefficient, Nat.cast_zero, add_zero]
    rw [kept, rescale, if_pos coarse, magnitude, magnitude, power]
    conv_rhs => rw [exponent, zpow_add₀ (by norm_num), zpow_natCast, ← mul_assoc]
    push_cast
    rfl
  · -- Digits are dropped, and both sides drop the same ones.
    have dropped : d.exponent + (-places - d.exponent).toNat = -places := by omega
    simp only [rescale, if_neg coarse, roundHalfUp, dropped]
    rfl

/-- The coefficient at an exponent is the whole number of steps nearest to the decimal. -/
theorem coefficient_rescale (places : Int) (d : Decimal) :
    (d.rescale halfUp (-places)).coefficient = ⌊d.magnitude * 10 ^ places + 1 / 2⌋₊ := by
  have same := magnitude_rescale places d
  rw [magnitude_roundHalfUp] at same
  have step : (10 : Rat) ^ (-places) ≠ 0 := zpow_ne_zero _ (by norm_num)
  exact_mod_cast mul_right_cancel₀ step same

/-! ### Digits -/

/-- A number below a power of ten has no more digits than the power has zeros. -/
theorem digitCount_le {n m : Nat} (below : n < 10 ^ m) (pos : 0 < m) : digitCount n ≤ m := by
  by_cases zero : n = 0
  · rw [zero, digitCount_of_lt_ten (by decide)]
    exact pos
  · have digits := (pow_digitCount_le zero).trans_lt below
    have less := (Nat.pow_lt_pow_iff_right (by decide)).mp digits
    omega

/-- A decimal is below the power of ten next to its first digit. -/
theorem magnitude_lt (d : Decimal) : d.magnitude < 10 ^ (d.leadingExponent + 1) := by
  have digits : (d.coefficient : Rat) < 10 ^ digitCount d.coefficient := by
    exact_mod_cast lt_pow_digitCount d.coefficient
  have place : d.leadingExponent + 1 = digitCount d.coefficient + d.exponent := by
    rw [leadingExponent]
    omega
  rw [place, zpow_add₀ (by norm_num), zpow_natCast, magnitude]
  gcongr

/-- The place of the first digit belongs to the number, except for zero. -/
theorem leadingExponent_congr {d d' : Decimal} (nonzero : d.coefficient ≠ 0)
    (nonzero' : d'.coefficient ≠ 0) (same : d.magnitude = d'.magnitude) :
    d.leadingExponent = d'.leadingExponent := by
  have first := (zpow_leadingExponent_le nonzero).trans_lt (same ▸ magnitude_lt d')
  have second := (zpow_leadingExponent_le nonzero').trans_lt (same ▸ magnitude_lt d)
  -- Each number is below the power of ten next to the first digit of the other.
  have below := (zpow_lt_zpow_iff_right₀ (by norm_num)).mp first
  have below' := (zpow_lt_zpow_iff_right₀ (by norm_num)).mp second
  omega

/-- Rounded to places, a decimal has the digits before its point and those of the places at most,
and one more if there is a carry. A decimal that has none of these digits becomes zero or one step,
which has one digit. -/
theorem digitCount_rounded_le (places : Int) (d : Decimal) :
    (digitCount ⌊d.magnitude * 10 ^ places + 1 / 2⌋₊ : Int)
      ≤ max 1 (d.leadingExponent + places + 2) := by
  have steps : d.magnitude * 10 ^ places < 10 ^ (d.leadingExponent + places + 1) := by
    have place : d.leadingExponent + places + 1 = (d.leadingExponent + 1) + places := by omega
    rw [place, zpow_add₀ (by norm_num)]
    gcongr
    exact magnitude_lt d
  have nonneg : 0 ≤ d.magnitude * 10 ^ places := by
    rw [magnitude]
    positivity
  have floor := Nat.floor_le (show 0 ≤ d.magnitude * 10 ^ places + 1 / 2 by linarith)
  generalize ⌊d.magnitude * 10 ^ places + 1 / 2⌋₊ = n at floor ⊢
  rcases Int.lt_or_le (d.leadingExponent + places + 1) 0 with before | within
  · -- Less than a tenth of a step is left.
    have tenth : (10 : Rat) ^ (d.leadingExponent + places + 1) ≤ 10 ^ (-1 : Int) :=
      zpow_le_zpow_right₀ (by norm_num) (by omega)
    have zero : n < 1 := by
      have less : (n : Rat) < 1 := by
        norm_num at tenth
        linarith
      exact_mod_cast less
    rw [Nat.lt_one_iff.mp zero, digitCount_of_lt_ten (by decide)]
    omega
  · -- There are steps left to count, and half a step more can be one power of ten at most.
    obtain ⟨k, power⟩ : ∃ k : Nat, d.leadingExponent + places + 1 = k :=
      ⟨(d.leadingExponent + places + 1).toNat, by omega⟩
    rw [power, zpow_natCast] at steps
    have most : n < 10 ^ k + 1 := by
      have less : (n : Rat) < 10 ^ k + 1 := by linarith
      exact_mod_cast less
    have next : 10 ^ k + 1 ≤ 10 ^ (k + 1) := by
      have pos : 0 < 10 ^ k := Nat.pow_pos (by decide)
      rw [Nat.pow_succ]
      omega
    have digits := digitCount_le (most.trans_le next) (Nat.succ_pos k)
    omega

end Decimal

end InfixCalc
