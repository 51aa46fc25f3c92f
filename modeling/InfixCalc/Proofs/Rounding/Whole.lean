import InfixCalc.Proofs.Calculator.Partial
import InfixCalc.Proofs.Double.Value

/-!
# `InfixCalc.Proofs.Rounding.Whole`: converted amounts are exact

A conversion rounds the shortest decimal of a double, and gives the whole part of the double that is
nearest to the rounded decimal. The decimal is not the double, and neither is the last double the
decimal. Still the amount is what exact rounding of the product makes of it, half away from zero:
`convert_eq_roundHalfAway`.

There are two ways to go wrong, and neither is possible. The decimal might lie on the other side of
a half. But a half is read as no other double, so none lies between the two, and if the double is a
half itself, its decimal is exact (`floor_toDecimal`). And the whole number might be no double. But
a double with a fraction is below `2 ^ 52`, where all whole numbers are doubles, and a whole number
is not changed (`magnitude_toPlaces_zero`).
-/

set_option autoImplicit false

namespace InfixCalc

open Double Rounding

variable {v : Float}

/-- The nearest whole number, a half going away from zero. -/
def roundHalfAway (x : Rat) : Int :=
  SignType.sign x * ⌊|x| + 1 / 2⌋

/-- A whole number is rounded to itself. -/
theorem roundHalfAway_intCast (k : Int) : roundHalfAway k = k := by
  have floor : ⌊|(k : Rat)| + 1 / 2⌋ = |k| := by
    rw [Int.floor_eq_iff]
    push_cast
    constructor <;> linarith
  rw [roundHalfAway, floor]
  rcases lt_trichotomy k 0 with negative | rfl | positive
  · rw [sign_neg (by exact_mod_cast negative), abs_of_neg negative]
    simp
  · simp
  · rw [sign_pos (by exact_mod_cast positive), abs_of_pos positive]
    simp

/-- The magnitude is rounded, and the sign is put in front of it. -/
theorem roundHalfAway_toRat (v : Float) :
    roundHalfAway (toRat v)
      = if isNegative v then -(⌊magnitude v + 1 / 2⌋₊ : Int) else ⌊magnitude v + 1 / 2⌋₊ := by
  have nonneg := magnitude_nonneg v
  rw [roundHalfAway, abs_toRat, ← Int.natCast_floor_eq_floor (by positivity)]
  rcases nonneg.eq_or_lt with zero | positive
  · -- Zero has no sign, and none is put in front of it.
    have floor : ⌊magnitude v + 1 / 2⌋₊ = 0 := by
      rw [← zero]
      norm_num
    rw [floor]
    simp
  · unfold toRat
    split
    · rw [sign_neg (by linarith)]
      simp
    · rw [sign_pos positive]
      simp

/-- Between a double with a fraction and its decimal there is no half but the double itself. -/
theorem magnitude_eq_of_half_between {h : Nat} (fraction : isWhole v = false)
    (between : ((toDecimal v).magnitude ≤ h / 2 ∧ h / 2 ≤ magnitude v) ∨
      (magnitude v ≤ h / 2 ∧ h / 2 ≤ (toDecimal v).magnitude)) : magnitude v = h / 2 := by
  have here := isRead_magnitude v
  have there := isRead_toDecimal v
  refine magnitude_eq_of_isRead_half fraction ?_
  rcases between with ⟨low, high⟩ | ⟨low, high⟩
  · exact there.between here low high
  · exact here.between there low high

/-- The decimal that stands for a double is rounded to the same whole number as the double. -/
theorem floor_toDecimal (fraction : isWhole v = false) :
    ⌊(toDecimal v).magnitude + 1 / 2⌋₊ = ⌊magnitude v + 1 / 2⌋₊ := by
  have nonneg : 0 ≤ (toDecimal v).magnitude := by
    unfold Decimal.magnitude
    positivity
  obtain ⟨lower, upper⟩ :=
    (Nat.floor_eq_iff (add_nonneg (magnitude_nonneg v) (by norm_num))).mp
      (rfl : ⌊magnitude v + 1 / 2⌋₊ = _)
  generalize ⌊magnitude v + 1 / 2⌋₊ = k at lower upper ⊢
  refine (Nat.floor_eq_iff (by positivity)).mpr ⟨?_, ?_⟩
  · -- Below the half where rounding to `k` begins, the decimal would have to be this half.
    by_contra below
    obtain ⟨n, rfl⟩ : ∃ n, k = n + 1 := by
      refine Nat.exists_eq_succ_of_ne_zero ?_
      rintro rfl
      exact below (by push_cast; linarith)
    push_cast at lower below
    have half : magnitude v = (2 * n + 1 : Nat) / 2 :=
      magnitude_eq_of_half_between fraction
        (.inl ⟨by push_cast; linarith, by push_cast; linarith⟩)
    have exact := magnitude_toDecimal_half fraction half
    linarith
  · -- At the half where it ends, the double would have to be this half, and be rounded up.
    by_contra above
    have half : magnitude v = (2 * k + 1 : Nat) / 2 :=
      magnitude_eq_of_half_between fraction
        (.inr ⟨by push_cast; linarith, by push_cast; linarith⟩)
    push_cast at half
    linarith

/-- Rounding to a whole number gives the double of the whole number that is nearest, or the greater
one of two equally near ones. -/
theorem magnitude_toPlaces_zero (finite : isFinite v = true) :
    isFinite (toPlaces 0 v) = true ∧ magnitude (toPlaces 0 v) = ⌊magnitude v + 1 / 2⌋₊ := by
  cases whole : isWhole v with
  | true =>
      obtain ⟨n, value⟩ := isWhole_iff.mp whole
      have number : Decimal.magnitude ⟨false, n, 0⟩ = magnitude v := by
        rw [Decimal.magnitude_mk, zpow_zero, mul_one, value]
      -- A whole number is on the grid, and stays as it is.
      have grid : (toDecimal v).OnGrid 0 := by
        refine onGrid_toDecimal (d := ⟨false, n, 0⟩) ⟨n, ?_⟩ ?_
        · rw [Decimal.magnitude_mk, neg_zero]
        · rw [number]
          exact isRead_magnitude v
      rw [toPlaces_of_onGrid finite grid, value, Decimal.floor_add_half]
      exact ⟨finite, rfl⟩
  | false =>
      -- A number with a fraction is below `2 ^ 52`, where all whole numbers are doubles.
      have small : ⌊magnitude v + 1 / 2⌋₊ ≤ binade := by
        have below := magnitude_lt_of_fraction whole
        rw [← Nat.lt_succ_iff, Nat.floor_lt' (Nat.succ_ne_zero _)]
        push_cast
        linarith
      have number : ((toDecimal v).roundHalfUp 0).magnitude = ⌊magnitude v + 1 / 2⌋₊ := by
        rw [Decimal.magnitude_roundHalfUp, neg_zero, zpow_zero, mul_one, mul_one,
          floor_toDecimal whole]
      obtain ⟨i, nearest, read⟩ := exists_isRead_decimalIndex
        ((toDecimal v).roundHalfUp 0).coefficient ((toDecimal v).roundHalfUp 0).exponent
      rw [← Decimal.magnitude, number] at read
      obtain ⟨inside, value⟩ := units_eq_of_isRead read small
      have place : index (toPlaces 0 v) = i := by
        rw [toPlaces_of_isFinite finite, index_ofDecimal, nearest, Nat.min_eq_left inside.le]
      exact ⟨isFinite_iff.mpr (place ▸ inside), magnitude_eq_iff.mpr (by rw [place, value])⟩

/-- A finite product becomes a whole amount, by the rounding that its number calls for. -/
theorem convert_of_isFinite {rate : Float} (finite : isFinite (v * rate) = true) :
    convert v rate = .whole (roundHalfAway (toRat (v * rate))) := by
  obtain ⟨finite', value⟩ := magnitude_toPlaces_zero finite
  rw [convert, if_pos finite', wholePart_eq_of_magnitude value, isNegative_toPlaces,
    roundHalfAway_toRat]

/-- Any other product is the amount itself. -/
theorem convert_of_not_isFinite {rate : Float} (infinite : ¬ isFinite (v * rate) = true) :
    convert v rate = .double (v * rate) := by
  simp only [convert, toPlaces_of_not_isFinite infinite, if_neg infinite]

/-- A conversion gives a whole amount exactly if the product of the value and the rate, as a double,
is finite, and then the amount is what the number of this double is rounded to, half away from zero.
If the product is a whole number, the amount is this number, with all its digits, however great it
is. A product that is not finite is given as it is. None of the operations that a conversion is made
of fails. -/
theorem convert_eq_roundHalfAway (v rate : Float) :
    ((∃ n, convert v rate = .whole n) ↔ isFinite (v * rate) = true) ∧
    (isFinite (v * rate) = true → convert v rate = .whole (roundHalfAway (toRat (v * rate)))) ∧
    (∀ k : Int, isFinite (v * rate) = true → toRat (v * rate) = k →
      convert v rate = .whole k ∧ (convert v rate).text = integerText k) ∧
    (¬ isFinite (v * rate) = true → convert v rate = .double (v * rate)) ∧
    convertPartially v rate = .ok (convert v rate) := by
  -- Which of the two an amount is depends on the product alone.
  refine ⟨⟨?_, fun finite => ⟨_, convert_of_isFinite finite⟩⟩, convert_of_isFinite,
    fun k finite value => ?_, convert_of_not_isFinite, convertPartially_eq v rate⟩
  · rintro ⟨n, converted⟩
    by_contra infinite
    rw [convert_of_not_isFinite infinite] at converted
    cases converted
  · rw [convert_of_isFinite finite, value, roundHalfAway_intCast]
    exact ⟨rfl, rfl⟩

/-- The last double with a fraction lies half below `2 ^ 52` and is rounded up to it. The product of
`1e22` and `10` is a whole number that its decimal, `1e+23`, is not equal to. -/
theorem convert_eq_roundHalfAway_great :
    convert 4503599627370495.5 1.0 = .whole 4503599627370496 ∧
    toRat (1e22 * 10.0) = 99999999999999991611392 ∧
    convert 1e22 10.0 = .whole 99999999999999991611392 ∧
    (convert 1e22 10.0).text = "99999999999999991611392" ∧
    convert 1e308 10.0 = .double (1e308 * 10.0) := by
  have finite : isFinite (4503599627370495.5 * 1.0) = true := by decide +kernel
  have rounded : roundHalfAway (toRat (4503599627370495.5 * 1.0)) = 4503599627370496 := by
    decide +kernel
  have finite' : isFinite (1e22 * 10.0) = true := by decide +kernel
  have value : toRat (1e22 * 10.0) = 99999999999999991611392 := by decide +kernel
  have infinite : ¬ isFinite (1e308 * 10.0) = true := by decide +kernel
  have digits : integerText 99999999999999991611392 = "99999999999999991611392" := by
    decide +kernel
  obtain ⟨-, half, -⟩ := convert_eq_roundHalfAway 4503599627370495.5 1.0
  obtain ⟨-, -, whole, -⟩ := convert_eq_roundHalfAway 1e22 10.0
  obtain ⟨-, -, -, unchanged, -⟩ := convert_eq_roundHalfAway 1e308 10.0
  obtain ⟨amount, text⟩ := whole 99999999999999991611392 finite' value
  exact ⟨(half finite).trans (congrArg _ rounded), value, amount, text.trans digits,
    unchanged infinite⟩

end InfixCalc
