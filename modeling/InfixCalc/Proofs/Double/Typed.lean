import InfixCalc.Proofs.Decimal.Limits
import InfixCalc.Proofs.Double.Text
import InfixCalc.Proofs.Double.Value

/-!
# `InfixCalc.Proofs.Double.Typed`: which texts of doubles can be typed

A numeral that can be typed has digits and a point, but no exponent. The text of a double is such a
numeral as long as it is written in the positional layout, and otherwise there is a letter in it.
For a number with a fraction this is a question of its size alone: from `10 ^ -4` on its text can be
typed (`isTyped_unsignedText`), and below it cannot (`mem_unsignedText`).

The layout is chosen by the shortest decimal, which is not the number. So it has to be shown that
the two lie on the same side of `10 ^ -4` (`le_magnitude_toDecimal_iff`). The other end of the
positional layout is out of reach, since numbers with a fraction are below `2 ^ 52`.
-/

set_option autoImplicit false

namespace InfixCalc.Double

open Numeral Text

variable {v : Float}

/-! ### Layouts -/

section Layouts

variable {digits whole fraction : List Char}

/-- There is no point among digits. -/
theorem not_mem_of_isAsciiDigit (all : ∀ c ∈ digits, isAsciiDigit c = true) : '.' ∉ digits := by
  intro mem
  cases all '.' mem

/-- Digits alone can be typed. -/
theorem isTyped_of_digits (nonempty : digits ≠ []) (all : ∀ c ∈ digits, isAsciiDigit c = true) :
    IsTyped digits where
  nonempty := nonempty
  isNumeral c mem := isNumeralChar_of_isAsciiDigit (all c mem)
  onePoint := by
    rw [List.count_eq_zero.mpr (not_mem_of_isAsciiDigit all)]
    decide

/-- A whole number without a sign can be typed. -/
theorem isTyped_toDigits (n : Nat) : IsTyped (Nat.toDigits 10 n) :=
  isTyped_of_digits Nat.toDigits_ne_nil fun _ => isAsciiDigit_of_mem_toDigits

/-- Digits with a point among them can be typed. -/
theorem isTyped_of_point (allWhole : ∀ c ∈ whole, isAsciiDigit c = true)
    (allFraction : ∀ c ∈ fraction, isAsciiDigit c = true) :
    IsTyped (whole ++ '.' :: fraction) where
  nonempty := by simp
  isNumeral c mem := by
    rcases List.mem_append.mp mem with mem | mem
    · exact isNumeralChar_of_isAsciiDigit (allWhole c mem)
    · rcases List.mem_cons.mp mem with rfl | mem
      · rfl
      · exact isNumeralChar_of_isAsciiDigit (allFraction c mem)
  onePoint := by
    rw [List.count_append, List.count_cons_self,
      List.count_eq_zero.mpr (not_mem_of_isAsciiDigit allWhole),
      List.count_eq_zero.mpr (not_mem_of_isAsciiDigit allFraction)]

/-- Digits that are filled up with zeros are still digits. -/
theorem isAsciiDigit_of_mem_padRight {width : Nat} (all : ∀ c ∈ digits, isAsciiDigit c = true) :
    ∀ c ∈ padRight width digits, isAsciiDigit c = true :=
  List.forall_mem_append.mpr ⟨all, fun _ => isAsciiDigit_of_mem_zeros⟩

/-- The positional layout makes a numeral that can be typed. -/
theorem isTyped_positional (leading : Int) (all : ∀ c ∈ digits, isAsciiDigit c = true) :
    IsTyped (positional digits leading) := by
  unfold positional
  split
  · exact isTyped_of_point isAsciiDigit_of_mem_zero
      (List.forall_mem_append.mpr ⟨fun _ => isAsciiDigit_of_mem_zeros, all⟩)
  · exact isTyped_of_point
      (isAsciiDigit_of_mem_padRight fun c mem => all c (List.mem_of_mem_take mem))
      (isAsciiDigit_of_mem_padRight fun c mem => all c (List.mem_of_mem_drop mem))

/-- The scientific layout has a letter. -/
theorem mem_scientific (width : Nat) (digits : List Char) (leading : Int) :
    'e' ∈ scientific width digits leading := by
  simp [scientific]

end Layouts

/-! ### The first digit of a number with a fraction -/

/-- Zero has no fraction. -/
theorem index_ne_zero_of_fraction (fraction : isWhole v = false) : index v ≠ 0 := by
  intro zero
  refine not_dvd_of_fraction fraction ?_
  rw [zero, units_zero]
  exact Nat.dvd_zero _

/-- The decimal of a number with a fraction is not above `2 ^ 52`, which is a double itself. -/
theorem magnitude_toDecimal_le_of_fraction (fraction : isWhole v = false) :
    (toDecimal v).magnitude ≤ binade := by
  by_contra above
  obtain ⟨top, -, value, -⟩ := exists_units_eq_binade
  have le : (units top : Rat) ≤ (toDecimal v).magnitude * 2 ^ 1074 := by
    rw [value, Nat.cast_mul, cast_unitsInOne]
    exact mul_le_mul_of_nonneg_right (not_le.mp above).le (pow_nonneg (by norm_num) _)
  have order : units top ≤ units (index v) :=
    units_strictMono.monotone ((isRead_units top).le_of_le (isRead_toDecimal v) le)
  have below := magnitude_lt_of_fraction fraction
  rw [magnitude, div_lt_iff₀ (pow_pos (by norm_num) _), ← cast_unitsInOne, ← Nat.cast_mul,
    Nat.cast_lt] at below
  omega

/-- So the first digit of a number with a fraction is before the place where the scientific layout
begins. -/
theorem leadingExponent_toDecimal_lt_of_fraction (fraction : isWhole v = false) :
    (toDecimal v).leadingExponent < 16 := by
  have first := Decimal.zpow_leadingExponent_le
    (coefficient_toDecimal_ne_zero (index_ne_zero_of_fraction fraction))
  have size : (binade : Rat) < 10 ^ (16 : Int) := by norm_num [binade]
  exact (zpow_lt_zpow_iff_right₀ (by norm_num)).mp
    ((first.trans (magnitude_toDecimal_le_of_fraction fraction)).trans_lt size)

/-- The double nearest to `10 ^ -4` is above it. -/
theorem le_magnitude_of_isRead (read : IsRead (index v) (10 ^ (-4 : Int) * 2 ^ 1074)) :
    10 ^ (-4 : Int) ≤ magnitude v := by
  have nearest : decimalIndex 1 (-4) = 0x3F1A36E2EB1C432D := by decide +kernel
  have there := (decimalIndex_eq_iff (by decide)).mp nearest
  rw [Nat.cast_one, one_mul] at there
  have great : unitsInOne ≤ units 0x3F1A36E2EB1C432D * 10 ^ 4 := by decide +kernel
  have great' : (2 ^ 1074 : Rat) ≤ units 0x3F1A36E2EB1C432D * 10 ^ 4 := by
    rw [← cast_unitsInOne]
    exact_mod_cast great
  rw [magnitude, read.unique there, le_div_iff₀ (pow_pos (by norm_num) _), zpow_neg,
    inv_mul_le_iff₀ (by positivity), mul_comm]
  exact great'

/-- The decimal of a double is on the same side of `10 ^ -4` as the double. -/
theorem le_magnitude_toDecimal_iff (nonzero : index v ≠ 0) :
    10 ^ (-4 : Int) ≤ (toDecimal v).magnitude ↔ 10 ^ (-4 : Int) ≤ magnitude v := by
  have here := isRead_magnitude v
  have there := isRead_toDecimal v
  -- Otherwise `10 ^ -4` is between the two and is read as the double.
  constructor
  · intro above
    by_contra below
    exact below (le_magnitude_of_isRead (here.between there (not_le.mp below).le above))
  · intro above
    by_contra below
    have number : Decimal.magnitude ⟨false, 1, -4⟩ = 10 ^ (-4 : Int) := by
      rw [Decimal.magnitude_mk, Nat.cast_one, one_mul]
    obtain ⟨count, value⟩ : (toDecimal v).OnGrid 4 := by
      refine onGrid_toDecimal (d := ⟨false, 1, -4⟩) ⟨1, by rw [number, Nat.cast_one, one_mul]⟩ ?_
      rw [number]
      exact there.between here (not_le.mp below).le above
    -- Then the decimal is a multiple of `10 ^ -4`, and below it there is only zero.
    rw [value, not_le, mul_lt_iff_lt_one_left (by positivity)] at below
    have zero : count = 0 := Nat.lt_one_iff.mp (by exact_mod_cast below)
    rw [zero, Nat.cast_zero, zero_mul, Decimal.magnitude_eq_zero_iff] at value
    exact coefficient_toDecimal_ne_zero nonzero value

/-- The layout asks for the place of the first digit, and this is a question about the double's
size. -/
theorem neg_four_le_leadingExponent_iff (nonzero : index v ≠ 0) :
    -4 ≤ (toDecimal v).leadingExponent ↔ 10 ^ (-4 : Int) ≤ magnitude v := by
  rw [← le_magnitude_toDecimal_iff nonzero]
  have first := Decimal.zpow_leadingExponent_le (coefficient_toDecimal_ne_zero nonzero)
  have next := (toDecimal v).magnitude_lt
  constructor
  · intro le
    exact (zpow_le_zpow_right₀ (by norm_num) le).trans first
  · intro le
    have less := (zpow_lt_zpow_iff_right₀ (by norm_num)).mp (le.trans_lt next)
    omega

/-! ### Texts -/

/-- The text of a number with a fraction, by the place of its first digit. -/
theorem unsignedText_of_fraction (finite : isFinite v = true) (fraction : isWhole v = false) :
    unsignedText v
      = if 10 ^ (-4 : Int) ≤ magnitude v then
          positional (significantDigits (toDecimal v).coefficient) (toDecimal v).leadingExponent
        else
          scientific 2 (significantDigits (toDecimal v).coefficient)
            (toDecimal v).leadingExponent := by
  have nonzero := index_ne_zero_of_fraction fraction
  have last := leadingExponent_toDecimal_lt_of_fraction fraction
  have first := neg_four_le_leadingExponent_iff nonzero
  rw [unsignedText, if_pos finite, magnitudeText, if_neg (coefficient_toDecimal_ne_zero nonzero)]
  simp [layout, last, first]

/-- From `10 ^ -4` on, the text of a number with a fraction is a numeral that can be typed. -/
theorem isTyped_unsignedText (finite : isFinite v = true) (fraction : isWhole v = false)
    (great : 10 ^ (-4 : Int) ≤ magnitude v) : IsTyped (unsignedText v) := by
  rw [unsignedText_of_fraction finite fraction, if_pos great]
  exact isTyped_positional _ fun _ => isAsciiDigit_of_mem_significantDigits

/-- Below `10 ^ -4` there is a letter in it. -/
theorem mem_unsignedText (finite : isFinite v = true) (fraction : isWhole v = false)
    (small : ¬ 10 ^ (-4 : Int) ≤ magnitude v) : 'e' ∈ unsignedText v := by
  rw [unsignedText_of_fraction finite fraction, if_neg small]
  exact mem_scientific _ _ _

end InfixCalc.Double
