import InfixCalc.Proofs.Double.Shortest

/-!
# `InfixCalc.Proofs.Double.Value`: the numbers that doubles are

A finite double is a rational number, `toRat`, and its absolute value is `magnitude`. Both are
exact, while the decimal that stands for the double is another number in general. They are defined
on the scale of units, and `unpackedNumber?_unpack` says that this is what the standard library
means by the sign, mantissa and exponent of a double.

The whole part of a double and the question whether there is more to it are answered on the scale of
units. This module says what the answers mean for the numbers (`isWhole_iff`,
`wholePart_eq_of_magnitude`), and where numbers with a fraction lie: below `2 ^ 52`, and so close
together that a half is read as no other double than itself (`magnitude_eq_of_isRead_half`).
-/

set_option autoImplicit false

namespace InfixCalc.Double

/-- The number that a finite double is, its sign left aside. -/
def magnitude (v : Float) : Rat :=
  units (index v) / 2 ^ 1074

/-- The number that a finite double is. -/
def toRat (v : Float) : Rat :=
  if isNegative v then -magnitude v else magnitude v

variable {v : Float}

/-- A magnitude on the scale of units. -/
theorem magnitude_mul (v : Float) : magnitude v * 2 ^ 1074 = units (index v) :=
  div_mul_cancel₀ _ (pow_ne_zero _ (by norm_num))

/-- A magnitude has no sign. -/
theorem magnitude_nonneg (v : Float) : 0 ≤ magnitude v :=
  div_nonneg (Nat.cast_nonneg _) (pow_nonneg (by norm_num) _)

/-- The magnitude is the absolute value. -/
theorem abs_toRat (v : Float) : |toRat v| = magnitude v := by
  unfold toRat
  split
  · rw [abs_neg, abs_of_nonneg (magnitude_nonneg v)]
  · rw [abs_of_nonneg (magnitude_nonneg v)]

/-- A double is read as itself. -/
theorem isRead_magnitude (v : Float) : IsRead (index v) (magnitude v * 2 ^ 1074) := by
  rw [magnitude_mul]
  exact isRead_units _

/-- Numbers between two that are read as a double are read as this double. -/
theorem IsRead.between {i : Nat} {x y z : Rat} (lower : IsRead i (x * 2 ^ 1074))
    (upper : IsRead i (y * 2 ^ 1074)) (le : x ≤ z) (le' : z ≤ y) : IsRead i (z * 2 ^ 1074) := by
  have pos : (0 : Rat) ≤ 2 ^ 1074 := pow_nonneg (by norm_num) _
  exact lower.of_le_of_le upper (mul_le_mul_of_nonneg_right le pos)
    (mul_le_mul_of_nonneg_right le' pos)

/-! ### Read off the bits -/

section Unpacked

open Float.Model Float.Model.UnpackedFloat

/-- The number that is meant by a sign, a mantissa and an exponent. -/
def unpackedNumber? : UnpackedFloat → Option Rat
  | .zero _ => some 0
  | .finite s m e _ => some (s.apply m * 2 ^ e)
  | .infinity _ | .notANumber => none

/-- A mantissa and an exponent that give the units of a double, with its sign, give its number. -/
theorem apply_mul_zpow {m k : Nat} {e : Int} (value : units (index v) = m * 2 ^ k)
    (exponent : e = k - 1074) :
    ((Sign.ofBitVec (@unpackSign .binary64 v.toBits.toBitVec)).apply m * 2 ^ e : Rat)
      = toRat v := by
  have size : (m * 2 ^ e : Rat) = magnitude v := by
    rw [magnitude, value, exponent, zpow_sub₀ two_ne_zero, zpow_natCast, Nat.cast_mul,
      Nat.cast_pow, mul_div_assoc]
    rfl
  rw [toRat, ← size, ofBitVec_unpackSign]
  split <;> simp [Sign.apply]

/-- The number of a double is the one that the standard library reads off its bits. -/
theorem unpackedNumber?_unpack (finite : isFinite v = true) :
    unpackedNumber? v.toModel.unpack = some (toRat v) := by
  have below : index v / binade < 2047 := by
    rw [Nat.div_lt_iff_lt_mul (by decide)]
    exact isFinite_iff.mp finite
  have exponent := toNat_unpackExponent v.toBits
  have mantissa := toNat_unpackMantissa v.toBits
  rw [← index] at exponent mantissa
  show unpackedNumber? (UnpackedFloat.unpack .binary64 v.toBits.toBitVec) = _
  unfold UnpackedFloat.unpack
  dsimp only
  split
  · next top =>
      -- The greatest exponent is that of infinity.
      rw [top] at exponent
      exact absurd below (by rw [← exponent]; decide)
  · split
    · next bottom =>
        rw [bottom] at exponent
        have low : index v < binade := (Nat.div_eq_zero_iff_lt (by decide)).mp exponent.symm
        rw [Nat.mod_eq_of_lt low] at mantissa
        split
        · next zero =>
            rw [zero] at mantissa
            have none : magnitude v = 0 := by
              rw [magnitude, ← mantissa]
              exact zero_div _
            rw [unpackedNumber?, toRat, none, neg_zero, ite_self]
        · refine congrArg some (apply_mul_zpow (k := 0) ?_ ?_)
          · rw [units_of_lt low, mantissa, Nat.pow_zero, Nat.mul_one]
          · rw [bottom]
            decide
    · next other =>
        have high : binade ≤ index v := by
          by_contra low
          refine other (BitVec.eq_of_toNat_eq ?_)
          rw [exponent, Nat.div_eq_of_lt (Nat.not_le.mp low)]
          rfl
        refine congrArg some (apply_mul_zpow (k := index v / binade - 1) ?_ ?_)
        · -- The mantissa has a leading one that the bits leave out.
          rw [units_of_le high, ← mantissa, BitVec.toNat_append,
            ← Nat.shiftLeft_add_eq_or_of_lt (BitVec.isLt _)]
          rfl
        · have later : 0 < index v / binade := Nat.div_pos high (by decide)
          rw [exponent]
          show _ - ((1023 : Nat) + (52 : Nat) : Int) = _
          omega

end Unpacked

/-! ### Whole numbers -/

/-- Which magnitudes are whole numbers, on the scale of units. -/
theorem magnitude_eq_iff {n : Nat} : magnitude v = n ↔ units (index v) = n * unitsInOne := by
  rw [magnitude, div_eq_iff (pow_ne_zero _ (by norm_num)), ← cast_unitsInOne]
  exact_mod_cast Iff.rfl

/-- A double is whole if its magnitude is a whole number. -/
theorem isWhole_iff : isWhole v = true ↔ ∃ n : Nat, magnitude v = n := by
  simp only [magnitude_eq_iff, isWhole, beq_iff_eq]
  constructor
  · intro none
    exact ⟨_, (Nat.div_mul_cancel (Nat.dvd_of_mod_eq_zero none)).symm⟩
  · rintro ⟨n, value⟩
    rw [value, Nat.mul_mod_left]

/-- The whole part of a double with a whole magnitude is this magnitude, with the sign. -/
theorem wholePart_eq_of_magnitude {n : Nat} (value : magnitude v = n) :
    wholePart v = if isNegative v then -(n : Int) else n := by
  rw [wholePart, magnitude_eq_iff.mp value, Nat.mul_div_cancel _ unitsInOne_pos]

/-- The whole part of a whole number is the number. -/
theorem toRat_eq_wholePart (whole : isWhole v = true) : toRat v = wholePart v := by
  obtain ⟨n, value⟩ := isWhole_iff.mp whole
  rw [toRat, wholePart_eq_of_magnitude value, value]
  split <;> simp

/-- A double that is a whole number is whole. -/
theorem isWhole_of_toRat {k : Int} (value : toRat v = k) : isWhole v = true := by
  refine isWhole_iff.mpr ⟨k.natAbs, ?_⟩
  rw [← abs_toRat, value, Nat.cast_natAbs, Int.cast_abs]

/-! ### Numbers with a fraction -/

/-- The units of a number with a fraction are no multiple of the units in one. -/
theorem not_dvd_of_fraction (fraction : isWhole v = false) : ¬ unitsInOne ∣ units (index v) := by
  intro whole
  rw [isWhole, Nat.mod_eq_zero_of_dvd whole] at fraction
  cases fraction

/-- Only numbers below `2 ^ 52` have a fraction. -/
theorem magnitude_lt_of_fraction (fraction : isWhole v = false) : magnitude v < binade := by
  obtain ⟨top, -, last, width⟩ := exists_units_eq_binade
  have below : index v < top := by
    by_contra above
    have wide : gap top ∣ units (index v) :=
      (gap_dvd_gap (Nat.not_lt.mp above)).trans (gap_dvd_units _)
    exact not_dvd_of_fraction fraction (width ▸ wide)
  have less : units (index v) < binade * unitsInOne := last ▸ units_strictMono below
  rw [magnitude, div_lt_iff₀ (pow_pos (by norm_num) _), ← cast_unitsInOne, ← Nat.cast_mul]
  exact Nat.cast_lt.mpr less

/-- Where numbers have fractions, a half is read as itself and as no other double. -/
theorem magnitude_eq_of_isRead_half {h : Nat} (fraction : isWhole v = false)
    (read : IsRead (index v) (h / 2 * 2 ^ 1074)) : magnitude v = h / 2 := by
  have scale (n : Nat) : (h / 2 * 2 ^ (n + 1) : Rat) = (h * 2 ^ n : Nat) := by
    push_cast
    ring
  have narrow := not_dvd_of_fraction fraction
  rw [unitsInOne_eq, show 1074 = 1073 + 1 from rfl] at narrow
  rw [scale 1073] at read
  have value := read.eq_units ((gap_dvd_pow narrow).mul_left h)
  refine mul_right_cancel₀ (pow_ne_zero 1074 two_ne_zero) ?_
  rw [magnitude_mul, scale 1073, value]

/-- A half is written exactly, though there may be other decimals as short as it. -/
theorem magnitude_toDecimal_half {h : Nat} (fraction : isWhole v = false)
    (half : magnitude v = h / 2) : (toDecimal v).magnitude = magnitude v := by
  have read := isRead_toDecimal v
  obtain ⟨place, exponent⟩ : ∃ place : Nat, (toDecimal v).exponent = -(place + 1 : Nat) := by
    by_contra whole
    -- With no digit behind the point the decimal would be a whole number, and so would the double.
    obtain ⟨n, exponent⟩ : ∃ n : Nat, (toDecimal v).exponent = n :=
      ⟨(toDecimal v).exponent.toNat, by
        by_contra negative
        exact whole ⟨(-(toDecimal v).exponent - 1).toNat, by omega⟩⟩
    have number : (toDecimal v).magnitude = ((toDecimal v).coefficient * 10 ^ n : Nat) := by
      rw [Decimal.magnitude, exponent, zpow_natCast]
      push_cast
      rfl
    rw [number] at read
    rw [isWhole_of_isRead read] at fraction
    cases fraction
  have multiple : ((h * 5 * 10 ^ place : Nat) * 10 ^ (toDecimal v).exponent : Rat) = h / 2 := by
    rw [exponent, zpow_neg, zpow_natCast, pow_succ]
    push_cast
    field_simp
    ring
  have exact : (toDecimal v).magnitude * 2 ^ 1074 = units (index v) :=
    magnitude_toDecimal_of_multiple (by rw [multiple, ← half, magnitude_mul])
  rw [← magnitude_mul] at exact
  exact mul_right_cancel₀ (pow_ne_zero _ (by norm_num)) exact

end InfixCalc.Double
