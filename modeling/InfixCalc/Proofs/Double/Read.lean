import InfixCalc.Proofs.Double.Value

/-!
# `InfixCalc.Proofs.Double.Read`: what reading a number comes to

`IsReading v x` says, in terms of rational numbers and without the scale of units, that the double
`v` is what a number `x` that is not negative should be read as: it carries no sign, it is a number,
and it is infinite exactly from the number on that lies halfway between the greatest finite double
and `2 ^ 1024` (`overflow`). Otherwise no finite double is nearer to `x`, and of two equally near
ones it is the one with the even index.

Decimals are read so (`isReading_ofDecimal`). The bound is exact, since the last finite double has
an odd index: the number halfway between it and infinity is read as infinity
(`IsRead.lt_infinityIndex_iff`). There is only one such double (`IsReading.unique`).
-/

set_option autoImplicit false

namespace InfixCalc.Double

/-- Where numbers begin to be read as infinity. -/
def overflow : Rat :=
  2 ^ 1024 - 2 ^ 970

/-- The double is what a number that is not negative is read as. -/
structure IsReading (v : Float) (x : Rat) : Prop where
  noSign : isNegative v = false
  isNumber : isNotANumber v = false
  finite : isFinite v = true ↔ x < overflow
  nearest : isFinite v = true → ∀ w, isFinite w = true → |toRat v - x| ≤ |toRat w - x|
  even : isFinite v = true → ∀ w, isFinite w = true → |toRat v - x| = |toRat w - x| →
    index w = index v ∨ index v % 2 = 0

/-! ### The end of the scale -/

/-- The distance from the last finite double to the place of infinity. -/
theorem cast_gap_last : (gap (infinityIndex - 1) : Rat) = 2 ^ 971 * 2 ^ 1074 := by
  have place : (infinityIndex - 1) / binade - 1 = 971 + 1074 := by decide
  rw [gap, place, Nat.cast_pow, Nat.cast_ofNat, pow_add]

/-- The magnitude of the last finite double, from the step that leads to infinity. -/
theorem cast_units_last :
    (units (infinityIndex - 1) : Rat) = 2 ^ 1024 * 2 ^ 1074 - 2 ^ 971 * 2 ^ 1074 := by
  have step := units_succ (infinityIndex - 1)
  have next : infinityIndex - 1 + 1 = infinityIndex := rfl
  rw [next] at step
  rw [← cast_units_infinityIndex, ← cast_gap_last, step, Nat.cast_add, add_sub_cancel_right]

/-- What is read as a finite double, and what is read as infinity or would be beyond it. -/
theorem IsRead.lt_infinityIndex_iff {i : Nat} {x : Rat} (read : IsRead i (x * 2 ^ 1074)) :
    i < infinityIndex ↔ x < overflow := by
  have unit : (0 : Rat) < 2 ^ 1074 := pow_pos (by norm_num) _
  -- Twice the bound is the sum of the last finite magnitude and the one of infinity.
  have bound : 2 * (overflow * 2 ^ 1074)
      = (units (infinityIndex - 1) + units infinityIndex : Rat) := by
    have double : (2 : Rat) ^ 971 = 2 * 2 ^ 970 := pow_succ' 2 970
    rw [cast_units_last, cast_units_infinityIndex, overflow, double]
    -- The powers are too great to be written out, and they do not matter here.
    generalize (2 : Rat) ^ 1024 = a
    generalize (2 : Rat) ^ 970 = b
    generalize (2 : Rat) ^ 1074 = u
    ring
  rw [← mul_lt_mul_iff_left₀ unit, ← mul_lt_mul_iff_right₀ (show (0 : Rat) < 2 by norm_num), bound]
  generalize x * 2 ^ 1074 = y at read ⊢
  constructor
  · intro finite
    rcases Nat.lt_or_ge i (infinityIndex - 1) with below | last
    · have high := read.high
      have here : (units i : Rat) < units (infinityIndex - 1) := by
        exact_mod_cast units_strictMono below
      have next : (units (i + 1) : Rat) < units infinityIndex := by
        exact_mod_cast units_strictMono (by omega)
      linarith
    · -- The last index is odd, so the point halfway to infinity is not read as its double.
      obtain rfl : i = infinityIndex - 1 := by omega
      have odd : ¬ (infinityIndex - 1) % 2 = 0 := by decide
      rw [IsRead, if_neg odd] at read
      exact read.2
  · intro less
    by_contra beyond
    have low := read.low
    have here : (units infinityIndex : Rat) ≤ units i := by
      exact_mod_cast units_strictMono.monotone (Nat.not_lt.mp beyond)
    have below : (units (infinityIndex - 1) : Rat) ≤ units (i - 1) := by
      exact_mod_cast units_strictMono.monotone (by omega)
    linarith

/-! ### Distances -/

/-- Without a sign a double is its magnitude. -/
theorem toRat_of_nonneg {v : Float} (nonneg : isNegative v = false) : toRat v = magnitude v := by
  rw [toRat, nonneg, if_neg Bool.false_ne_true]

/-- On the other side of zero a double is not nearer to a number. -/
theorem abs_magnitude_sub_le (w : Float) {x : Rat} (nonneg : 0 ≤ x) :
    |magnitude w - x| ≤ |toRat w - x| := by
  rw [← abs_toRat]
  calc |(|toRat w| - x)| = |(|toRat w| - |x|)| := by rw [abs_of_nonneg nonneg]
    _ ≤ |toRat w - x| := abs_abs_sub_abs_le _ _

/-- A distance on the scale of units is the distance of the numbers, scaled by the units in one. -/
theorem abs_units_sub (w : Float) (x : Rat) :
    |(units (index w) : Rat) - x * 2 ^ 1074| = |magnitude w - x| * 2 ^ 1074 := by
  have unit : (0 : Rat) < 2 ^ 1074 := pow_pos (by norm_num) _
  rw [← magnitude_mul, ← sub_mul, abs_mul, abs_of_pos unit]

section
variable {v : Float} {x : Rat} {i : Nat}

/-- A finite double at the index that a number is read at is nearest to it. -/
theorem IsRead.le_of_index_eq (read : IsRead i (x * 2 ^ 1074)) (place : index v = i) (w : Float) :
    |magnitude v - x| ≤ |magnitude w - x| ∧
    (|magnitude v - x| = |magnitude w - x| → index w = index v ∨ index v % 2 = 0) := by
  have unit : (0 : Rat) < 2 ^ 1074 := pow_pos (by norm_num) _
  obtain ⟨near, tie⟩ := read.isNearest (index w)
  rw [← place, abs_units_sub, abs_units_sub] at near tie
  refine ⟨le_of_mul_le_mul_right near unit, fun same => ?_⟩
  rcases tie (by rw [same]) with here | even
  · exact .inl here.symm
  · exact .inr even

/-- The double at the index that a number is read at is what the number is read as. -/
theorem isReading_of_isRead (nonneg : 0 ≤ x) (positive : isNegative v = false)
    (place : index v = min i infinityIndex) (read : IsRead i (x * 2 ^ 1074)) : IsReading v x := by
  have finite : isFinite v = true ↔ i < infinityIndex := by
    rw [isFinite_iff, place]
    omega
  have here (isFinite : isFinite v = true) : index v = i := by
    rw [place, Nat.min_eq_left (finite.mp isFinite).le]
  refine ⟨positive, ?_, finite.trans read.lt_infinityIndex_iff, ?_, ?_⟩
  · have le : index v ≤ infinityIndex := place ▸ Nat.min_le_right _ _
    exact decide_eq_false (Nat.not_lt.mpr le)
  · intro isFinite w _
    rw [toRat_of_nonneg positive]
    exact (read.le_of_index_eq (here isFinite) w).1.trans (abs_magnitude_sub_le w nonneg)
  · intro isFinite w _ same
    rw [toRat_of_nonneg positive] at same
    obtain ⟨near, tie⟩ := read.le_of_index_eq (here isFinite) w
    -- The double without its sign is as near, so that it does not matter on which side it lies.
    exact tie (le_antisymm near (same ▸ abs_magnitude_sub_le w nonneg))

end

/-- A decimal without a sign is read as the double that its number should be read as. -/
theorem isReading_ofDecimal {d : Decimal} (positive : d.negative = false) :
    IsReading (ofDecimal d) d.magnitude := by
  obtain ⟨i, place, read⟩ := exists_isRead_decimalIndex d.coefficient d.exponent
  have le := decimalIndex_le d.coefficient d.exponent
  refine isReading_of_isRead ?_ ?_ ?_ read
  · exact mul_nonneg (Nat.cast_nonneg _) (zpow_nonneg (by norm_num) _)
  · rw [ofDecimal, isNegative_ofIndex _ le, positive]
  · rw [ofDecimal, index_ofIndex _ le, place]

/-- A number that is not finite is at the place of infinity. -/
theorem index_of_infinite {v : Float} (infinite : isFinite v = false)
    (number : isNotANumber v = false) : index v = infinityIndex := by
  have above := of_decide_eq_false infinite
  have below := of_decide_eq_false number
  omega

/-- A lower place means a smaller magnitude. -/
theorem magnitude_lt_of_index_lt {v w : Float} (less : index v < index w) :
    magnitude v < magnitude w := by
  have unit : (0 : Rat) < 2 ^ 1074 := pow_pos (by norm_num) _
  exact div_lt_div_of_pos_right (by exact_mod_cast units_strictMono less) unit

namespace IsReading

variable {v w : Float} {x : Rat}

/-- Of two finite doubles that a number is read as, none is below the other. If one were, then both
would be as near and even, and the double between them would be nearer. -/
theorem not_lt (read : IsReading v x) (read' : IsReading w x) (finite : isFinite v = true)
    (finite' : isFinite w = true) : ¬ index v < index w := by
  intro less
  have near : |magnitude v - x| = |magnitude w - x| := by
    rw [← toRat_of_nonneg read.noSign, ← toRat_of_nonneg read'.noSign]
    exact le_antisymm (read.nearest finite w finite') (read'.nearest finite' v finite)
  have order := magnitude_lt_of_index_lt less
  -- Both are as near, so both indices are even, and there is a double between the two.
  have even : index v % 2 = 0 := by
    refine (read.even finite w finite' ?_).resolve_left less.ne'
    rw [toRat_of_nonneg read.noSign, toRat_of_nonneg read'.noSign, near]
  have even' : index w % 2 = 0 := by
    refine (read'.even finite' v finite ?_).resolve_left less.ne
    rw [toRat_of_nonneg read.noSign, toRat_of_nonneg read'.noSign, near]
  have bound := isFinite_iff.mp finite'
  obtain ⟨u, place, positive⟩ : ∃ u, index u = index v + 1 ∧ isNegative u = false :=
    ⟨ofIndex false (index v + 1), index_ofIndex _ (by omega), isNegative_ofIndex _ (by omega)⟩
  have left := magnitude_lt_of_index_lt (show index v < index u by omega)
  have right := magnitude_lt_of_index_lt (show index u < index w by omega)
  have nearer := read.nearest finite u (isFinite_iff.mpr (by omega))
  rw [toRat_of_nonneg read.noSign, toRat_of_nonneg positive] at nearer
  -- It is nearer than both.
  rcases abs_cases (magnitude v - x) with ⟨first, _⟩ | ⟨first, _⟩ <;>
    rcases abs_cases (magnitude w - x) with ⟨second, _⟩ | ⟨second, _⟩ <;>
      rcases abs_cases (magnitude u - x) with ⟨third, _⟩ | ⟨third, _⟩ <;> linarith

/-- A number is read as one double only. -/
theorem unique (read : IsReading v x) (read' : IsReading w x) : v = w := by
  have same : index v = index w := by
    cases finite : isFinite v with
    -- If one is infinite, so is the other, since the number is beyond the bound.
    | false =>
        have finite' : isFinite w = false := by
          rw [Bool.eq_false_iff, ne_eq, read'.finite, ← read.finite, finite]
          exact Bool.false_ne_true
        rw [index_of_infinite finite read.isNumber,
          index_of_infinite finite' read'.isNumber]
    | true =>
        have finite' : isFinite w = true := read'.finite.mpr (read.finite.mp finite)
        exact Nat.le_antisymm (Nat.not_lt.mp (read'.not_lt read finite' finite))
          (Nat.not_lt.mp (read.not_lt read' finite finite'))
  rw [← ofIndex_index v, ← ofIndex_index w, same, read.noSign, read'.noSign]

end IsReading

end InfixCalc.Double
