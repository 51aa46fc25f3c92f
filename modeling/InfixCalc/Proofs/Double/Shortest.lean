import InfixCalc.Double.Shortest
import InfixCalc.Proofs.Decimal
import InfixCalc.Proofs.Double.Bits
import InfixCalc.Proofs.Double.Nearest
import Mathlib.Tactic.IntervalCases

/-!
# `InfixCalc.Proofs.Double.Shortest`: the decimal that stands for a double

The search for the shortest decimal goes through the powers of ten from the coarsest to the finest
and stops at the first one with a multiple that is read as the double. This module says what it
finds:

* `ofDecimal_toDecimal`: the decimal is read as the double that it stands for.
* `onGrid_toDecimal`: if any whole number of steps of a power of ten is read as the double, the
  decimal that stands for it is such a number too.
* `magnitude_toDecimal_of_multiple`: if the double has no digit beyond the last place of the
  decimal, the decimal is exact.
* `exists_digitCount_le`: no decimal that is read as the double has fewer digits.

The second one is why rounded results look rounded. It rests on `le_coarsest`, which says that the
search does not pass over a power with a multiple in the basin. The search begins below the power of
ten that follows the double, so this power itself needs a separate argument (`near_of_holds_pow`):
no double but one that is very near to it is read from it, and then the first step of the search
finds it as ten times the power before.
-/

set_option autoImplicit false

namespace InfixCalc.Double

/-! ### The search -/

section Search

variable {b : Basin} {exact : Nat}

/-- A basin has no holes. -/
theorem Basin.holds_of_le_of_le {l m n : Nat} (lower : b.holds l = true) (upper : b.holds n = true)
    (le : l ≤ m) (le' : m ≤ n) : b.holds m = true := by
  unfold Basin.holds at *
  split at lower
  · rw [if_pos ‹_›] at upper ⊢
    simp only [Bool.and_eq_true, decide_eq_true_eq] at *
    omega
  · rw [if_neg ‹_›] at upper ⊢
    simp only [Bool.and_eq_true, decide_eq_true_eq] at *
    omega

/-- What a basin holds lies between its ends. -/
theorem Basin.bounds {n : Nat} (held : b.holds n = true) : b.low ≤ 2 * n ∧ 2 * n ≤ b.high := by
  unfold Basin.holds at held
  split at held
  · simp only [Bool.and_eq_true, decide_eq_true_eq] at held
    omega
  · simp only [Bool.and_eq_true, decide_eq_true_eq] at held
    omega

/-- A ratio is rounded to one of the two whole numbers that it lies between. -/
theorem roundHalfEven_eq_or (num den : Nat) :
    roundHalfEven num den = num / den ∨ roundHalfEven num den = num / den + 1 := by
  unfold roundHalfEven
  dsimp only
  split
  · exact .inl rfl
  · split
    · exact .inr rfl
    · omega

/-- A multiple that is found is in the basin. -/
theorem holds_of_multipleIn?_eq_some {step multiple : Nat}
    (found : multipleIn? b exact step = some multiple) : b.holds (multiple * step) = true := by
  unfold multipleIn? at found
  dsimp only at found
  split at found
  · next below above =>
      cases found
      rcases roundHalfEven_eq_or exact step with same | same
      · rw [same, below]
      · rw [same, above]
  · next below _ =>
      cases found
      exact below
  · next _ above =>
      cases found
      exact above
  · cases found

/-- If any multiple of a step is in the basin, then one next to `exact` is. -/
theorem exists_multipleIn?_eq_some {step k : Nat} (pos : 0 < step) (here : b.holds exact = true)
    (there : b.holds (k * step) = true) : ∃ multiple, multipleIn? b exact step = some multiple := by
  have lower : exact / step * step ≤ exact := Nat.div_mul_le_self exact step
  have upper : exact ≤ (exact / step + 1) * step := by
    rw [Nat.mul_comm]
    exact (Nat.lt_mul_div_succ exact pos).le
  -- The multiple that is known is on one side, and the one next to `exact` on this side lies
  -- between.
  have next :
      b.holds (exact / step * step) = true ∨ b.holds ((exact / step + 1) * step) = true := by
    rcases Nat.lt_or_ge (exact / step) k with far | near
    · exact .inr (Basin.holds_of_le_of_le here there upper (Nat.mul_le_mul_right _ far))
    · exact .inl (Basin.holds_of_le_of_le there here (Nat.mul_le_mul_right _ near) lower)
  unfold multipleIn?
  dsimp only
  split
  · exact ⟨_, rfl⟩
  · exact ⟨_, rfl⟩
  · exact ⟨_, rfl⟩
  · next below above =>
      rw [below, above] at next
      simp at next

/-- What the search ends with is in the basin. At the last power, where a step is one, this is the
number that it began with. -/
theorem holds_coarsest (here : b.holds exact = true) (power : Nat) :
    b.holds ((coarsest b exact power).1 * 10 ^ (coarsest b exact power).2) = true := by
  induction power with
  | zero => simpa [coarsest] using here
  | succ power ih =>
      rw [coarsest]
      split
      · next found => exact holds_of_multipleIn?_eq_some found
      · exact ih

/-- The search does not pass over a power of ten with a multiple in the basin. -/
theorem le_coarsest {k place power : Nat} (here : b.holds exact = true)
    (there : b.holds (k * 10 ^ place) = true) (lt : place < power) :
    place ≤ (coarsest b exact power).2 := by
  -- The search goes from coarse to fine, so it meets the known power unless it has stopped before.
  induction power with
  | zero => omega
  | succ power ih =>
      rw [coarsest]
      split
      · omega
      · next none =>
          have ne : place ≠ power := by
            rintro rfl
            obtain ⟨multiple, found⟩ :=
              exists_multipleIn?_eq_some (Nat.pow_pos (by decide)) here there
            rw [Nat.pow_eq] at none
            rw [found] at none
            cases none
          exact ih (by omega)

/-- A step that goes into `exact` is found to go into `exact` itself. -/
theorem multipleIn?_of_dvd {step : Nat} (pos : 0 < step) (here : b.holds exact = true)
    (whole : step ∣ exact) : multipleIn? b exact step = some (exact / step) := by
  have same : exact / step * step = exact := Nat.div_mul_cancel whole
  have nearest : roundHalfEven exact step = exact / step := by
    unfold roundHalfEven
    dsimp only
    rw [Nat.mod_eq_zero_of_dvd whole, if_pos (by omega)]
  unfold multipleIn?
  dsimp only
  rw [same, here, nearest]
  cases b.holds ((exact / step + 1) * step) <;> rfl

/-- Of the multiples of the power that is found, `exact` is preferred if it is one. -/
theorem coarsest_eq_exact {power : Nat} (here : b.holds exact = true)
    (whole : 10 ^ (coarsest b exact power).2 ∣ exact) :
    (coarsest b exact power).1 * 10 ^ (coarsest b exact power).2 = exact := by
  induction power with
  | zero => simp [coarsest]
  | succ power ih =>
      rw [coarsest, Nat.pow_eq] at whole ⊢
      cases found : multipleIn? b exact (10 ^ power) with
      | some multiple =>
          simp only [found] at whole ⊢
          rw [multipleIn?_of_dvd (Nat.pow_pos (by decide)) here whole] at found
          cases found
          exact Nat.div_mul_cancel whole
      | none =>
          simp only [found] at whole ⊢
          exact ih whole

/-- If the power of ten next above `exact` is in the basin, and `exact` is nearer to it than to nine
tenths of it, it is found at the first step. -/
theorem coarsest_eq_of_near {power : Nat} (above : b.holds (10 ^ (power + 1)) = true)
    (below : exact < 10 ^ (power + 1)) (near : 19 * 10 ^ (power + 1) < 20 * exact) :
    coarsest b exact (power + 1) = (10, power) := by
  have pos : 0 < 10 ^ power := Nat.pow_pos (by decide)
  rw [Nat.pow_succ] at above below near
  have nine : exact / 10 ^ power = 9 := Nat.div_eq_of_lt_le (by omega) (by omega)
  have rest := Nat.div_add_mod exact (10 ^ power)
  rw [nine] at rest
  have up : roundHalfEven exact (10 ^ power) = 10 := by
    unfold roundHalfEven
    dsimp only
    rw [nine, if_neg (by omega), if_pos (by omega)]
  have ten : b.holds ((9 + 1) * 10 ^ power) = true := by
    rw [Nat.mul_comm]
    exact above
  have found : multipleIn? b exact (10 ^ power) = some 10 := by
    simp only [multipleIn?, nine, ten, up]
    split <;> simp_all
  rw [coarsest, Nat.pow_eq, found]

end Search

/-! ### Decimal units -/

/-- A unit in decimal units, by its first two digits. The proofs about small doubles need no more of
it. -/
theorem decimalUnits_bounds : 49 * 10 ^ 749 ≤ decimalUnits ∧ decimalUnits < 50 * 10 ^ 749 := by
  decide +kernel

/-- There are decimal units in a unit, so it may be divided by their number. -/
theorem decimalUnits_pos : 0 < decimalUnits := by
  decide +kernel

/-- The decimal units in a unit, as a rational number. -/
theorem cast_decimalUnits : (decimalUnits : Rat) = 5 ^ 1074 := by
  unfold decimalUnits
  generalize 1074 = n
  rw [Nat.pow_eq, Nat.cast_pow, Nat.cast_ofNat]

/-- The basin of a double is what is read as the double. -/
theorem holds_basin_iff {i n : Nat} :
    (basin i).holds n = true ↔ IsRead i (n / decimalUnits) := by
  rw [isRead_div_iff decimalUnits_pos, Basin.holds, basin]
  simp only [beq_iff_eq]
  split
  · simp only [Bool.and_eq_true, decide_eq_true_eq]
  · simp only [Bool.and_eq_true, decide_eq_true_eq]

/-- The same number, on the scale of units and on that of decimal units. -/
theorem mul_zpow_sub_eq_div (n : Nat) (power : Int) :
    (n * 10 ^ (power - 1074) * 2 ^ 1074 : Rat) = n * 10 ^ power / decimalUnits := by
  have scale (width : Nat) :
      (n * 10 ^ (power - width) * 2 ^ width : Rat) = n * 10 ^ power / 5 ^ width := by
    have ten : (10 : Rat) ^ width = 2 ^ width * 5 ^ width := by
      rw [← mul_pow]
      norm_num
    rw [zpow_sub₀ (by norm_num), zpow_natCast, ten]
    field_simp
  rw [cast_decimalUnits]
  exact scale 1074

/-- Equal numbers of the decimal scale are equal decimals. -/
theorem mul_zpow_sub_eq {a b m n : Nat} (same : a * 10 ^ m = b * 10 ^ n) :
    (a * 10 ^ (m - 1074 : Int) : Rat) = b * 10 ^ (n - 1074 : Int) := by
  have same' : (a * 10 ^ m : Rat) = b * 10 ^ n := by exact_mod_cast same
  rw [zpow_sub₀ (by norm_num), zpow_sub₀ (by norm_num), zpow_natCast, zpow_natCast, mul_div_assoc',
    mul_div_assoc', same']

/-- Which decimals the basin of a double holds: those that are read as the double. -/
theorem holds_mul_pow_iff {i k place : Nat} :
    (basin i).holds (k * 10 ^ place) = true ↔
      IsRead i (k * 10 ^ (place - 1074 : Int) * 2 ^ 1074) := by
  rw [holds_basin_iff, mul_zpow_sub_eq_div, zpow_natCast, Nat.cast_mul, Nat.cast_pow,
    Nat.cast_ofNat]

/-- A double is in its own basin. -/
theorem holds_exact (i : Nat) : (basin i).holds (units i * decimalUnits) = true := by
  have pos : (decimalUnits : Rat) ≠ 0 := by exact_mod_cast decimalUnits_pos.ne'
  rw [holds_basin_iff, Nat.cast_mul, mul_div_cancel_right₀ _ pos]
  exact isRead_units i

/-- The numbers that are read as one double are within a factor of three of each other. -/
theorem le_three_mul {i a b : Nat} (nonzero : i ≠ 0) (held : (basin i).holds a = true)
    (held' : (basin i).holds b = true) : b ≤ 3 * a := by
  have low := (Basin.bounds held).1
  have high := (Basin.bounds held').2
  simp only [basin] at low high
  -- The next double is twice as great at most.
  have step : units (i + 1) ≤ 2 * units i := by
    have narrow := gap_mul_le_units (Nat.one_le_iff_ne_zero.mpr nonzero) (show 1 ≤ binade by decide)
    rw [units_succ]
    omega
  have wide : (units i + units (i + 1)) * decimalUnits
      ≤ 3 * ((units (i - 1) + units i) * decimalUnits) := by
    rw [← Nat.mul_assoc]
    exact Nat.mul_le_mul_right _ (by omega)
  omega

/-- Zero is in no basin but its own. -/
theorem not_holds_zero {i : Nat} (nonzero : i ≠ 0) : (basin i).holds 0 = false := by
  rw [Bool.eq_false_iff]
  intro held
  have read := holds_basin_iff.mp held
  rw [Nat.cast_zero, zero_div] at read
  exact nonzero (read.unique (isRead_zero le_rfl (by norm_num)))

/-! ### The power of ten above a double -/

/-- Among the first ten doubles, only that at index two has a power of ten above it in its basin. -/
theorem eq_two_of_lt_ten {i power : Nat} (small : i < 10)
    (half : 2 * 10 ^ power ≤ (2 * i + 1) * decimalUnits) (below : i * decimalUnits < 10 ^ power)
    (nonzero : i ≠ 0) : i = 2 ∧ 10 ^ power = 100 * 10 ^ 749 := by
  obtain ⟨low, high⟩ := decimalUnits_bounds
  generalize 749 = place at low high ⊢
  have first : 1 * decimalUnits ≤ i * decimalUnits :=
    Nat.mul_le_mul_right _ (Nat.one_le_iff_ne_zero.mpr nonzero)
  have last : (2 * i + 1) * decimalUnits ≤ 19 * decimalUnits := Nat.mul_le_mul_right _ (by omega)
  have exponent : power = place + 2 := by
    by_contra other
    rcases Nat.lt_or_ge power (place + 2) with less | more
    · have bound : 10 ^ power ≤ 10 ^ (place + 1) := Nat.pow_le_pow_right (by decide) (by omega)
      rw [Nat.pow_succ] at bound
      omega
    · have bound : 10 ^ (place + 3) ≤ 10 ^ power := Nat.pow_le_pow_right (by decide) (by omega)
      rw [Nat.pow_add] at bound
      omega
  rw [exponent, Nat.pow_add] at half below ⊢
  generalize decimalUnits = width at *
  interval_cases i <;> omega

/-- A double that a greater power of ten is read as is nearer to it than to nine tenths of it.
Beyond the first ten doubles the gaps are too small for anything else. -/
theorem near_of_holds_pow {i power : Nat} (nonzero : i ≠ 0)
    (held : (basin i).holds (10 ^ power) = true) (below : units i * decimalUnits < 10 ^ power) :
    19 * 10 ^ power < 20 * (units i * decimalUnits) := by
  have half := (Basin.bounds held).2
  simp only [basin] at half
  rcases Nat.lt_or_ge i 10 with first | later
  · have value : units i = i ∧ units (i + 1) = i + 1 := by
      interval_cases i <;> decide
    -- Only the double at index two is left, and a lower bound on the width of a unit settles it.
    rw [value.1] at below ⊢
    rw [value.1, value.2, ← Nat.add_assoc, ← Nat.two_mul] at half
    obtain ⟨rfl, power⟩ := eq_two_of_lt_ten first half below nonzero
    have low := decimalUnits_bounds.1
    rw [power]
    generalize 749 = place at low ⊢
    omega
  · -- The power is half a gap away at most, and a gap is a tenth of the double at most.
    have wide : gap i * 10 * decimalUnits ≤ units i * decimalUnits :=
      Nat.mul_le_mul_right _ (gap_mul_le_units later (by decide))
    have sum : (units i + (units i + gap i)) * decimalUnits
        = 2 * (units i * decimalUnits) + gap i * decimalUnits := by ring
    have pulled : gap i * 10 * decimalUnits = 10 * (gap i * decimalUnits) := by ring
    rw [units_succ] at half
    omega

/-! ### What the search finds -/

/-- What the search finds for the double at an index: a number of steps and the power of ten that a
step is. -/
def shortest (i : Nat) : Nat × Nat :=
  coarsest (basin i) (units i * decimalUnits) (digitCount (units i * decimalUnits))

/-- What the search finds is read as the double. -/
theorem holds_shortest (i : Nat) : (basin i).holds ((shortest i).1 * 10 ^ (shortest i).2) = true :=
  holds_coarsest (holds_exact i) _

/-- Of the powers of ten above a double only the next one can be read as the double. -/
theorem le_digitCount_of_holds {i place : Nat} (nonzero : i ≠ 0)
    (held : (basin i).holds (10 ^ place) = true) :
    place ≤ digitCount (units i * decimalUnits) := by
  by_contra beyond
  have wide := le_three_mul nonzero (holds_exact i) held
  have within := lt_pow_digitCount (units i * decimalUnits)
  have ten : 10 ^ (digitCount (units i * decimalUnits) + 1) ≤ 10 ^ place :=
    Nat.pow_le_pow_right (by decide) (by omega)
  rw [Nat.pow_succ] at ten
  omega

/-- If any whole number of steps of a power of ten is read as the double, then what the search finds
is such a number. -/
theorem pow_dvd_shortest {i k place : Nat} (nonzero : i ≠ 0)
    (held : (basin i).holds (k * 10 ^ place) = true) :
    10 ^ place ∣ (shortest i).1 * 10 ^ (shortest i).2 := by
  -- The search finds the power unless it begins below it.
  rcases Nat.lt_or_ge place (digitCount (units i * decimalUnits)) with early | late
  · exact (Nat.pow_dvd_pow 10 (le_coarsest (holds_exact i) held early)).mul_left _
  · -- The search begins too low to see this power, which is the one next above the double.
    have within := lt_pow_digitCount (units i * decimalUnits)
    have positive : k ≠ 0 := by
      rintro rfl
      rw [Nat.zero_mul, not_holds_zero nonzero] at held
      cases held
    have above : units i * decimalUnits < 10 ^ place :=
      within.trans_le (Nat.pow_le_pow_right (by decide) late)
    have power : (basin i).holds (10 ^ place) = true :=
      Basin.holds_of_le_of_le (holds_exact i) held above.le
        (Nat.le_mul_of_pos_left _ (Nat.pos_of_ne_zero positive))
    have same : place = digitCount (units i * decimalUnits) :=
      Nat.le_antisymm (le_digitCount_of_holds nonzero power) late
    have near := near_of_holds_pow nonzero power above
    obtain ⟨n, count⟩ : ∃ n, digitCount (units i * decimalUnits) = n + 1 :=
      ⟨digitCount (units i * decimalUnits) - 1, by
        have := digitCount_pos (units i * decimalUnits)
        omega⟩
    rw [same, count] at power above near
    rw [same, shortest, count, coarsest_eq_of_near power above near, Nat.pow_succ, Nat.mul_comm]

/-! ### Reading a decimal -/

section Read

variable {d d' : Decimal}

/-- A decimal is read at its index. -/
theorem index_ofDecimal (d : Decimal) :
    index (ofDecimal d) = decimalIndex d.coefficient d.exponent :=
  index_ofIndex _ (decimalIndex_le _ _)

/-- A decimal is read with its sign. -/
theorem isNegative_ofDecimal (d : Decimal) : isNegative (ofDecimal d) = d.negative :=
  isNegative_ofIndex _ (decimalIndex_le _ _)

/-- A decimal lies among the numbers that are read as the finite double that it is read as. -/
theorem isRead_ofDecimal (finite : isFinite (ofDecimal d) = true) :
    IsRead (index (ofDecimal d)) (d.magnitude * 2 ^ 1074) := by
  exact (decimalIndex_eq_iff (isFinite_iff.mp finite)).mp (index_ofDecimal d).symm

/-- Decimals with the same sign and number are read as the same double. -/
theorem ofDecimal_congr (sign : d.negative = d'.negative) (number : d.magnitude = d'.magnitude) :
    ofDecimal d = ofDecimal d' := by
  rw [ofDecimal, ofDecimal, sign, decimalIndex_congr number]

end Read

/-! ### The decimal of a double -/

/-- The decimal of a double has the sign of the double. -/
@[simp]
theorem negative_toDecimal (v : Float) : (toDecimal v).negative = isNegative v := by
  unfold toDecimal
  split <;> rfl

/-- Zero has one digit behind its point. -/
theorem toDecimal_of_eq_zero {v : Float} (zero : index v = 0) :
    toDecimal v = ⟨isNegative v, 0, -1⟩ := by
  rw [toDecimal, if_pos zero]

/-- Any other double has the decimal that the search finds. -/
theorem toDecimal_of_ne_zero {v : Float} (nonzero : index v ≠ 0) :
    toDecimal v = ⟨isNegative v, (shortest (index v)).1, (shortest (index v)).2 - 1074⟩ := by
  rw [toDecimal, if_neg nonzero]
  rfl

/-- What the decimal of a double other than zero is, without the search for it. -/
theorem exists_toDecimal_eq {v : Float} (nonzero : index v ≠ 0) :
    ∃ steps power : Nat, toDecimal v = ⟨isNegative v, steps, power - 1074⟩ ∧
      (basin (index v)).holds (steps * 10 ^ power) = true ∧
      ∀ k place, (basin (index v)).holds (k * 10 ^ place) = true →
        10 ^ place ∣ steps * 10 ^ power := by
  exact ⟨_, _, toDecimal_of_ne_zero nonzero, holds_shortest _,
    fun k place held => pow_dvd_shortest nonzero held⟩

/-- The decimal of a double lies among the numbers that are read as the double. -/
theorem isRead_toDecimal (v : Float) : IsRead (index v) ((toDecimal v).magnitude * 2 ^ 1074) := by
  by_cases zero : index v = 0
  · rw [toDecimal_of_eq_zero zero, Decimal.magnitude_mk, Nat.cast_zero, zero_mul, zero_mul, zero]
    exact isRead_zero le_rfl (by norm_num)
  · obtain ⟨steps, power, decimal, held, -⟩ := exists_toDecimal_eq zero
    rw [decimal, Decimal.magnitude_mk]
    exact holds_mul_pow_iff.mp held

/-- The decimal of a finite double is read as this double. -/
theorem ofDecimal_toDecimal {v : Float} (finite : isFinite v = true) :
    ofDecimal (toDecimal v) = v := by
  rw [ofDecimal, (decimalIndex_eq_iff (isFinite_iff.mp finite)).mpr (isRead_toDecimal v),
    negative_toDecimal, ofIndex_index]

/-- If any whole number of steps of `10 ^ -places` is read as a double, then the decimal of the
double is such a number too. -/
theorem onGrid_toDecimal {v : Float} {places : Int} {d : Decimal} (grid : d.OnGrid places)
    (read : IsRead (index v) (d.magnitude * 2 ^ 1074)) : (toDecimal v).OnGrid places := by
  by_cases zero : index v = 0
  · rw [toDecimal_of_eq_zero zero]
    exact ⟨0, by rw [Decimal.magnitude_mk, Nat.cast_zero, zero_mul, zero_mul]⟩
  · obtain ⟨count, value⟩ := grid
    obtain ⟨steps, power, decimal, -, coarsest⟩ := exists_toDecimal_eq zero
    rw [decimal, Decimal.OnGrid, Decimal.magnitude_mk]
    rcases Int.le_total places 1074 with coarse | fine
    · -- The step is a power of ten on the decimal scale.
      obtain ⟨place, step⟩ : ∃ place : Nat, -places = place - 1074 :=
        ⟨(1074 - places).toNat, by omega⟩
      rw [value, step] at read
      obtain ⟨multiple, number⟩ := coarsest count place (holds_mul_pow_iff.mpr read)
      rw [Nat.mul_comm (10 ^ place)] at number
      exact ⟨multiple, by rw [step, mul_zpow_sub_eq number]⟩
    · -- The step is a part of a decimal unit, so any number on the decimal scale will do.
      obtain ⟨extra, step⟩ : ∃ extra : Nat, (power - 1074 : Int) = extra + -places :=
        ⟨(power - 1074 + places).toNat, by omega⟩
      refine ⟨steps * 10 ^ extra, ?_⟩
      rw [step, zpow_add₀ (by norm_num), zpow_natCast]
      push_cast
      ring

/-- The decimal of a double is exact if the double is a whole number of steps of its last place. -/
theorem magnitude_toDecimal_of_multiple {v : Float} {count : Nat}
    (multiple : (count * 10 ^ (toDecimal v).exponent * 2 ^ 1074 : Rat) = units (index v)) :
    (toDecimal v).magnitude * 2 ^ 1074 = units (index v) := by
  by_cases zero : index v = 0
  · rw [toDecimal_of_eq_zero zero, Decimal.magnitude_mk, zero, units_zero]
    simp only [Nat.cast_zero, zero_mul]
  · have pos : (decimalUnits : Rat) ≠ 0 := by exact_mod_cast decimalUnits_pos.ne'
    rw [toDecimal_of_ne_zero zero] at multiple ⊢
    rw [mul_zpow_sub_eq_div, zpow_natCast, div_eq_iff pos] at multiple
    rw [Decimal.magnitude_mk, mul_zpow_sub_eq_div, zpow_natCast, div_eq_iff pos]
    have whole : 10 ^ (shortest (index v)).2 ∣ units (index v) * decimalUnits :=
      Dvd.intro_left count (by exact_mod_cast multiple)
    exact_mod_cast coarsest_eq_exact (holds_exact (index v)) whole

/-! ### The fewest digits -/

/-- A number below a power of ten, and a whole number of steps that is not below it: if both are
read as the double, then the second one has a single digit. -/
theorem exists_digitCount_eq_one {i number place : Nat} {x : Rat} (nonzero : i ≠ 0)
    (coarsest : ∀ k place, (basin i).holds (k * 10 ^ place) = true → 10 ^ place ∣ number)
    (held : (basin i).holds number = true) (read : IsRead i x)
    (below : x ≤ (10 ^ place : Nat) / decimalUnits) (above : 10 ^ place ≤ number) :
    ∃ c, number = c * 10 ^ place ∧ digitCount c = 1 := by
  have pos : (0 : Rat) < decimalUnits := by exact_mod_cast decimalUnits_pos
  have le : ((10 ^ place : Nat) / decimalUnits : Rat) ≤ number / decimalUnits := by
    have above' : ((10 ^ place : Nat) : Rat) ≤ number := by exact_mod_cast above
    exact div_le_div_of_nonneg_right above' pos.le
  have power : (basin i).holds (10 ^ place) = true :=
    holds_basin_iff.mpr (read.of_le_of_le (holds_basin_iff.mp held) below le)
  obtain ⟨c, multiple⟩ := coarsest 1 place (by rwa [Nat.one_mul])
  rw [Nat.mul_comm] at multiple
  have few : c ≤ 3 := by
    have bound := le_three_mul nonzero power held
    rw [multiple] at bound
    exact Nat.le_of_mul_le_mul_right bound (Nat.pow_pos (by decide))
  exact ⟨c, multiple, digitCount_of_lt_ten (by omega)⟩

/-- A decimal is below the power of ten that follows its first digit. -/
theorem magnitude_mul_le (d : Decimal) {place : Nat} (le : d.exponent + 1074 ≤ place) :
    d.magnitude * 2 ^ 1074 ≤ (10 ^ (digitCount d.coefficient + place) : Nat) / decimalUnits := by
  have value := mul_zpow_sub_eq_div d.coefficient (d.exponent + 1074)
  rw [add_sub_cancel_right, ← Decimal.magnitude] at value
  have digits : (d.coefficient : Rat) ≤ 10 ^ digitCount d.coefficient := by
    exact_mod_cast (lt_pow_digitCount d.coefficient).le
  have step : (10 : Rat) ^ (d.exponent + 1074) ≤ 10 ^ place := by
    rw [← zpow_natCast]
    exact zpow_le_zpow_right₀ (by norm_num) le
  have pos : (0 : Rat) ≤ decimalUnits := Nat.cast_nonneg _
  rw [value, Nat.cast_pow, Nat.cast_ofNat, pow_add]
  refine div_le_div_of_nonneg_right ?_ pos
  gcongr

/-- No decimal that is read as a double has fewer digits than the decimal of the double needs. -/
theorem exists_digitCount_le {v : Float} {d : Decimal}
    (read : IsRead (index v) (d.magnitude * 2 ^ 1074)) :
    ∃ (c : Nat) (e : Int), (toDecimal v).magnitude = c * 10 ^ e ∧
      digitCount c ≤ digitCount d.coefficient := by
  have least := digitCount_pos d.coefficient
  have none : digitCount 0 = 1 := digitCount_of_lt_ten (by decide)
  by_cases zero : index v = 0
  · refine ⟨0, 0, ?_, by omega⟩
    rw [toDecimal_of_eq_zero zero, Decimal.magnitude_mk, Nat.cast_zero, zero_mul, zero_mul]
  · obtain ⟨steps, power, decimal, held, coarsest⟩ := exists_toDecimal_eq zero
    rw [decimal, Decimal.magnitude_mk]
    -- The last place of the other decimal, or that of the decimal scale if this one is coarser.
    obtain ⟨place, scale⟩ : ∃ place : Nat, place = max (d.exponent + 1074) 0 :=
      ⟨(d.exponent + 1074).toNat, by omega⟩
    have multiple : 10 ^ place ∣ steps * 10 ^ power := by
      rcases Int.le_total (d.exponent + 1074) 0 with fine | coarse
      · obtain rfl : place = 0 := by omega
        exact Nat.one_dvd _
      · have exponent : d.exponent = place - 1074 := by omega
        rw [Decimal.magnitude, exponent] at read
        exact coarsest d.coefficient place (holds_mul_pow_iff.mpr read)
    obtain ⟨m, number⟩ := multiple
    rw [Nat.mul_comm (10 ^ place)] at number
    by_cases few : digitCount m ≤ digitCount d.coefficient
    · exact ⟨m, place - 1074, mul_zpow_sub_eq number, few⟩
    · -- Then the other decimal is below a power of ten and this one is not.
      have positive : m ≠ 0 := by
        rintro rfl
        omega
      have above : 10 ^ (digitCount d.coefficient + place) ≤ steps * 10 ^ power := by
        rw [number, Nat.pow_add]
        refine Nat.mul_le_mul_right _ (le_trans ?_ (pow_digitCount_le positive))
        exact Nat.pow_le_pow_right (by decide) (by omega)
      obtain ⟨c, number', one⟩ := exists_digitCount_eq_one zero coarsest held read
        (magnitude_mul_le d (by omega)) above
      exact ⟨c, (digitCount d.coefficient + place : Nat) - 1074, mul_zpow_sub_eq number', by omega⟩

/-! ### Its first digit -/

/-- The only digit of zero is the one behind its point. -/
theorem leadingExponent_toDecimal_of_eq_zero {v : Float} (zero : index v = 0) :
    (toDecimal v).leadingExponent = -1 := by
  rw [toDecimal_of_eq_zero zero, Decimal.leadingExponent, digitCount]
  rfl

/-- The first digit of the least double is at the place `-324`, but this bound is enough. -/
theorem neg_le_leadingExponent_toDecimal (v : Float) : -1074 ≤ (toDecimal v).leadingExponent := by
  by_cases zero : index v = 0
  · rw [leadingExponent_toDecimal_of_eq_zero zero]
    decide
  · obtain ⟨steps, power, decimal, -, -⟩ := exists_toDecimal_eq zero
    have count := digitCount_pos steps
    simp only [decimal, Decimal.leadingExponent]
    omega

/-- Only zero has a decimal without a digit other than zero. -/
theorem coefficient_toDecimal_ne_zero {v : Float} (nonzero : index v ≠ 0) :
    (toDecimal v).coefficient ≠ 0 := by
  obtain ⟨steps, power, decimal, held, -⟩ := exists_toDecimal_eq nonzero
  rw [decimal]
  rintro rfl
  rw [Nat.zero_mul, not_holds_zero nonzero] at held
  cases held

/-- The decimal of a finite double is not beyond infinity, since it lies halfway to the next double
at most. -/
theorem magnitude_toDecimal_le {v : Float} (finite : isFinite v = true) :
    (toDecimal v).magnitude ≤ 2 ^ 1024 := by
  have below := isFinite_iff.mp finite
  have high := (isRead_toDecimal v).high
  have here : (units (index v) : Rat) ≤ units infinityIndex := by
    exact_mod_cast units_strictMono.monotone below.le
  have next : (units (index v + 1) : Rat) ≤ units infinityIndex := by
    exact_mod_cast units_strictMono.monotone below
  have pos : (0 : Rat) < 2 ^ 1074 := pow_pos (by norm_num) _
  rw [cast_units_infinityIndex] at here next
  generalize (2 : Rat) ^ 1074 = scale at *
  generalize (2 : Rat) ^ 1024 = bound at *
  refine le_of_mul_le_mul_right ?_ pos
  linarith

/-- The first digit of a finite double is at the place `308` at most, but this bound is enough. -/
theorem leadingExponent_toDecimal_le {v : Float} (finite : isFinite v = true) :
    (toDecimal v).leadingExponent ≤ 1024 := by
  by_cases zero : index v = 0
  · rw [leadingExponent_toDecimal_of_eq_zero zero]
    decide
  · have first := Decimal.zpow_leadingExponent_le (coefficient_toDecimal_ne_zero zero)
    have power : (2 : Rat) ^ 1024 ≤ 10 ^ (1024 : Int) := by
      rw [show (1024 : Int) = (1024 : Nat) from rfl, zpow_natCast]
      exact pow_le_pow_left₀ (by norm_num) (by norm_num) _
    exact (zpow_le_zpow_iff_right₀ (by norm_num)).mp
      (first.trans ((magnitude_toDecimal_le finite).trans power))

end InfixCalc.Double
