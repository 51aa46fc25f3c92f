import InfixCalc.Double.Nearest
import InfixCalc.Proofs.Double.Scale
import Mathlib.Algebra.Order.Field.Power
import Mathlib.Data.Rat.Cast.Order
import Mathlib.Tactic.Linarith
import Mathlib.Tactic.Positivity

/-!
# `InfixCalc.Proofs.Double.Nearest`: reading is rounding to the nearest double

`IsRead i x` says what it means that `x` units are read as the double at the index `i`: they lie no
further from it than halfway to its neighbours, and a point halfway belongs to the even index. Every
number is read as one double and no other (`IsRead.unique`), and the numbers read as one double
leave no number between them out (`IsRead.of_le_of_le`).

The main statement is `decimalIndex_eq_iff`: below infinity, a decimal has the index of the double
that it is read as. So this index depends on the value of the decimal alone (`decimalIndex_congr`).
In terms of distances, no double is nearer than the one that is read (`IsRead.isNearest`). Whole
numbers up to `2 ^ 52` are doubles, and are read as themselves (`units_eq_of_isRead`).
-/

set_option autoImplicit false

namespace InfixCalc.Double

/-- The number of units is read as the double at the index. -/
def IsRead (i : Nat) (x : Rat) : Prop :=
  if i % 2 = 0 then (units (i - 1) + units i : Rat) ≤ 2 * x ∧ 2 * x ≤ units i + units (i + 1)
  else (units (i - 1) + units i : Rat) < 2 * x ∧ 2 * x < units i + units (i + 1)

namespace IsRead

variable {i j : Nat} {x y z : Rat}

/-- A number that is read at an index is no lower than halfway from its lower neighbour. -/
theorem low (read : IsRead i x) : (units (i - 1) + units i : Rat) ≤ 2 * x := by
  unfold IsRead at read
  split at read
  · exact read.1
  · exact read.1.le

/-- It is no higher than halfway to its upper neighbour. -/
theorem high (read : IsRead i x) : 2 * x ≤ units i + units (i + 1) := by
  unfold IsRead at read
  split at read
  · exact read.2
  · exact read.2.le

/-- What lies between two numbers that are read as a double is read as this double. -/
theorem of_le_of_le (lower : IsRead i x) (upper : IsRead i y) (le : x ≤ z) (le' : z ≤ y) :
    IsRead i z := by
  unfold IsRead at lower upper ⊢
  split at lower
  · rw [if_pos ‹_›] at upper ⊢
    exact ⟨by linarith [lower.1], by linarith [upper.2]⟩
  · rw [if_neg ‹_›] at upper ⊢
    exact ⟨by linarith [lower.1], by linarith [upper.2]⟩

/-- No number is read at two indices, one below the other. -/
theorem not_lt (read : IsRead i x) (read' : IsRead j x) : ¬ i < j := by
  intro lt
  have top := read.high
  have bottom := read'.low
  have first : (units i : Rat) ≤ units (j - 1) := by
    exact_mod_cast units_strictMono.monotone (by omega)
  have second : (units (i + 1) : Rat) ≤ units j := by
    exact_mod_cast units_strictMono.monotone (by omega)
  -- The two ranges meet in one point at most, and then in one that belongs to a single index.
  rcases Nat.lt_or_ge (i + 1) j with apart | next
  · have strict : (units (i + 1) : Rat) < units j := by exact_mod_cast units_strictMono apart
    linarith
  · obtain rfl : j = i + 1 := by omega
    unfold IsRead at read read'
    rw [Nat.add_sub_cancel] at read'
    split at read <;> split at read'
    · omega
    · linarith [read'.1]
    · linarith [read.2]
    · linarith [read.2]

/-- A number is read at one index only. -/
theorem unique (read : IsRead i x) (read' : IsRead j x) : i = j :=
  Nat.le_antisymm (Nat.not_lt.mp (read'.not_lt read)) (Nat.not_lt.mp (read.not_lt read'))

/-- Greater numbers are read as greater doubles, or as the same one. -/
theorem le_of_le (read : IsRead i x) (read' : IsRead j y) (le : x ≤ y) : i ≤ j := by
  by_contra more
  have top := read'.high
  have bottom := read.low
  have first : (units j : Rat) ≤ units (i - 1) := by
    exact_mod_cast units_strictMono.monotone (by omega)
  have second : (units (j + 1) : Rat) ≤ units i := by
    exact_mod_cast units_strictMono.monotone (by omega)
  -- Then both numbers are the point halfway between the two doubles.
  obtain rfl : x = y := by linarith
  exact more (read.unique read').le

/-- Of the multiples of the gap at a double, only the double itself is read as the double. -/
theorem eq_units {n : Nat} (read : IsRead i n) (multiple : gap i ∣ n) : n = units i := by
  have top := read.high
  have bottom := read.low
  obtain ⟨a, number⟩ := multiple
  obtain ⟨b, here⟩ := gap_dvd_units i
  have pos := gap_pos i
  have upper : 2 * n ≤ 2 * units i + gap i := by
    rw [units_succ] at top
    have : 2 * n ≤ units i + (units i + gap i) := by exact_mod_cast top
    omega
  have lower : 2 * units i ≤ 2 * n + gap i := by
    have : units (i - 1) + units i ≤ 2 * n := by exact_mod_cast bottom
    cases i with
    | zero =>
        rw [units_zero]
        exact Nat.zero_le _
    | succ i =>
        have step := units_succ i
        have narrow := gap_mono (Nat.le_succ i)
        rw [Nat.add_sub_cancel] at this
        rw [Nat.succ_eq_add_one] at narrow
        omega
  -- The two are multiples of the gap, and less than a gap apart.
  rw [number, here] at upper lower ⊢
  have notLess : ¬ b < a := by
    intro less
    have := Nat.mul_le_mul_left (gap i) less
    rw [Nat.mul_succ] at this
    omega
  have notMore : ¬ a < b := by
    intro more
    have := Nat.mul_le_mul_left (gap i) more
    rw [Nat.mul_succ] at this
    omega
  rw [Nat.le_antisymm (Nat.not_lt.mp notLess) (Nat.not_lt.mp notMore)]

end IsRead

/-! ### Rounding a ratio -/

/-- Rounding to a whole number is off by half a step at most, and by half a step only if the whole
number is even. -/
theorem roundHalfEven_spec (num : Nat) {den : Nat} (pos : 0 < den) :
    2 * (den * roundHalfEven num den) ≤ 2 * num + den ∧
    2 * num ≤ 2 * (den * roundHalfEven num den) + den ∧
    (roundHalfEven num den % 2 = 1 → 2 * (den * roundHalfEven num den) < 2 * num + den ∧
      2 * num < 2 * (den * roundHalfEven num den) + den) := by
  have parts := Nat.div_add_mod num den
  have rest := Nat.mod_lt num pos
  unfold roundHalfEven
  dsimp only
  generalize num / den = q at parts ⊢
  generalize num % den = r at parts rest ⊢
  have next : den * (q + 1) = den * q + den := Nat.mul_succ den q
  -- Only the remainder decides which way the ratio is rounded, and the last case is a tie.
  split
  · omega
  · split
    · rw [next]
      omega
    · rcases Nat.mod_two_eq_zero_or_one q with even | odd
      · rw [even, Nat.add_zero]
        omega
      · rw [odd, next]
        omega

/-- The index of the double nearest to a ratio, on a scale without an end. -/
def unboundedIndex (num den : Nat) : Nat :=
  ((num / den).log2 - 52) * binade
    + roundHalfEven num (den * 2 ^ ((num / den).log2 - 52))

/-- The doublings fit the ratio: its place in the binade has 53 bits, or fewer if there are none. -/
theorem doublings_spec (num : Nat) {den : Nat} (pos : 0 < den) :
    ((num / den).log2 - 52 = 0 ∨ binade * (den * 2 ^ ((num / den).log2 - 52)) ≤ num) ∧
    num < 2 * binade * (den * 2 ^ ((num / den).log2 - 52)) := by
  have below : num < den * 2 ^ ((num / den).log2 + 1) := by
    rw [Nat.mul_comm]
    exact (Nat.div_lt_iff_lt_mul pos).mp Nat.lt_log2_self
  rcases Nat.lt_or_ge (num / den).log2 52 with small | large
  · -- Fewer than 53 bits: there are no doublings.
    have none : (num / den).log2 - 52 = 0 := by omega
    rw [none]
    refine ⟨.inl rfl, below.trans_le ?_⟩
    calc den * 2 ^ ((num / den).log2 + 1)
        ≤ den * 2 ^ 53 :=
          Nat.mul_le_mul_left _ (Nat.pow_le_pow_right (by decide) (by omega))
      _ = 2 * binade * (den * 2 ^ 0) := by
          rw [binade]
          ring
  · -- The doublings leave 53 bits of the quotient, so the place is in the upper half.
    have nonzero : num / den ≠ 0 := by
      intro h
      rw [h] at large
      exact absurd large (by decide)
    have above : den * 2 ^ (num / den).log2 ≤ num := by
      rw [Nat.mul_comm]
      exact (Nat.le_div_iff_mul_le pos).mp (Nat.log2_self_le nonzero)
    obtain ⟨k, log⟩ : ∃ k, (num / den).log2 = 52 + k := ⟨(num / den).log2 - 52, by omega⟩
    rw [log] at above below ⊢
    rw [Nat.add_sub_cancel_left]
    refine ⟨.inr (le_of_eq_of_le ?_ above), below.trans_eq ?_⟩
    · rw [binade, Nat.pow_add]
      ring
    · rw [binade, Nat.pow_succ, Nat.pow_add]
      ring

/-- The place that a ratio is rounded to within its binade. -/
theorem place_spec (num : Nat) {den : Nat} (pos : 0 < den) :
    ((num / den).log2 - 52 = 0 ∨
      binade ≤ roundHalfEven num (den * 2 ^ ((num / den).log2 - 52))) ∧
    roundHalfEven num (den * 2 ^ ((num / den).log2 - 52)) ≤ 2 * binade := by
  obtain ⟨above, below⟩ := doublings_spec num pos
  have step : 0 < den * 2 ^ ((num / den).log2 - 52) := Nat.mul_pos pos (Nat.two_pow_pos _)
  obtain ⟨lower, upper, -⟩ := roundHalfEven_spec num step
  generalize den * 2 ^ ((num / den).log2 - 52) = d at *
  generalize roundHalfEven num d = m at *
  -- A place outside would be more than half a step from the ratio.
  refine ⟨above.imp_right fun le => ?_, ?_⟩
  · by_contra less
    have := Nat.mul_le_mul_left d (show m + 1 ≤ binade by omega)
    rw [Nat.mul_comm binade] at le
    rw [Nat.mul_succ] at this
    omega
  · by_contra more
    have := Nat.mul_le_mul_left d (show 2 * binade + 1 ≤ m by omega)
    rw [Nat.mul_comm (2 * binade)] at below
    rw [Nat.mul_succ] at this
    omega

/-- Which ratios are read as a double, in whole numbers. -/
theorem isRead_div_iff {i num den : Nat} (pos : 0 < den) :
    IsRead i (num / den) ↔
      if i % 2 = 0 then
        (units (i - 1) + units i) * den ≤ 2 * num ∧ 2 * num ≤ (units i + units (i + 1)) * den
      else
        (units (i - 1) + units i) * den < 2 * num ∧ 2 * num < (units i + units (i + 1)) * den := by
  have pos' : (0 : Rat) < den := by exact_mod_cast pos
  unfold IsRead
  rw [mul_div_assoc', le_div_iff₀ pos', div_le_iff₀ pos', lt_div_iff₀ pos', div_lt_iff₀ pos']
  norm_cast

/-- A double is read as itself. -/
theorem isRead_units (i : Nat) : IsRead i (units i) := by
  have below : units (i - 1) ≤ units i := units_strictMono.monotone (Nat.sub_le i 1)
  have above : units i < units (i + 1) := units_strictMono (Nat.lt_succ_self i)
  have value : (units i : Rat) = (units i : Nat) / (1 : Nat) := by simp
  rw [value, isRead_div_iff (by decide)]
  split
  · omega
  · have strict : units (i - 1) < units i := units_strictMono (by omega)
    omega

/-- A rounding is not rounded up from below the point halfway to its lower neighbour. That neighbour
is nearer at the first place of a binade, but there a ratio is no smaller than its rounding. -/
theorem midpoint_below_le {num den k m : Nat} (pos : 0 < den) (upper : k = 0 ∨ binade ≤ m)
    (le : m ≤ 2 * binade) (above : k = 0 ∨ binade * (den * 2 ^ k) ≤ num)
    (lower : 2 * (den * 2 ^ k * m) ≤ 2 * num + den * 2 ^ k)
    (odd : m % 2 = 1 → 2 * (den * 2 ^ k * m) < 2 * num + den * 2 ^ k) :
    (units (k * binade + m - 1) + units (k * binade + m)) * den ≤ 2 * num ∧
    (m % 2 = 1 → (units (k * binade + m - 1) + units (k * binade + m)) * den < 2 * num) := by
  -- Both sides are multiplied by the denominator, so that all of this is about whole numbers.
  have magnitude : units (k * binade + m) * den = den * 2 ^ k * m := by
    rw [units_eq upper le]
    ring
  cases m with
  | zero =>
      obtain rfl : k = 0 := upper.resolve_right (by decide)
      simp [units_zero]
  | succ m =>
      have step := units_succ (k * binade + m)
      rw [Nat.add_assoc] at step
      rw [← Nat.add_assoc, Nat.add_sub_cancel, Nat.add_assoc]
      have sum : (units (k * binade + m) + units (k * binade + (m + 1))) * den
          + gap (k * binade + m) * den = 2 * (den * 2 ^ k * (m + 1)) := by
        rw [← magnitude, step]
        ring
      by_cases inside : k = 0 ∨ binade ≤ m
      · -- The lower neighbour is one step away or more, and the midpoint half a step or more.
        have wide : den * 2 ^ k ≤ gap (k * binade + m) * den := by
          rw [Nat.mul_comm]
          exact Nat.mul_le_mul_right _ (le_gap inside)
        exact ⟨by omega, fun isOdd => by have := odd isOdd; omega⟩
      · -- The place is the first one of a binade with doublings.
        obtain ⟨doubled, first⟩ := not_or.mp inside
        have place : m + 1 = binade := by
          have := upper.resolve_left doubled
          omega
        have high := above.resolve_left doubled
        have positive : 0 < gap (k * binade + m) * den := Nat.mul_pos (gap_pos _) pos
        rw [← place, Nat.mul_comm] at high
        omega

/-- The ratio lies halfway to the neighbours of its rounding at most, and halfway only if the
rounding is even. -/
theorem isRead_unboundedIndex (num : Nat) {den : Nat} (pos : 0 < den) :
    IsRead (unboundedIndex num den) (num / den) := by
  rw [isRead_div_iff pos, unboundedIndex]
  obtain ⟨above, -⟩ := doublings_spec num pos
  obtain ⟨upper, le⟩ := place_spec num pos
  obtain ⟨lower, higher, odd⟩ :=
    roundHalfEven_spec num (Nat.mul_pos pos (Nat.two_pow_pos ((num / den).log2 - 52)))
  generalize (num / den).log2 - 52 = k at *
  generalize roundHalfEven num (den * 2 ^ k) = m at *
  have parity : (k * binade + m) % 2 = m % 2 := by
    rw [Nat.add_mod, Nat.mul_mod, show binade % 2 = 0 from rfl, Nat.mul_zero, Nat.zero_mod,
      Nat.zero_add, Nat.mod_mod]
  obtain ⟨below, belowOdd⟩ :=
    midpoint_below_le pos upper le above lower fun isOdd => (odd isOdd).1
  -- Upwards the neighbour is a whole step away at least, or two if the next binade begins here.
  have wide : den * 2 ^ k ≤ gap (k * binade + m) * den := by
    rw [Nat.mul_comm]
    exact Nat.mul_le_mul_right _ (le_gap upper)
  have top : (units (k * binade + m) + units (k * binade + m + 1)) * den
      = 2 * (den * 2 ^ k * m) + gap (k * binade + m) * den := by
    rw [units_succ, units_eq upper le]
    ring
  rw [parity, top]
  split
  · omega
  · next notEven =>
      have isOdd : m % 2 = 1 := by omega
      exact ⟨belowOdd isOdd, by have := (odd isOdd).2; omega⟩

/-! ### Rounding below infinity -/

/-- The index that is computed is the one on the scale without an end, or infinity if that comes
first. -/
theorem nearestIndex_eq (num den : Nat) :
    nearestIndex num den = min (unboundedIndex num den) infinityIndex := by
  simp only [nearestIndex, unboundedIndex, Nat.pow_eq]

/-- A number that is read as infinity, or would be on a scale without an end, is at least as far as
that. -/
theorem IsRead.infinityIndex_le {i : Nat} {x : Rat} (read : IsRead i x)
    (beyond : (units infinityIndex : Rat) ≤ x) : infinityIndex ≤ i := by
  by_contra below
  have high := read.high
  have here : (units i : Rat) < units infinityIndex := by
    exact_mod_cast units_strictMono (by omega)
  have next : (units (i + 1) : Rat) ≤ units infinityIndex := by
    exact_mod_cast units_strictMono.monotone (by omega)
  linarith

/-- The numbers from zero to half a unit are read as zero. -/
theorem isRead_zero {x : Rat} (nonneg : 0 ≤ x) (small : 2 * x ≤ 1) : IsRead 0 x := by
  have one : units 1 = 1 := by decide
  rw [IsRead, if_pos rfl]
  simp only [Nat.zero_sub, Nat.zero_add, units_zero, one]
  exact ⟨by norm_num; linarith, by norm_num; linarith⟩

/-! ### Decimals -/

/-- A power of ten as a ratio of two whole numbers, of which one is one. This is the ratio that is
computed with. -/
theorem ten_zpow_eq (e : Int) : (10 : Rat) ^ e = 10 ^ e.toNat / 10 ^ (-e).toNat := by
  rcases Int.le_total 0 e with nonneg | nonpos
  · have none : (-e).toNat = 0 := by omega
    rw [none, pow_zero, div_one, ← zpow_natCast, Int.toNat_of_nonneg nonneg]
  · have none : e.toNat = 0 := by omega
    rw [none, pow_zero, one_div, ← zpow_natCast, ← zpow_neg, Int.toNat_of_nonneg (by omega),
      neg_neg]

/-- A power of two, bounded by one of ten. Both are far too great to be written out. -/
theorem two_pow_1200_le : (2 : Rat) ^ 1200 ≤ 10 ^ 400 := by
  calc (2 : Rat) ^ 1200 = (2 ^ 3) ^ 400 := by rw [← pow_mul]
    _ ≤ 10 ^ 400 := by
      gcongr
      norm_num

/-- Infinity stands where `2 ^ 1024` would. -/
theorem cast_units_infinityIndex : (units infinityIndex : Rat) = 2 ^ 1024 * 2 ^ 1074 := by
  have place : infinityIndex = 2046 * binade + binade := rfl
  have width : (binade : Rat) = 2 ^ 52 := by norm_num [binade]
  rw [place, units_eq (.inr le_rfl) (by decide), Nat.cast_mul, Nat.cast_pow, width, ← pow_add,
    Nat.cast_ofNat, ← pow_add]

/-- A decimal beyond the powers of ten that are written out lies beyond infinity. -/
theorem units_infinityIndex_le {c : Nat} {e : Int} (nonzero : c ≠ 0) (large : 400 < e) :
    (units infinityIndex : Rat) ≤ c * 10 ^ e * 2 ^ 1074 := by
  have positive : (1 : Rat) ≤ c := by exact_mod_cast Nat.one_le_iff_ne_zero.mpr nonzero
  have power : (2 : Rat) ^ 1200 ≤ 10 ^ e := by
    calc (2 : Rat) ^ 1200 ≤ 10 ^ (400 : Int) := two_pow_1200_le
      _ ≤ 10 ^ e := zpow_le_zpow_right₀ (by norm_num) large.le
  calc (units infinityIndex : Rat) = 2 ^ 1024 * 2 ^ 1074 := cast_units_infinityIndex
    _ ≤ 1 * 2 ^ 1200 * 2 ^ 1074 := by
        rw [one_mul]
        have wider : (2 : Rat) ^ 1024 ≤ 2 ^ 1200 := pow_le_pow_right₀ (by norm_num) (by norm_num)
        gcongr
    _ ≤ c * 10 ^ e * 2 ^ 1074 := by gcongr

/-- A decimal below the powers of ten that are written out is nearer to zero than to any double. -/
theorem isRead_zero_of_lt {c : Nat} {e : Int} (small : e < -(400 + c.log2)) :
    IsRead 0 (c * 10 ^ e * 2 ^ 1074) := by
  refine isRead_zero (by positivity) ?_
  -- The coefficient is below a power of ten that its length gives.
  have digits : (c : Rat) ≤ 10 ^ (c.log2 + 1) := by
    calc (c : Rat) ≤ 2 ^ (c.log2 + 1) := by exact_mod_cast Nat.lt_log2_self.le
      _ ≤ 10 ^ (c.log2 + 1) := by gcongr; norm_num
  have power : (10 : Rat) ^ e ≤ 10 ^ (-(401 + c.log2) : Int) :=
    zpow_le_zpow_right₀ (by norm_num) (by omega)
  calc 2 * ((c : Rat) * 10 ^ e * 2 ^ 1074)
      ≤ 2 * (10 ^ (c.log2 + 1) * 10 ^ (-(401 + c.log2) : Int) * 2 ^ 1074) := by gcongr
    _ = 2 ^ 1075 / 10 ^ 400 := by
        have powers : (10 : Rat) ^ (c.log2 + 1) * 10 ^ (-(401 + c.log2) : Int) = (10 ^ 400)⁻¹ := by
          rw [← zpow_natCast, ← zpow_natCast, ← zpow_neg, ← zpow_add₀ (by norm_num)]
          congr 1
          push_cast
          ring
        rw [powers, pow_succ' 2 1074, mul_left_comm, inv_mul_eq_div]
    _ ≤ 1 := by
        rw [div_le_one (pow_pos (by norm_num) _)]
        exact (pow_le_pow_right₀ (by norm_num) (by norm_num)).trans two_pow_1200_le

/-- The units in one, as a power. The number itself is never written out in a proof. -/
theorem unitsInOne_eq : unitsInOne = 2 ^ 1074 := by
  unfold unitsInOne
  generalize 1074 = n
  rw [Nat.pow_eq]

/-- There are units in one, so it may be divided by their number. -/
theorem unitsInOne_pos : 0 < unitsInOne := by
  unfold unitsInOne
  generalize 1074 = n
  exact Nat.two_pow_pos n

/-- The units in one, as a rational number. -/
theorem cast_unitsInOne : (unitsInOne : Rat) = 2 ^ 1074 := by
  rw [unitsInOne_eq, Nat.cast_pow, Nat.cast_ofNat]

/-- The doubles are no further apart than whole numbers, or all of them are whole. -/
theorem gap_dvd_or_dvd_gap (i : Nat) : gap i ∣ unitsInOne ∨ unitsInOne ∣ gap i := by
  unfold gap unitsInOne
  generalize 1074 = n
  rw [Nat.pow_eq]
  exact (Nat.le_total (i / binade - 1) n).imp (Nat.pow_dvd_pow 2) (Nat.pow_dvd_pow 2)

/-- A double that a whole number is read as is whole. -/
theorem isWhole_of_isRead {v : Float} {n : Nat} (read : IsRead (index v) (n * 2 ^ 1074)) :
    isWhole v = true := by
  rw [← cast_unitsInOne, ← Nat.cast_mul] at read
  have whole : unitsInOne ∣ units (index v) := by
    rcases gap_dvd_or_dvd_gap (index v) with fine | coarse
    · rw [← read.eq_units (fine.mul_left n)]
      exact Nat.dvd_mul_left _ _
    · exact coarse.trans (gap_dvd_units _)
  rw [isWhole, Nat.mod_eq_zero_of_dvd whole]
  rfl

/-- The number `2 ^ 52` is that of a double, and from there on the doubles are whole. -/
theorem exists_units_eq_binade :
    ∃ i < infinityIndex, units i = binade * unitsInOne ∧ gap i = unitsInOne := by
  refine ⟨1074 * binade + binade, by decide, ?_⟩
  unfold unitsInOne
  generalize 1074 = n
  have place : (n * binade + binade) / binade - 1 = n := by
    rw [← Nat.succ_mul, Nat.mul_div_cancel _ (by decide), Nat.succ_sub_one]
  exact ⟨units_eq (.inr le_rfl) (by decide), by rw [gap, place, Nat.pow_eq]⟩

/-- A whole number up to `2 ^ 52` is that of a double, and is read as this double. -/
theorem units_eq_of_isRead {j k : Nat} (read : IsRead j (k * 2 ^ 1074)) (small : k ≤ binade) :
    j < infinityIndex ∧ units j = k * unitsInOne := by
  obtain ⟨top, finite, last, width⟩ := exists_units_eq_binade
  rw [← cast_unitsInOne, ← Nat.cast_mul] at read
  have within : j ≤ top := by
    refine read.le_of_le (isRead_units top) ?_
    rw [last]
    exact Nat.cast_le.mpr (Nat.mul_le_mul_right _ small)
  have multiple : gap j ∣ k * unitsInOne :=
    (width ▸ gap_dvd_gap within).trans (Nat.dvd_mul_left _ _)
  exact ⟨within.trans_lt finite, (read.eq_units multiple).symm⟩

/-- Every decimal is read at one index of a scale without an end, and its index is this one, or
infinity if that comes first. -/
theorem exists_isRead_decimalIndex (c : Nat) (e : Int) :
    ∃ i, decimalIndex c e = min i infinityIndex ∧ IsRead i (c * 10 ^ e * 2 ^ 1074) := by
  have read := isRead_unboundedIndex (c * Nat.pow 10 e.toNat * unitsInOne)
    (show 0 < Nat.pow 10 (-e).toNat from Nat.pow_pos (by decide))
  have value : ((c * Nat.pow 10 e.toNat * unitsInOne : Nat) : Rat) / (Nat.pow 10 (-e).toNat : Nat)
      = c * 10 ^ e * 2 ^ 1074 := by
    rw [ten_zpow_eq, mul_div_assoc', div_mul_eq_mul_div]
    simp only [Nat.cast_mul, Nat.pow_eq, Nat.cast_pow, Nat.cast_ofNat, cast_unitsInOne]
  rw [value] at read
  refine ⟨_, ?_, read⟩
  -- The index that is given without a computation is the one that the computation would give.
  unfold decimalIndex
  split
  · next zero =>
      subst zero
      have none : IsRead 0 ((0 : Nat) * 10 ^ e * 2 ^ 1074) := isRead_zero (by simp) (by simp)
      rw [read.unique none]
      rfl
  · next nonzero =>
      split
      · next large =>
          rw [min_eq_right (read.infinityIndex_le (units_infinityIndex_le nonzero large))]
      · split
        · next small =>
            rw [read.unique (isRead_zero_of_lt small)]
            rfl
        · exact nearestIndex_eq _ _

/-- A decimal has the index of a finite double exactly if it is read as this double. -/
theorem decimalIndex_eq_iff {c : Nat} {e : Int} {i : Nat} (finite : i < infinityIndex) :
    decimalIndex c e = i ↔ IsRead i (c * 10 ^ e * 2 ^ 1074) := by
  obtain ⟨j, index, read⟩ := exists_isRead_decimalIndex c e
  rw [index]
  constructor
  · intro same
    obtain rfl : j = i := by omega
    exact read
  · intro read'
    rw [read.unique read']
    omega

/-- No decimal is read beyond infinity. -/
theorem decimalIndex_le (c : Nat) (e : Int) : decimalIndex c e ≤ infinityIndex := by
  obtain ⟨j, index, -⟩ := exists_isRead_decimalIndex c e
  rw [index]
  exact Nat.min_le_right _ _

/-- The index of a decimal depends on its value alone. -/
theorem decimalIndex_congr {c c' : Nat} {e e' : Int}
    (same : (c * 10 ^ e : Rat) = c' * 10 ^ e') : decimalIndex c e = decimalIndex c' e' := by
  obtain ⟨i, index, read⟩ := exists_isRead_decimalIndex c e
  obtain ⟨j, index', read'⟩ := exists_isRead_decimalIndex c' e'
  rw [same] at read
  rw [index, index', read.unique read']

/-! ### Distances -/

/-- No double is nearer to the number of units than the one at the index, and of two equally near
ones it is the one with the even index. -/
def IsNearest (i : Nat) (x : Rat) : Prop :=
  ∀ j, |units i - x| ≤ |units j - x| ∧ (|units i - x| = |units j - x| → i = j ∨ i % 2 = 0)

/-- A number is read as the double nearest to it. -/
theorem IsRead.isNearest {i : Nat} {x : Rat} (read : IsRead i x) : IsNearest i x := by
  intro j
  have low := read.low
  have high := read.high
  -- Halfway to a neighbour lies a number only if the index is even.
  have tie : ¬ i % 2 = 0 → (units (i - 1) + units i : Rat) < 2 * x ∧
      2 * x < units i + units (i + 1) := fun odd => by
    unfold IsRead at read
    rwa [if_neg odd] at read
  rcases Nat.lt_trichotomy j i with below | rfl | above
  · have step : (units j : Rat) ≤ units (i - 1) := by
      exact_mod_cast units_strictMono.monotone (show j ≤ i - 1 by omega)
    have apart : (units j : Rat) < units i := by exact_mod_cast units_strictMono below
    have left : |(units j : Rat) - x| = x - units j := by
      rw [abs_sub_comm]
      exact abs_of_nonneg (by linarith)
    rw [left]
    refine ⟨abs_le.mpr ⟨by linarith, by linarith⟩, fun same => ?_⟩
    by_contra other
    obtain ⟨odd, -⟩ := tie (fun even => other (.inr even))
    rcases abs_cases ((units i : Rat) - x) with ⟨value, -⟩ | ⟨value, -⟩ <;> linarith
  · exact ⟨le_rfl, fun _ => .inl rfl⟩
  · have step : (units (i + 1) : Rat) ≤ units j := by
      exact_mod_cast units_strictMono.monotone above
    have apart : (units i : Rat) < units j := by exact_mod_cast units_strictMono above
    have right : |(units j : Rat) - x| = units j - x := abs_of_nonneg (by linarith)
    rw [right]
    refine ⟨abs_le.mpr ⟨by linarith, by linarith⟩, fun same => ?_⟩
    by_contra other
    obtain ⟨-, odd⟩ := tie (fun even => other (.inr even))
    rcases abs_cases ((units i : Rat) - x) with ⟨value, -⟩ | ⟨value, -⟩ <;> linarith

end InfixCalc.Double
