import InfixCalc.Double.Basic
import Mathlib.Order.Monotone.Basic
import Mathlib.Tactic.Ring

/-!
# `InfixCalc.Proofs.Double.Scale`: the distances between doubles

The magnitudes of the doubles lie on a scale of whole units. This module says how far neighbours lie
apart: `units_succ` gives the step from one index to the next, `gap`, which is a power of two and
never shrinks. So the magnitudes grow with their indices (`units_strictMono`), and a gap is small
beside the magnitude at it (`gap_mul_le_units`).
-/

set_option autoImplicit false

namespace InfixCalc.Double

/-- The distance from the magnitude at an index to the next one. -/
def gap (i : Nat) : Nat :=
  2 ^ (i / binade - 1)

/-- There is some distance between neighbours. -/
theorem gap_pos (i : Nat) : 0 < gap i :=
  Nat.two_pow_pos _

/-- Distances never shrink on the way up. -/
theorem gap_mono : Monotone gap := by
  intro i j le
  exact Nat.pow_le_pow_right (by decide) (Nat.sub_le_sub_right (Nat.div_le_div_right le) 1)

/-- The magnitude at an index, from the doublings and the place within a binade. In the two binades
with no doubling the place may be any, and otherwise it is in the upper half. -/
theorem units_eq {k m : Nat} (upper : k = 0 ∨ binade ≤ m) (le : m ≤ 2 * binade) :
    units (k * binade + m) = m * 2 ^ k := by
  have pos : 0 < binade := by decide
  simp only [units, Nat.pow_eq]
  -- The index is the doublings times the binade and the place, and the place is two binades at
  -- most.
  rw [Nat.add_comm, Nat.add_mul_div_right _ _ pos]
  rcases Nat.lt_or_ge m binade with low | high
  · obtain rfl : k = 0 := upper.resolve_right (by omega)
    simp [Nat.div_eq_of_lt low]
  · rcases Nat.lt_or_ge m (2 * binade) with within | top
    · have quotient : m / binade = 1 := Nat.div_eq_of_lt_le (by omega) (by omega)
      rw [quotient, Nat.add_sub_cancel_left, Nat.add_sub_cancel]
    · -- The place at the top of a binade is the first one of the next binade.
      obtain rfl : m = 2 * binade := by omega
      have quotient : 2 * binade / binade = 2 := Nat.mul_div_cancel _ pos
      have next : 2 + k - 1 = k + 1 := by omega
      have place : 2 * binade + k * binade - (k + 1) * binade = binade := by
        rw [Nat.succ_mul k binade]
        omega
      rw [quotient, next, place, Nat.pow_succ]
      ring

/-- In the first binade an index is its magnitude. -/
theorem units_of_lt {i : Nat} (low : i < binade) : units i = i := by
  have value := units_eq (m := i) (.inl rfl) (by omega)
  rwa [Nat.zero_mul, Nat.zero_add, Nat.pow_zero, Nat.mul_one] at value

/-- From the second binade on, the place in a binade is added to the magnitude where it begins. -/
theorem units_of_le {i : Nat} (high : binade ≤ i) :
    units i = (binade + i % binade) * 2 ^ (i / binade - 1) := by
  have pos : 0 < binade := by decide
  have within : i % binade < binade := Nat.mod_lt _ pos
  have later : 0 < i / binade := Nat.div_pos high pos
  rw [← units_eq (.inr (Nat.le_add_right _ _)) (by omega), ← Nat.add_assoc, ← Nat.succ_mul,
    Nat.succ_eq_add_one, Nat.sub_add_cancel later, Nat.mul_comm, Nat.div_add_mod]

/-- Every index has its doublings and its place, and the next index has the next place. -/
theorem exists_place (i : Nat) :
    ∃ m, i = (i / binade - 1) * binade + m ∧ (i / binade - 1 = 0 ∨ binade ≤ m) ∧
      m < 2 * binade := by
  have parts := Nat.div_add_mod i binade
  have rest := Nat.mod_lt i (show 0 < binade by decide)
  generalize i / binade = q at parts ⊢
  rw [Nat.mul_comm] at parts
  cases q with
  | zero => exact ⟨i, by omega, .inl rfl, by omega⟩
  | succ q =>
      rw [Nat.succ_mul] at parts
      exact ⟨binade + i % binade, by simp; omega, .inr (Nat.le_add_right _ _), by omega⟩

/-- The next magnitude is one distance further on. -/
theorem units_succ (i : Nat) : units (i + 1) = units i + gap i := by
  obtain ⟨m, place, upper, le⟩ := exists_place i
  rw [gap]
  generalize i / binade - 1 = k at place upper ⊢
  subst place
  rw [Nat.add_assoc, units_eq upper le.le, units_eq (upper.imp_right (by omega)) le, Nat.succ_mul]

/-- A magnitude is a multiple of the distance to the next one. -/
theorem gap_dvd_units (i : Nat) : gap i ∣ units i := by
  obtain ⟨m, place, upper, le⟩ := exists_place i
  rw [gap]
  generalize i / binade - 1 = k at place upper ⊢
  subst place
  rw [units_eq upper le.le]
  exact Nat.dvd_mul_left _ _

/-- Distances are powers of two, so an earlier one divides a later one. -/
theorem gap_dvd_gap {i j : Nat} (le : i ≤ j) : gap i ∣ gap j :=
  Nat.pow_dvd_pow 2 (Nat.sub_le_sub_right (Nat.div_le_div_right le) 1)

/-- Where magnitudes are not all multiples of a power of two, the gaps divide half of it. -/
theorem gap_dvd_pow {i n : Nat} (fraction : ¬ 2 ^ (n + 1) ∣ units i) : gap i ∣ 2 ^ n := by
  refine Nat.pow_dvd_pow 2 (Nat.not_lt.mp fun wide => fraction ?_)
  exact (Nat.pow_dvd_pow 2 wide).trans (gap_dvd_units i)

/-- The scale begins at zero. -/
theorem units_zero : units 0 = 0 := by
  decide

/-- Magnitudes grow with their indices. -/
theorem units_strictMono : StrictMono units :=
  strictMono_nat_of_lt_succ fun i => by
    rw [units_succ]
    exact Nat.lt_add_of_pos_right (gap_pos i)

/-- Within a binade and at its end, the distance has at least the doublings of the binade. -/
theorem le_gap {k m : Nat} (upper : k = 0 ∨ binade ≤ m) : 2 ^ k ≤ gap (k * binade + m) := by
  refine Nat.pow_le_pow_right (by decide) ?_
  have pos : 0 < binade := by decide
  rw [Nat.add_comm, Nat.add_mul_div_right _ _ pos]
  rcases upper with rfl | high
  · exact Nat.zero_le _
  · have := (Nat.one_le_div_iff pos).mpr high
    omega

/-- Between a magnitude and the next one no more than this part of the magnitude lies. -/
theorem gap_mul_le_units {i n : Nat} (le : n ≤ i) (small : n ≤ binade) :
    gap i * n ≤ units i := by
  obtain ⟨m, place, upper, within⟩ := exists_place i
  rw [gap]
  generalize i / binade - 1 = k at place upper ⊢
  subst place
  rw [units_eq upper within.le, Nat.mul_comm]
  refine Nat.mul_le_mul_right _ ?_
  rcases upper with rfl | high
  · omega
  · omega

end InfixCalc.Double
