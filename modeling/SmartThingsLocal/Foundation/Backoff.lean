import Mathlib.Algebra.BigOperators.Group.Finset.Basic
import Mathlib.Algebra.Order.BigOperators.Group.Finset
import Mathlib.Tactic

/-!
# Delays that double up to a cap
-/

namespace Backoff

open Finset

variable {α : Type*} [Field α] [LinearOrder α]

/-- The delay after so many doublings. -/
def delay (cap : α) (doublings : ℕ) : α := min (2 ^ doublings) cap

/-- The delays from so many doublings on, one after the other. -/
def span (cap : α) (doublings count : ℕ) : α := ∑ i ∈ range count, delay cap (doublings + i)

variable {cap : α}

theorem span_succ (doublings count : ℕ) :
    span cap doublings (count + 1) = delay cap doublings + span cap (doublings + 1) count := by
  rw [span, sum_range_succ', Nat.add_zero, add_comm]
  congr 1
  apply sum_congr rfl
  intro i _
  rw [Nat.add_assoc, Nat.add_comm 1 i]

theorem delay_zero (one_le : 1 ≤ cap) : delay cap 0 = 1 := by
  rw [delay, pow_zero]
  exact min_eq_left one_le

variable [IsStrictOrderedRing α]

theorem delay_succ (nonneg : 0 ≤ cap) (doublings : ℕ) :
    min (delay cap doublings * 2) cap = delay cap (doublings + 1) := by
  unfold delay
  rw [pow_succ, min_mul_of_nonneg _ _ (by norm_num : (0 : α) ≤ 2), min_assoc]
  congr 1
  exact min_eq_right (by linarith)

theorem one_le_delay (one_le : 1 ≤ cap) (doublings : ℕ) : 1 ≤ delay cap doublings :=
  le_min (one_le_pow₀ (by norm_num)) one_le

theorem delay_mono : Monotone (delay cap) := by
  intro few many le
  exact min_le_min_right cap (pow_le_pow_right₀ (by norm_num) le)

/-- The delays only get longer. -/
theorem span_le {few many : ℕ} (one_le : 1 ≤ cap) (le : few ≤ many) (doublings : ℕ) :
    span cap 0 few ≤ span cap doublings many := by
  calc span cap 0 few ≤ span cap doublings few := by
        apply sum_le_sum
        intro i _
        exact delay_mono (Nat.add_le_add_right (Nat.zero_le doublings) i)
    _ ≤ span cap doublings many := by
        apply sum_le_sum_of_subset_of_nonneg
        · exact range_subset_range.mpr le
        · intro i _ _
          exact zero_le_one.trans (one_le_delay one_le _)

end Backoff
