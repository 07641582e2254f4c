import Mathlib.Tactic

/-!
# A countdown in granules, sampled

A countdown shows the time that is left until it finishes in whole granules, rounded up. A sample
of it puts the finish at the time of the sample and what it shows: within a granule of the truth,
and within the gap since the sample before where the two differ, for then the countdown has
stepped in between.
-/

namespace Countdown

variable {α : Type*} [Field α] [LinearOrder α] [IsStrictOrderedRing α] [FloorRing α]

/-- The granules that are shown as left. -/
def left (finish granule now : α) : ℤ := ⌈(finish - now) / granule⌉

/-- The finish that a sample puts. -/
def estimate (finish granule now : α) : α := now + granule * left finish granule now

variable {finish granule earlier now : α}

theorem finish_le_estimate (positive : 0 < granule) : finish ≤ estimate finish granule now := by
  have least : (finish - now) / granule ≤ left finish granule now := Int.le_ceil _
  rw [div_le_iff₀' positive] at least
  unfold estimate
  linarith

theorem estimate_lt (positive : 0 < granule) : estimate finish granule now < finish + granule := by
  have next : (left finish granule now : α) < (finish - now) / granule + 1 := Int.ceil_lt_add_one _
  have scaled := mul_lt_mul_of_pos_left next positive
  rw [mul_add, mul_div_cancel₀ _ positive.ne', mul_one] at scaled
  unfold estimate
  linarith

theorem left_le (positive : 0 < granule) (order : earlier ≤ now) :
    left finish granule now ≤ left finish granule earlier :=
  Int.ceil_mono (div_le_div_of_nonneg_right (by linarith) positive.le)

/-- Where it has stepped since the sample before, the estimate is off by less than the gap. -/
theorem estimate_lt_of_step (positive : 0 < granule) (order : earlier ≤ now)
    (stepped : left finish granule now ≠ left finish granule earlier) :
    estimate finish granule now < finish + (now - earlier) := by
  have below : left finish granule now < left finish granule earlier :=
    lt_of_le_of_ne (left_le positive order) stepped
  have sooner : (left finish granule now : α) < (finish - earlier) / granule := Int.lt_ceil.mp below
  rw [lt_div_iff₀' positive] at sooner
  unfold estimate
  linarith

end Countdown
