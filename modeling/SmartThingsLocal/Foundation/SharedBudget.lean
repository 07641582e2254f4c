import Mathlib.Tactic

/-!
# A deadline shared among attempts

Attempts share the time up to a deadline: each is given an equal part of what is left, among
itself and those to come. One that starts late, after the end of the part before it, has the
delay taken in equal parts from all that are to come.
-/

namespace SharedBudget

variable (deadline : ℚ) (attempts : ℕ) (start : ℕ → ℚ)

/-- The part of the time that an attempt is given when it starts. -/
def share (attempt : ℕ) : ℚ := (deadline - start attempt) / (attempts - attempt)

/-- How late the next attempt starts, after the end of the part of this one. -/
def lateness (attempt : ℕ) : ℚ :=
  start (attempt + 1) - (start attempt + share deadline attempts start attempt)

/-- What an attempt has lost to those before it that ended late. -/
def lost (attempt : ℕ) : ℚ :=
  ∑ earlier ∈ Finset.range attempt,
    lateness deadline attempts start earlier / (attempts - (earlier + 1))

variable {deadline attempts start} {attempt : ℕ}

/-- A delay is taken in equal parts from the attempts that are left. -/
theorem share_succ (within : attempt + 1 < attempts) :
    share deadline attempts start (attempt + 1) =
      share deadline attempts start attempt -
        lateness deadline attempts start attempt / (attempts - (attempt + 1)) := by
  have left : ((attempts : ℚ) - (attempt + 1)) ≠ 0 := by
    have less : ((attempt + 1 : ℕ) : ℚ) < attempts := by exact_mod_cast within
    push_cast at less
    linarith
  have here : ((attempts : ℚ) - attempt) ≠ 0 := by
    have less : ((attempt + 1 : ℕ) : ℚ) < attempts := by exact_mod_cast within
    push_cast at less
    linarith
  rw [share, lateness, share]
  push_cast
  field_simp
  ring

/-- What is lost is all that an attempt has less than the first one. -/
theorem share_eq (within : attempt < attempts) :
    share deadline attempts start attempt =
      share deadline attempts start 0 - lost deadline attempts start attempt := by
  induction attempt with
  | zero => rw [lost, Finset.sum_range_zero, sub_zero]
  | succ attempt ih =>
      rw [share_succ within, ih (by omega), lost, lost, Finset.sum_range_succ]
      ring

/-- A part that is not negative ends by the deadline. -/
theorem end_le_deadline (within : attempt < attempts)
    (positive : 0 ≤ share deadline attempts start attempt) :
    start attempt + share deadline attempts start attempt ≤ deadline := by
  have one : (1 : ℚ) ≤ attempts - attempt := by
    have less : ((attempt + 1 : ℕ) : ℚ) ≤ attempts := by exact_mod_cast within
    push_cast at less
    linarith
  have whole : share deadline attempts start attempt * (attempts - attempt) =
      deadline - start attempt := by
    rw [share]
    field_simp
  have least : share deadline attempts start attempt * 1 ≤
      share deadline attempts start attempt * (attempts - attempt) :=
    mul_le_mul_of_nonneg_left one positive
  linarith

end SharedBudget
