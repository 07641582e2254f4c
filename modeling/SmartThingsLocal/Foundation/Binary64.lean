import Mathlib.Tactic
import Mathlib.Data.Int.Log

/-!
# Double-precision numbers

The values of the binary64 format: rational numbers, the infinities and the numbers that are
none. A rational number is rounded to the nearest value, ties to the even one, and from half a
quantum above the largest finite value on to an infinity.
-/

/-- A value of the format; a finite one is given by its rational value. -/
inductive Binary64
  | finite (value : ℚ)
  | infinite (negative : Bool)
  | nan
  deriving DecidableEq

namespace Binary64

/-- The nearest integer, the even one of two. -/
def roundEven (number : ℚ) : ℤ :=
  let floor := ⌊number⌋
  if Int.fract number < 1 / 2 then floor
  else if 1 / 2 < Int.fract number then floor + 1
  else if Even floor then floor
  else floor + 1

/-- From here on magnitudes are rounded to infinity. -/
def overflowBound : ℚ := 2 ^ 1024 - 2 ^ 970

/-- The distance of the values next to a number. -/
def quantum (number : ℚ) : ℚ := 2 ^ max (Int.log 2 |number| - 52) (-1074)

/-- The value nearest to a rational number. -/
def ofRat (number : ℚ) : Binary64 :=
  if overflowBound ≤ |number| then .infinite (number < 0)
  else .finite (roundEven (number / quantum number) * quantum number)

/-- The sum with a finite number. -/
def addRat (number : Binary64) (summand : ℚ) : Binary64 :=
  match number with
  | .finite value => ofRat (value + summand)
  | other => other

/-- Comparison; what is no number is not less than anything. -/
def lt : Binary64 → Binary64 → Bool
  | .nan, _ | _, .nan => false
  | .infinite negative, .infinite other => negative && !other
  | .infinite negative, .finite _ => negative
  | .finite _, .infinite negative => !negative
  | .finite left, .finite right => left < right

/-- The quotient by a rational number other than zero. -/
def divRat (dividend : Binary64) (divisor : ℚ) : Binary64 :=
  match dividend with
  | .finite value => ofRat (value / divisor)
  | .infinite negative => .infinite (negative ^^ decide (divisor < 0))
  | .nan => .nan

variable {number : ℚ}

theorem abs_roundEven_sub_le (number : ℚ) : |(roundEven number : ℚ) - number| ≤ 1 / 2 := by
  have parts : (⌊number⌋ : ℚ) + Int.fract number = number := Int.floor_add_fract number
  have nonneg := Int.fract_nonneg number
  have small := Int.fract_lt_one number
  rw [abs_le]
  unfold roundEven
  dsimp only
  split_ifs <;> push_cast <;> constructor <;> linarith

theorem ofRat_eq_infinite_iff :
    (∃ negative, ofRat number = .infinite negative) ↔ overflowBound ≤ |number| := by
  unfold ofRat
  split_ifs with large <;> simp [large]

theorem ofRat_ne_nan : ofRat number ≠ .nan := by
  unfold ofRat
  split_ifs <;> simp

theorem quantum_pos (number : ℚ) : 0 < quantum number := zpow_pos two_pos _

theorem quantum_le (fits : |number| < 2 ^ 1024) : quantum number ≤ 2 * 2 ^ 970 := by
  rw [← pow_succ', ← zpow_natCast]
  unfold quantum
  apply zpow_le_zpow_right₀ one_le_two
  apply max_le _ (by norm_num)
  by_cases zero : number = 0
  · simp [zero]
  · have log_lt : Int.log 2 |number| < (1024 : ℕ) := by
      rw [← Int.lt_zpow_iff_log_lt one_lt_two (abs_pos.mpr zero), zpow_natCast, Nat.cast_ofNat]
      exact fits
    omega

/-- Rounding moves a number by half a quantum at most. -/
theorem abs_sub_le_half_quantum (number : ℚ) :
    |roundEven (number / quantum number) * quantum number - number| ≤ quantum number / 2 := by
  have positive := quantum_pos number
  have scaled : roundEven (number / quantum number) * quantum number - number =
      (roundEven (number / quantum number) - number / quantum number) * quantum number := by
    field_simp
  rw [scaled, abs_mul, abs_of_pos positive]
  have close := abs_roundEven_sub_le (number / quantum number)
  calc |(roundEven (number / quantum number) : ℚ) - number / quantum number| * quantum number
      ≤ 1 / 2 * quantum number := mul_le_mul_of_nonneg_right close positive.le
    _ = quantum number / 2 := by ring

/-- A finite value is at most the power above the largest one. -/
theorem abs_le_of_ofRat {value : ℚ} (rounded : ofRat number = .finite value) :
    |value| ≤ 2 ^ 1024 := by
  unfold ofRat at rounded
  split_ifs at rounded with large
  cases rounded
  have half : (0 : ℚ) < 2 ^ 970 := pow_pos two_pos _
  unfold overflowBound at large
  have moved := abs_sub_le_half_quantum number
  have fits : |number| < 2 ^ 1024 → quantum number ≤ 2 * 2 ^ 970 := quantum_le
  generalize (2 : ℚ) ^ 1024 = top at *
  generalize (2 : ℚ) ^ 970 = step at *
  have small := not_le.mp large
  have close := abs_sub_abs_le_abs_sub
    (roundEven (number / quantum number) * quantum number) number
  have bounded := fits (by linarith)
  linarith

/-- The quotient of a finite value by a number of two or more is finite. -/
theorem divRat_of_ofRat {value divisor : ℚ} (rounded : ofRat number = .finite value)
    (large : 2 ≤ divisor) : ∃ quotient, divRat (.finite value) divisor = .finite quotient := by
  have bounded := abs_le_of_ofRat rounded
  have half : (2 : ℚ) ^ 970 < 2 ^ 1023 := pow_lt_pow_right₀ one_lt_two (by norm_num)
  have double : (2 : ℚ) ^ 1024 = 2 ^ 1023 * 2 := pow_succ 2 1023
  have positive : (0 : ℚ) < divisor := two_pos.trans_le large
  have halved : |value / divisor| ≤ 2 ^ 1023 := by
    rw [abs_div, abs_of_pos positive, div_le_iff₀ positive]
    calc |value| ≤ 2 ^ 1023 * 2 := double ▸ bounded
      _ ≤ 2 ^ 1023 * divisor := mul_le_mul_of_nonneg_left large (pow_pos two_pos _).le
  have small : ¬overflowBound ≤ |value / divisor| := by
    unfold overflowBound
    rw [double]
    generalize (2 : ℚ) ^ 1023 = top at *
    generalize (2 : ℚ) ^ 970 = step at *
    linarith
  exact ⟨_, if_neg small⟩

end Binary64
