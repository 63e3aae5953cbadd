import Mathlib.Algebra.Group.Int.Even
import Mathlib.Algebra.Order.Round
import Mathlib.Data.Int.Log
import Mathlib.Data.Rat.Floor
import Mathlib.Tactic.Linarith
import Mathlib.Tactic.Positivity

/-!
Division to a floating-point number. The quotient of two integers is the number of 53
binary digits that is nearest to it, of two equally near ones the even one. Up to `2 ^ 53`
an integer is such a number, so that the rounding never crosses one.
-/

namespace Kin.Lib

/-- The nearest integer, of two equally near ones the even one. -/
def roundEven (x : ℚ) : ℤ :=
  if x - ⌊x⌋ < 1 / 2 then ⌊x⌋
  else if 1 / 2 < x - ⌊x⌋ then ⌊x⌋ + 1
  else if Even ⌊x⌋ then ⌊x⌋ else ⌊x⌋ + 1

theorem le_roundEven {x : ℚ} {n : ℤ} (h : (n : ℚ) ≤ x) : n ≤ roundEven x := by
  have hfloor : n ≤ ⌊x⌋ := Int.le_floor.mpr h
  unfold roundEven
  split_ifs <;> omega

theorem roundEven_le {x : ℚ} {n : ℤ} (h : x ≤ n) : roundEven x ≤ n := by
  have hlow := Int.floor_le x
  rcases lt_or_eq_of_le h with hlt | rfl
  · have hfloor : ⌊x⌋ < n := Int.floor_lt.mpr hlt
    unfold roundEven
    split_ifs <;> omega
  · simp [roundEven]

theorem sub_half_le_roundEven (x : ℚ) : x - 1 / 2 ≤ roundEven x := by
  have hlow := Int.floor_le x
  have hhigh := Int.lt_floor_add_one x
  unfold roundEven
  split_ifs
  · linarith
  · push_cast
    linarith
  · linarith
  · push_cast
    linarith

/-- The last of 53 binary digits of a number below `2 ^ 53` is this many places behind
the point. -/
def binaryPlaces (x : ℚ) : Nat := (52 - Int.log 2 x).toNat

/-- The binary floating-point number nearest to a number from 0 up to `2 ^ 53`. -/
def toDouble (x : ℚ) : ℚ := roundEven (x * 2 ^ binaryPlaces x) / 2 ^ binaryPlaces x

section

variable {x : ℚ} {n : ℤ}

/-- The rounding does not pass an integer upwards. -/
theorem toDouble_le (h : x ≤ n) : toDouble x ≤ n := by
  have hpow : (0 : ℚ) < 2 ^ binaryPlaces x := by positivity
  rw [toDouble, div_le_iff₀ hpow]
  have hscaled : x * 2 ^ binaryPlaces x ≤ ((n * 2 ^ binaryPlaces x : ℤ) : ℚ) := by
    push_cast
    exact mul_le_mul_of_nonneg_right h hpow.le
  have hround := roundEven_le hscaled
  exact_mod_cast hround

/-- Nor downwards. -/
theorem le_toDouble (h : (n : ℚ) ≤ x) : n ≤ toDouble x := by
  have hpow : (0 : ℚ) < 2 ^ binaryPlaces x := by positivity
  rw [toDouble, le_div_iff₀ hpow]
  have hscaled : ((n * 2 ^ binaryPlaces x : ℤ) : ℚ) ≤ x * 2 ^ binaryPlaces x := by
    push_cast
    exact mul_le_mul_of_nonneg_right h hpow.le
  have hround := le_roundEven hscaled
  exact_mod_cast hround

/-- A number below a power of two is off by less than its last place. -/
theorem sub_le_toDouble {e : Nat} (hx : x < 2 ^ (e + 1)) (he : e ≤ 52) :
    x - 1 / 2 ^ (53 - e) ≤ toDouble x := by
  have hlog : Int.log 2 x ≤ e := by
    rcases le_or_gt x 0 with hneg | hpos
    · rw [Int.log_of_right_le_zero 2 hneg]
      exact Int.natCast_nonneg e
    · have hlt := (Int.lt_zpow_iff_log_lt (b := 2) (x := (e : ℤ) + 1) one_lt_two hpos).mp
        (by exact_mod_cast hx)
      omega
  have hplaces : 52 - e ≤ binaryPlaces x := by
    unfold binaryPlaces
    omega
  have hpow : (0 : ℚ) < 2 ^ binaryPlaces x := by positivity
  have hhalf := sub_half_le_roundEven (x * 2 ^ binaryPlaces x)
  have hstep : (1 : ℚ) / 2 / 2 ^ binaryPlaces x ≤ 1 / 2 ^ (53 - e) := by
    rw [div_div, ← pow_succ']
    apply one_div_le_one_div_of_le (by positivity)
    apply pow_le_pow_right₀ one_le_two
    omega
  rw [toDouble, le_div_iff₀ hpow]
  calc (x - 1 / 2 ^ (53 - e)) * 2 ^ binaryPlaces x
      ≤ (x - 1 / 2 / 2 ^ binaryPlaces x) * 2 ^ binaryPlaces x :=
        mul_le_mul_of_nonneg_right (by linarith) hpow.le
    _ = x * 2 ^ binaryPlaces x - 1 / 2 := by
        rw [sub_mul, div_mul_cancel₀ _ hpow.ne']
    _ ≤ roundEven (x * 2 ^ binaryPlaces x) := hhalf

end

end Kin.Lib
