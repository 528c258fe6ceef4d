/-
This file shows that rounding leaves doubles alone. A ratio that is exactly the value of a finite
double is rounded to that double: the binade of the ratio is the binade of the double, the scaled
ratio is its mantissa, and nothing is left to round.
-/

import Mathlib.Tactic.Ring
import ScenarioTree.Number.Binary64

namespace ScenarioTree.Number

theorem roundHalfEven_mul (quotient : Nat) {denominator : Nat} (positive : 0 < denominator) :
    roundHalfEven (quotient * denominator) denominator = quotient := by
  rw [roundHalfEven, Nat.mul_mod_left, Nat.mul_div_cancel _ positive]
  simp [positive]

namespace Finite

/-! ### The parts of a rank -/

theorem shift_mul_le (value : Finite) : value.shift * 2 ^ 52 ≤ value.rank := by
  have earlier : value.shift ≤ value.rank / 2 ^ 52 := Nat.sub_le _ _
  exact (Nat.mul_le_mul_right _ earlier).trans (Nat.div_mul_le_self _ _)

theorem rank_eq (value : Finite) : value.rank = value.shift * 2 ^ 52 + value.mantissa := by
  have below := value.shift_mul_le
  rw [mantissa, Nat.pow_eq]
  omega

/-- The mantissa fits into 53 bits. -/
theorem mantissa_lt (value : Finite) : value.mantissa < 2 ^ 53 := by
  have whole := Nat.div_add_mod value.rank (2 ^ 52)
  have position := Nat.mod_lt value.rank (Nat.two_pow_pos 52)
  rw [mantissa, shift, Nat.pow_eq]
  omega

/-- Beyond the first two binades the leading bit of the mantissa is set. -/
theorem le_mantissa {value : Finite} (passed : 0 < value.shift) : 2 ^ 52 ≤ value.mantissa := by
  have whole := Nat.div_add_mod value.rank (2 ^ 52)
  rw [shift, Nat.pow_eq] at passed
  rw [mantissa, shift, Nat.pow_eq]
  omega

/-- The magnitude of a double tells its binade. -/
theorem log2_units (value : Finite) : value.units.log2 - 52 = value.shift := by
  have upper := value.mantissa_lt
  rw [units, Nat.pow_eq]
  rcases Nat.eq_zero_or_pos value.shift with first | passed
  · rw [first, Nat.pow_zero, Nat.mul_one]
    by_cases zero : value.mantissa = 0
    · simp [zero]
    · have short := (Nat.log2_lt zero).mpr upper
      omega
  · have lower := le_mantissa passed
    have positive : value.mantissa ≠ 0 := by omega
    have scaled : (value.mantissa * 2 ^ value.shift).log2 = 52 + value.shift := by
      refine (Nat.log2_eq_iff (Nat.mul_ne_zero positive (Nat.two_pow_pos _).ne')).mpr ?_
      rw [Nat.add_right_comm, Nat.pow_add, Nat.pow_add]
      exact ⟨Nat.mul_le_mul_right _ lower, Nat.mul_lt_mul_of_pos_right upper (Nat.two_pow_pos _)⟩
    omega

end Finite

/-! ### Exact ratios -/

/-- A ratio that is the value of a double has the rank of the double. The exponent is a variable, so
that its power is never computed. -/
theorem nearestRank_eq {value : Finite} {numerator denominator exponent : Nat}
    (positive : 0 < denominator) (last : exponent = 1074)
    (exact : numerator * Nat.pow 2 exponent = value.units * denominator) :
    nearestRank numerator denominator = value.rank := by
  have scaled : value.units * denominator =
      value.mantissa * (denominator * Nat.pow 2 value.shift) := by
    rw [Finite.units]
    ring
  have spacing : 0 < denominator * Nat.pow 2 value.shift :=
    Nat.mul_pos positive (Nat.two_pow_pos _)
  rw [nearestRank, ← last, exact, Nat.mul_div_cancel _ positive, value.log2_units, scaled,
    roundHalfEven_mul _ spacing, value.rank_eq]
  rfl

theorem nearest?_eq {value : Finite} {numerator denominator exponent : Nat}
    (positive : 0 < denominator) (last : exponent = 1074)
    (exact : numerator * Nat.pow 2 exponent = value.units * denominator) :
    Finite.nearest? value.negative numerator denominator = some value := by
  have rank := nearestRank_eq positive last exact
  rw [Finite.nearest?, dif_pos (rank ▸ value.rank_lt)]
  simp only [rank]

end ScenarioTree.Number
