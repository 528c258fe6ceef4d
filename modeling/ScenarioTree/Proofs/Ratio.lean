/-
This file shows that rounding looks at a ratio and at nothing else: a common factor of numerator and
denominator makes no difference, so a decimal may be written with its point anywhere. It also shows
that the powers of ten that reading a decimal never computes would not have changed the result. A
value below `10 ^ -330` is less than half of the smallest double, and one of at least `10 ^ 310` is
beyond the largest.

Exponents are variables where their powers would be large, so that these are never computed.
-/

import ScenarioTree.Proofs.Numeral

namespace ScenarioTree.Number

/-! ### Common factors -/

theorem roundHalfEven_mul_mul (numerator denominator : Nat) {factor : Nat}
    (positive : 0 < factor) :
    roundHalfEven (numerator * factor) (denominator * factor) =
      roundHalfEven numerator denominator := by
  have below : 2 * (numerator % denominator * factor) < denominator * factor ↔
      2 * (numerator % denominator) < denominator := by
    rw [← Nat.mul_assoc, Nat.mul_lt_mul_right positive]
  have above : denominator * factor < 2 * (numerator % denominator * factor) ↔
      denominator < 2 * (numerator % denominator) := by
    rw [← Nat.mul_assoc, Nat.mul_lt_mul_right positive]
  simp only [roundHalfEven, Nat.mul_div_mul_right _ _ positive, Nat.mul_mod_mul_right, below, above]

theorem nearestRank_mul_mul (numerator denominator : Nat) {factor : Nat} (positive : 0 < factor) :
    nearestRank (numerator * factor) (denominator * factor) =
      nearestRank numerator denominator := by
  obtain ⟨exponent, last⟩ : ∃ exponent, exponent = 1074 := ⟨_, rfl⟩
  rw [nearestRank, nearestRank, ← last]
  simp only [Nat.mul_right_comm _ factor, Nat.mul_div_mul_right _ _ positive,
    roundHalfEven_mul_mul _ _ positive]

/-- Equal ratios have the same rank. -/
theorem nearestRank_congr {numerator denominator other base : Nat} (positive : 0 < denominator)
    (basePositive : 0 < base) (same : numerator * base = other * denominator) :
    nearestRank numerator denominator = nearestRank other base := by
  rw [← nearestRank_mul_mul numerator denominator basePositive, same,
    ← nearestRank_mul_mul other base positive, Nat.mul_comm base]

/-! ### Decimals -/

/-- The rank nearest to `coefficient * 10 ^ scale`. -/
def decimalRank (coefficient : Nat) (scale : Int) : Nat :=
  nearestRank (coefficient * Nat.pow 10 scale.toNat) (Nat.pow 10 (-scale).toNat)

/-- Zeros may be counted by the scale instead of being written. -/
theorem decimalRank_mul_pow (coefficient count : Nat) (scale : Int) :
    decimalRank (coefficient * 10 ^ count) scale = decimalRank coefficient (scale + count) := by
  refine nearestRank_congr (pow_toNat_pos _) (pow_toNat_pos _) ?_
  simp only [Nat.pow_eq, Nat.mul_assoc, ← Nat.pow_add]
  congr 2
  omega

/-! ### Values out of range -/

theorem le_roundHalfEven (numerator denominator : Nat) :
    numerator / denominator ≤ roundHalfEven numerator denominator := by
  simp only [roundHalfEven]
  repeat' split
  all_goals omega

/-- Less than half of the smallest double rounds to zero. -/
theorem nearestRank_of_small {numerator denominator exponent : Nat} (last : exponent = 1074)
    (small : 2 * (numerator * 2 ^ exponent) < denominator) : nearestRank numerator denominator = 0 := by
  have none : numerator * 2 ^ exponent / denominator = 0 := Nat.div_eq_of_lt (by omega)
  have rest : numerator * 2 ^ exponent % denominator = numerator * 2 ^ exponent :=
    Nat.mod_eq_of_lt (by omega)
  rw [nearestRank, ← last]
  simp [Nat.pow_eq, none, roundHalfEven, rest, small]

/-- What is large enough is beyond all ranks. -/
theorem le_nearestRank_of_large {numerator exponent top : Nat} (last : exponent = 1074)
    (highest : top = 1024) (large : 2 ^ top ≤ numerator) :
    rankCount ≤ nearestRank numerator 1 := by
  have scaled : 2 ^ (top + exponent) ≤ numerator * 2 ^ exponent := by
    rw [Nat.pow_add]
    exact Nat.mul_le_mul_right _ large
  have nonzero : numerator * 2 ^ exponent ≠ 0 := ((Nat.two_pow_pos _).trans_le scaled).ne'
  have binade : top + exponent ≤ (numerator * 2 ^ exponent).log2 := (Nat.le_log2 nonzero).mpr scaled
  have leading := Nat.log2_self_le nonzero
  rw [nearestRank, ← last, Nat.pow_eq, Nat.div_one, Nat.one_mul]
  obtain ⟨passed, split⟩ : ∃ passed, (numerator * 2 ^ exponent).log2 = passed + 52 :=
    ⟨(numerator * 2 ^ exponent).log2 - 52, by omega⟩
  rw [split, Nat.pow_add, Nat.mul_comm] at leading
  have quotient : 2 ^ 52 ≤ numerator * 2 ^ exponent / 2 ^ passed :=
    (Nat.le_div_iff_mul_le (Nat.two_pow_pos _)).mpr leading
  have rounded := quotient.trans (le_roundHalfEven (numerator * 2 ^ exponent) (2 ^ passed))
  have many : 2046 * 2 ^ 52 ≤ passed * 2 ^ 52 := Nat.mul_le_mul_right _ (by omega)
  have count : rankCount = 2046 * 2 ^ 52 + 2 ^ 52 := by decide
  rw [split, Nat.add_sub_cancel, Nat.pow_eq, count]
  exact Nat.add_le_add many rounded

/-- One unit of the smallest double is more than `10 ^ -330`, and the largest is less than
`10 ^ 311`. -/
theorem powers_of_ten : 2 * 2 ^ 1074 < 10 ^ 331 ∧ 2 ^ 1024 ≤ 10 ^ 311 := by
  decide +kernel

theorem decimalRank_of_small {coefficient width : Nat} {scale : Int}
    (short : coefficient < 10 ^ width) (small : width + scale < -330) :
    decimalRank coefficient scale = 0 := by
  obtain ⟨exponent, last⟩ : ∃ exponent, exponent = 1074 := ⟨_, rfl⟩
  obtain ⟨unit, spelled⟩ : ∃ unit, unit = 331 := ⟨_, rfl⟩
  have up : scale.toNat = 0 := by omega
  have down : width + unit ≤ (-scale).toNat := by omega
  have half : 2 * 2 ^ exponent < 10 ^ unit := by
    rw [last, spelled]
    exact powers_of_ten.1
  refine nearestRank_of_small last ?_
  rw [up, Nat.pow_eq, Nat.pow_eq, Nat.pow_zero, Nat.mul_one]
  calc 2 * (coefficient * 2 ^ exponent)
      = coefficient * (2 * 2 ^ exponent) := by ring
    _ ≤ coefficient * 10 ^ unit := Nat.mul_le_mul_left _ half.le
    _ < 10 ^ width * 10 ^ unit := Nat.mul_lt_mul_of_pos_right short (Nat.pow_pos (by decide))
    _ = 10 ^ (width + unit) := (Nat.pow_add _ _ _).symm
    _ ≤ 10 ^ (-scale).toNat := Nat.pow_le_pow_right (by decide) down

theorem le_decimalRank_of_large {coefficient : Nat} {scale : Int} (positive : 0 < coefficient)
    (large : 310 < scale) : rankCount ≤ decimalRank coefficient scale := by
  obtain ⟨top, highest⟩ : ∃ top, top = 1024 := ⟨_, rfl⟩
  obtain ⟨unit, spelled⟩ : ∃ unit, unit = 311 := ⟨_, rfl⟩
  have down : (-scale).toNat = 0 := by omega
  have up : unit ≤ scale.toNat := by omega
  have beyond : 2 ^ top ≤ 10 ^ unit := by
    rw [highest, spelled]
    exact powers_of_ten.2
  rw [decimalRank, down]
  refine le_nearestRank_of_large rfl highest ?_
  calc 2 ^ top ≤ 10 ^ unit := beyond
    _ ≤ 10 ^ scale.toNat := Nat.pow_le_pow_right (by decide) up
    _ ≤ coefficient * 10 ^ scale.toNat := Nat.le_mul_of_pos_left _ positive

theorem decimalRank_zero (scale : Int) : decimalRank 0 scale = 0 := by
  obtain ⟨exponent, last⟩ : ∃ exponent, exponent = 1074 := ⟨_, rfl⟩
  refine nearestRank_of_small last ?_
  rw [Nat.zero_mul, Nat.zero_mul]
  exact pow_toNat_pos _

/-- What is read of a decimal is what rounding its ratio would give. -/
theorem Decimal.nearest?_eq_decimalRank {decimal : Decimal}
    (digits : ∀ digit ∈ decimal.whole ++ decimal.fraction, isDigit digit) :
    decimal.nearest? =
      if bounded : decimalRank decimal.coefficient decimal.scale < rankCount then
        some ⟨decimal.negative, decimalRank decimal.coefficient decimal.scale, bounded⟩
      else none := by
  have short : decimal.coefficient < 10 ^ decimal.width := by
    have below := digitsValue_lt digits
    rwa [List.length_append] at below
  rw [nearest?]
  split
  · next tiny =>
    have zero : decimalRank decimal.coefficient decimal.scale = 0 := by
      rw [Bool.or_eq_true, decide_eq_true_iff, decide_eq_true_iff] at tiny
      rcases tiny with nothing | small
      · rw [nothing, decimalRank_zero]
      · exact decimalRank_of_small short small
    have none : nearestRank 0 1 = 0 := decimalRank_zero 0
    simp only [zero, Finite.nearest?, none]
  · next wide =>
    split
    · next large =>
      have positive : 0 < decimal.coefficient := by
        refine Nat.pos_of_ne_zero fun nothing => wide ?_
        rw [nothing]
        rfl
      rw [dif_neg (Nat.not_lt.mpr (le_decimalRank_of_large positive large))]
    · rfl

end ScenarioTree.Number
