/-
This file gives doubles their values. A finite double is a sign, a mantissa of 53 bits and an
exponent from -1074 to 971, and the ranks number all of them. A double is nearest to an exact value
if no value of such a form is nearer, and if its mantissa is even where another one is as near.

In terms of ranks: the nearest double of a sign is the one to whose rank the magnitude rounds. All
magnitudes below `2 ^ 1024 - 2 ^ 970` have one, since this is the midpoint behind the last double.
-/

import Mathlib.Algebra.Order.Field.Power
import ScenarioTree.Proofs.Nearest

namespace ScenarioTree.Number

/-! ### Values -/

/-- A magnitude with a sign. -/
def withMinus (negative : Bool) (magnitude : ℚ) : ℚ :=
  if negative then -magnitude else magnitude

theorem abs_withMinus_sub (negative : Bool) (first second : ℚ) :
    |withMinus negative first - withMinus negative second| = |first - second| := by
  cases negative with
  | false => rfl
  | true =>
    have opposite : withMinus true first - withMinus true second = -(first - second) := by
      simp only [withMinus, if_true]
      ring
    rw [opposite, abs_neg]

theorem abs_withMinus {magnitude : ℚ} (negative : Bool) (nonneg : 0 ≤ magnitude) :
    |withMinus negative magnitude| = magnitude := by
  cases negative with
  | false => exact abs_of_nonneg nonneg
  | true => exact (abs_neg _).trans (abs_of_nonneg nonneg)

theorem abs_withMinus_sub_not {first second : ℚ} (negative : Bool) (nonneg : 0 ≤ first)
    (otherNonneg : 0 ≤ second) :
    |withMinus negative first - withMinus (!negative) second| = first + second := by
  have sum : |first + second| = first + second := abs_of_nonneg (add_nonneg nonneg otherNonneg)
  cases negative with
  | false => exact (congrArg abs (sub_neg_eq_add first second)).trans sum
  | true =>
    have opposite : withMinus true first - withMinus (!true) second = -(first + second) := by
      simp only [withMinus, if_true, Bool.not_true, Bool.false_eq_true, if_false]
      ring
    rw [opposite, abs_neg, sum]

/-- The value of a sign, a mantissa and an exponent. -/
def binaryValue (negative : Bool) (mantissa : Nat) (exponent : Int) : ℚ :=
  withMinus negative (mantissa * 2 ^ exponent)

/-- The values of finite doubles: the mantissa has 53 bits, and the exponent is bounded. -/
inductive IsDouble : ℚ → Prop where
  | intro (negative : Bool) {mantissa : Nat} {exponent : Int} (short : mantissa < 2 ^ 53)
      (lowest : -1074 ≤ exponent) (highest : exponent ≤ 971) :
      IsDouble (binaryValue negative mantissa exponent)

namespace Finite

/-- The exponent that goes with the mantissa. -/
def exponent (double : Finite) : Int :=
  double.shift - 1074

/-- The exact value. -/
def toRat (double : Finite) : ℚ :=
  binaryValue double.negative double.mantissa double.exponent

end Finite

/-- A double is nearest to an exact value: none is nearer, and if another is as near, the mantissa
is even. -/
structure Nearest (exact : ℚ) (double : Finite) : Prop where
  near : ∀ other, IsDouble other → |exact - double.toRat| ≤ |exact - other|
  even : ∀ other, IsDouble other → other ≠ double.toRat →
    |exact - other| = |exact - double.toRat| → double.mantissa % 2 = 0

/-- Half a spacing beyond the largest double. -/
def overflowBound : ℚ := 2 ^ 1024 - 2 ^ 970

/-! ### Doubles by their ranks -/

/-- The smallest positive double. -/
def unit : ℚ := 2 ^ (-1074 : ℤ)

theorem unit_pos : 0 < unit := zpow_pos two_pos _

theorem unit_mul_pow {exponent : Nat} (last : exponent = 1074) : unit * 2 ^ exponent = 1 := by
  have power : (1074 : ℤ) = (exponent : ℤ) := by rw [last]; rfl
  rw [unit, power, zpow_neg, zpow_natCast, inv_mul_cancel₀ (pow_ne_zero _ two_ne_zero)]

theorem zpow_eq_unit (shift : Nat) : (2 : ℚ) ^ ((shift : ℤ) - 1074) = 2 ^ shift * unit := by
  rw [unit, sub_eq_add_neg, zpow_add₀ two_ne_zero, zpow_natCast]

theorem binaryValue_eq (negative : Bool) (mantissa shift : Nat) :
    binaryValue negative mantissa (shift - 1074) =
      withMinus negative ((mantissa * 2 ^ shift : ℕ) * unit) := by
  rw [binaryValue, zpow_eq_unit, ← mul_assoc, Nat.cast_mul, Nat.cast_pow, Nat.cast_ofNat]

theorem Finite.toRat_eq (double : Finite) :
    double.toRat = withMinus double.negative (rankUnits double.rank * unit) :=
  binaryValue_eq double.negative double.mantissa double.shift

/-- Every mantissa is that of some rank, in a lower binade if it is too small for its own. -/
theorem exists_rank {mantissa : Nat} (short : mantissa < 2 ^ 53) {shift : Nat}
    (bounded : shift ≤ 2045) : ∃ rank < rankCount, rankUnits rank = mantissa * 2 ^ shift := by
  have count : rankCount = 2047 * 2 ^ 52 := rfl
  induction shift generalizing mantissa with
  | zero => exact ⟨0 * 2 ^ 52 + mantissa, by omega, rankUnits_add short.le (.inl rfl)⟩
  | succ shift induction =>
    by_cases normal : 2 ^ 52 ≤ mantissa
    · exact ⟨(shift + 1) * 2 ^ 52 + mantissa, by omega, rankUnits_add short.le (.inr normal)⟩
    · obtain ⟨rank, less, same⟩ := @induction (2 * mantissa) (by omega) (by omega)
      exact ⟨rank, less, by rw [same]; ring⟩

/-- The ranks number all doubles. -/
theorem isDouble_iff {value : ℚ} : IsDouble value ↔ ∃ double : Finite, double.toRat = value := by
  constructor
  · rintro ⟨negative, short, lowest, highest⟩
    rename_i mantissa exponent
    obtain ⟨shift, rfl⟩ : ∃ shift : Nat, exponent = shift - 1074 :=
      ⟨(exponent + 1074).toNat, by omega⟩
    obtain ⟨rank, less, same⟩ := @exists_rank _ short shift (by omega)
    exact ⟨⟨negative, rank, less⟩, by rw [Finite.toRat_eq, binaryValue_eq, ← same]⟩
  · rintro ⟨double, rfl⟩
    have bounded : double.shift ≤ 2045 := by
      have less := double.rank_lt
      have count : rankCount = 2047 * 2 ^ 52 := rfl
      have binade : double.shift = double.rank / 2 ^ 52 - 1 := rfl
      omega
    exact .intro _ double.mantissa_lt (by rw [Finite.exponent]; omega)
      (by rw [Finite.exponent]; omega)

/-- The mantissa of a double is even exactly when its rank is. -/
theorem Finite.mantissa_even_iff (double : Finite) :
    double.mantissa % 2 = 0 ↔ double.rank % 2 = 0 := by
  have split := double.rank_eq
  omega

/-! ### Rounding to doubles -/

/-- The last midpoint. -/
theorem midpoint_last : midpoint (rankCount - 1) * unit = overflowBound := by
  obtain ⟨shift, top⟩ : ∃ shift, shift = 2045 := ⟨_, rfl⟩
  have count : rankCount = 2047 * 2 ^ 52 := rfl
  have last : rankCount - 1 = shift * 2 ^ 52 + (2 ^ 53 - 1) := by omega
  have next : shift * 2 ^ 52 + (2 ^ 53 - 1) + 1 = shift * 2 ^ 52 + 2 ^ 53 := by omega
  have spacing : (2 : ℚ) ^ shift * unit = 2 ^ 971 := by
    have highest : (shift : ℤ) - 1074 = (971 : ℕ) := by omega
    rw [← zpow_eq_unit, highest, zpow_natCast]
  have half : (2 : ℚ) ^ 971 = 2 * 2 ^ 970 := pow_succ' 2 970
  have whole : (2 : ℚ) ^ 1024 = 2 ^ 54 * 2 ^ 970 := (pow_add 2 54 970)
  rw [midpoint, last, next, rankUnits_add (by omega) (.inr (by omega)),
    rankUnits_add le_rfl (.inr (by omega)), overflowBound, whole]
  rw [half] at spacing
  generalize (2 : ℚ) ^ 970 = smallest at spacing
  calc ((((2 ^ 53 - 1) * 2 ^ shift : ℕ) : ℚ) + ((2 ^ 53 * 2 ^ shift : ℕ) : ℚ)) / 2 * unit
      = (2 ^ 54 - 1) / 2 * (2 ^ shift * unit) := by
        push_cast
        ring
    _ = 2 ^ 54 * smallest - smallest := by
        rw [spacing]
        ring

theorem lt_overflowBound {value : ℚ} (small : value < 2 ^ 54 - 1) : value < overflowBound := by
  have whole : (2 : ℚ) ^ 1024 = 2 ^ 54 * 2 ^ 970 := pow_add 2 54 970
  have spacing : (1 : ℚ) ≤ 2 ^ 970 := one_le_pow₀ one_le_two
  rw [overflowBound, whole]
  generalize (2 : ℚ) ^ 970 = smallest at spacing
  calc value < 2 ^ 54 - 1 := small
    _ ≤ (2 ^ 54 - 1) * smallest := le_mul_of_one_le_right (by norm_num) spacing
    _ = 2 ^ 54 * smallest - smallest := by ring

/-- What reaches the last midpoint rounds to no double, and all else does. -/
theorem RoundsTo.lt_rankCount_iff {magnitude : ℚ} {rank : Nat} (rounds : RoundsTo magnitude rank) :
    rank < rankCount ↔ magnitude < midpoint (rankCount - 1) := by
  have count : rankCount = 2047 * 2 ^ 52 := rfl
  constructor
  · intro less
    have bound : midpoint rank ≤ midpoint (rankCount - 1) :=
      midpoint_strictMono.monotone (by omega)
    refine (rounds.upper.trans bound).lt_of_ne fun same => ?_
    -- the last rank is odd
    have last : midpoint rank = midpoint (rankCount - 1) :=
      le_antisymm bound (same.ge.trans rounds.upper)
    have even := rounds.even (.inl (same.trans last.symm))
    have which := midpoint_strictMono.injective last
    omega
  · intro small
    refine Nat.lt_of_not_le fun beyond => ?_
    have lower := rounds.lower (rank - 1) (by omega)
    have bound : midpoint (rankCount - 1) ≤ midpoint (rank - 1) :=
      midpoint_strictMono.monotone (by omega)
    exact absurd (bound.trans lower) (not_le_of_gt small)

/-- Distances are those of the magnitudes in units, if the signs are the same. -/
theorem distance_eq (negative : Bool) (first second : ℚ) :
    |withMinus negative (first * unit) - withMinus negative (second * unit)| =
      |first - second| * unit := by
  rw [abs_withMinus_sub, ← sub_mul, abs_mul, abs_of_pos unit_pos]

/-- With another sign a distance is not smaller. -/
theorem distance_le {magnitude other : ℚ} (nonneg : 0 ≤ magnitude) (otherNonneg : 0 ≤ other)
    (negative sign : Bool) :
    |magnitude - other| * unit ≤
      |withMinus negative (magnitude * unit) - withMinus sign (other * unit)| := by
  have magnitudes := abs_abs_sub_abs_le (withMinus negative (magnitude * unit))
    (withMinus sign (other * unit))
  rwa [abs_withMinus _ (mul_nonneg nonneg unit_pos.le),
    abs_withMinus _ (mul_nonneg otherNonneg unit_pos.le), ← sub_mul, abs_mul,
    abs_of_pos unit_pos] at magnitudes

/-- A magnitude that rounds to zero is not as near to a double as to the opposite one, unless they
are both zero. -/
theorem RoundsTo.rankUnits_eq_zero {magnitude : ℚ} (nonneg : 0 ≤ magnitude) {rank : Nat}
    (rounds : RoundsTo magnitude rank)
    (same : magnitude + rankUnits rank = |magnitude - rankUnits rank|) : rankUnits rank = 0 := by
  have units : (0 : ℚ) ≤ rankUnits rank := Nat.cast_nonneg _
  have first := (rounds.near 0).1
  have zero : rankUnits 0 = 0 := rfl
  rw [zero, Nat.cast_zero, sub_zero, abs_of_nonneg nonneg, ← same] at first
  have none : (rankUnits rank : ℚ) = 0 := by linarith
  exact Nat.cast_eq_zero.mp none

/-- The double to whose rank a magnitude rounds is the nearest one of its sign. -/
theorem RoundsTo.nearest {magnitude : ℚ} (nonneg : 0 ≤ magnitude) {double : Finite}
    (rounds : RoundsTo magnitude double.rank) :
    Nearest (withMinus double.negative (magnitude * unit)) double := by
  have own : |withMinus double.negative (magnitude * unit) - double.toRat| =
      |magnitude - rankUnits double.rank| * unit := by rw [double.toRat_eq, distance_eq]
  have farther (other : Finite) : |magnitude - rankUnits other.rank| * unit ≤
      |withMinus double.negative (magnitude * unit) - other.toRat| := by
    rw [other.toRat_eq]
    exact distance_le nonneg (Nat.cast_nonneg _) _ _
  refine ⟨fun value is => ?_, fun value is different same => ?_⟩
  · obtain ⟨other, rfl⟩ := isDouble_iff.mp is
    rw [own]
    exact (mul_le_mul_of_nonneg_right (rounds.near other.rank).1 unit_pos.le).trans (farther other)
  · obtain ⟨other, rfl⟩ := isDouble_iff.mp is
    have near := farther other
    rw [same, own] at near
    have equal : |magnitude - rankUnits other.rank| = |magnitude - rankUnits double.rank| :=
      le_antisymm (le_of_mul_le_mul_right near unit_pos) (rounds.near other.rank).1
    rw [double.mantissa_even_iff]
    refine (rounds.near other.rank).2 (fun sameRank => ?_) equal
    -- a double of the same rank has the other sign, and then both are zero
    refine different ?_
    have opposite : other.negative = !double.negative := by
      refine Bool.eq_not.mpr fun sameSign => different ?_
      rw [other.toRat_eq, double.toRat_eq, sameRank, sameSign]
    have sum : |withMinus double.negative (magnitude * unit) - other.toRat| =
        (magnitude + rankUnits double.rank) * unit := by
      rw [other.toRat_eq, sameRank, opposite,
        abs_withMinus_sub_not _ (mul_nonneg nonneg unit_pos.le)
          (mul_nonneg (Nat.cast_nonneg _) unit_pos.le), add_mul]
    rw [sum, own] at same
    have zero := rounds.rankUnits_eq_zero nonneg (mul_right_cancel₀ unit_pos.ne' same)
    rw [other.toRat_eq, double.toRat_eq, sameRank, zero]
    simp [withMinus]

/-- Doubles of one sign are told apart by their values. -/
theorem Finite.rank_eq_of_toRat_eq {first second : Finite}
    (sameSign : first.negative = second.negative) (same : first.toRat = second.toRat) :
    first.rank = second.rank := by
  have distance := distance_eq second.negative (rankUnits first.rank) (rankUnits second.rank)
  rw [first.toRat_eq, second.toRat_eq, sameSign] at same
  rw [same, sub_self, abs_zero] at distance
  have none := abs_eq_zero.mp ((mul_eq_zero.mp distance.symm).resolve_right unit_pos.ne')
  exact rankUnits_strictMono.injective (Nat.cast_injective (sub_eq_zero.mp none))

/-- The nearest double of a sign has the rank to which the magnitude rounds. -/
theorem Nearest.roundsTo {magnitude : ℚ} (small : magnitude < midpoint (rankCount - 1))
    {double : Finite} (nearest : Nearest (withMinus double.negative (magnitude * unit)) double) :
    RoundsTo magnitude double.rank := by
  obtain ⟨negative, rank, less⟩ := double
  have distance (other : Nat) (within : other < rankCount) :
      |withMinus negative (magnitude * unit) - Finite.toRat ⟨negative, other, within⟩| =
        |magnitude - rankUnits other| * unit := by
    rw [Finite.toRat_eq, distance_eq]
  have isDouble (other : Nat) (within : other < rankCount) :
      IsDouble (Finite.toRat ⟨negative, other, within⟩) := isDouble_iff.mpr ⟨_, rfl⟩
  have near (other : Nat) (within : other < rankCount) :
      |magnitude - rankUnits rank| ≤ |magnitude - rankUnits other| := by
    have nearer := nearest.near _ (isDouble other within)
    rw [distance, distance] at nearer
    exact le_of_mul_le_mul_right nearer unit_pos
  have even (other : Nat) (within : other < rankCount) (different : other ≠ rank)
      (same : |magnitude - rankUnits other| = |magnitude - rankUnits rank|) : rank % 2 = 0 := by
    refine (Finite.mantissa_even_iff ⟨negative, rank, less⟩).mp
      (nearest.even _ (isDouble other within) (fun equal => different ?_) ?_)
    · exact @Finite.rank_eq_of_toRat_eq ⟨negative, other, within⟩ ⟨negative, rank, less⟩ rfl equal
    · rw [distance, distance, same]
  refine ⟨?_, ?_, ?_⟩
  · by_cases last : rank + 1 < rankCount
    · exact le_midpoint_of_near (near _ last)
    · obtain rfl : rank = rankCount - 1 := by omega
      exact small.le
  · rintro previous rfl
    exact midpoint_le_of_near (near previous (by omega))
  · rintro (same | ⟨previous, rfl, same⟩)
    · by_cases last : rank + 1 < rankCount
      · refine even (rank + 1) last (Nat.succ_ne_self rank) ?_
        rw [same, abs_midpoint_sub]
      · obtain rfl : rank = rankCount - 1 := by omega
        exact absurd same small.ne
    · refine even previous (by omega) (Nat.succ_ne_self previous).symm ?_
      rw [← same, abs_midpoint_sub]

/-! ### Decimals -/

theorem pow_toNat_div (scale : Int) :
    (10 : ℚ) ^ scale.toNat / 10 ^ (-scale).toNat = 10 ^ scale := by
  rw [← zpow_natCast, ← zpow_natCast, ← zpow_sub₀ (by norm_num)]
  congr 1
  omega

/-- The rank of a decimal is the one to which its magnitude rounds. -/
theorem roundsTo_decimalRank (coefficient : Nat) (scale : Int) :
    RoundsTo (coefficient * 10 ^ scale / unit) (decimalRank coefficient scale) := by
  obtain ⟨exponent, last⟩ : ∃ exponent, exponent = 1074 := ⟨_, rfl⟩
  have rounds := roundsTo_nearestRank (coefficient * Nat.pow 10 scale.toNat)
    (pow_toNat_pos (-scale)) last
  have inverse : unit⁻¹ = 2 ^ exponent := inv_eq_of_mul_eq_one_right (unit_mul_pow last)
  rw [decimalRank]
  convert rounds using 1
  rw [← pow_toNat_div, div_eq_mul_inv _ unit, inverse]
  simp only [Nat.pow_eq]
  push_cast
  ring

end ScenarioTree.Number
