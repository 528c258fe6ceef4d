/-
This file shows that a double is written with as few digits as possible. What reads back as the
double is an interval, so if a multiple of a power of ten lies in it, one of the two neighbours of
the double among these multiples does. A decimal of few digits is such a multiple, unless it is
below the power of ten of the leading digit, and then this power itself lies in the interval. So
the search finds no later grid than any other decimal that reads back, and on it the nearest one.

Seventeen digits are always enough: half of the spacing of their grid is less than half of the
distance to the next double.
-/

import Mathlib.Tactic.Linarith
import ScenarioTree.Proofs.Grammar

namespace ScenarioTree.Number

/-! ### Decimals that read back -/

/-- The exact value of a positive decimal. -/
def Scientific.toRat (decimal : Scientific) : ℚ :=
  decimal.digits * 10 ^ decimal.scale

/-- The value of so many units. -/
def magnitudeOf (units : Nat) : ℚ :=
  units * unit

theorem ten_zpow_pos (scale : Int) : (0 : ℚ) < 10 ^ scale :=
  zpow_pos (by norm_num) scale

theorem magnitudeOf_div_unit (units : Nat) : magnitudeOf units / unit = units :=
  mul_div_cancel_right₀ _ unit_pos.ne'

section Reading

variable {decimal other : Scientific} {rank : Nat}

/-- A decimal reads back exactly if its value rounds to the rank. -/
theorem Scientific.reads_iff : decimal.reads rank ↔ RoundsTo (decimal.toRat / unit) rank := by
  have rounds := roundsTo_decimalRank decimal.digits decimal.scale
  rw [Scientific.reads, beq_iff_eq]
  constructor
  · intro same
    rw [decimalRank, same] at rounds
    exact rounds
  · exact rounds.unique

/-- What lies between a decimal that reads back and the double reads back too. -/
theorem Scientific.reads_of_ge (reads : decimal.reads rank) (above : decimal.toRat ≤ other.toRat)
    (below : other.toRat ≤ magnitudeOf (rankUnits rank)) : other.reads rank := by
  have high := roundsTo_rankUnits rank
  rw [← magnitudeOf_div_unit] at high
  rw [Scientific.reads_iff] at reads
  have rounded := roundsTo_decimalRank other.digits other.scale
  obtain rfl := reads.between high rounded (div_le_div_of_nonneg_right above unit_pos.le)
    (div_le_div_of_nonneg_right below unit_pos.le)
  exact Scientific.reads_iff.mpr rounded

theorem Scientific.reads_of_le (reads : decimal.reads rank)
    (above : magnitudeOf (rankUnits rank) ≤ other.toRat) (below : other.toRat ≤ decimal.toRat) :
    other.reads rank := by
  have low := roundsTo_rankUnits rank
  rw [← magnitudeOf_div_unit] at low
  rw [Scientific.reads_iff] at reads
  have rounded := roundsTo_decimalRank other.digits other.scale
  obtain rfl := low.between reads rounded (div_le_div_of_nonneg_right above unit_pos.le)
    (div_le_div_of_nonneg_right below unit_pos.le)
  exact Scientific.reads_iff.mpr rounded

end Reading

/-! ### Neighbours on a grid -/

/-- The neighbours of a magnitude on a grid: one below, one above, the nearer one first. -/
structure Enclosed (magnitude : ℚ) (scale : Int) (below : Nat) (first second : Scientific) :
    Prop where
  lower : below * 10 ^ scale ≤ magnitude
  upper : magnitude < (below + 1 : ℕ) * 10 ^ scale
  both : first = ⟨below, scale⟩ ∧ second = ⟨below + 1, scale⟩ ∨
    first = ⟨below + 1, scale⟩ ∧ second = ⟨below, scale⟩
  nearer : |magnitude - first.toRat| ≤ |magnitude - second.toRat|

/-- A magnitude on a grid is a quotient, whose integer part counts the multiples below it. -/
theorem magnitudeOf_eq (units : Nat) (scale : Int) {exponent : Nat} (last : exponent = 1074) :
    magnitudeOf units = ((units * 10 ^ (-scale).toNat : ℕ) : ℚ) /
      ((2 ^ exponent * 10 ^ scale.toNat : ℕ) : ℚ) * 10 ^ scale := by
  have inverse : unit = (2 ^ exponent)⁻¹ := eq_inv_of_mul_eq_one_left (unit_mul_pow last)
  have down : (10 : ℚ) ^ (-scale).toNat ≠ 0 := pow_ne_zero _ (by norm_num)
  have up : (10 : ℚ) ^ scale.toNat ≠ 0 := pow_ne_zero _ (by norm_num)
  have spacing : (2 : ℚ) ^ exponent ≠ 0 := pow_ne_zero _ two_ne_zero
  rw [magnitudeOf, inverse, ← pow_toNat_div]
  push_cast
  field_simp

/-- A quotient is its integer part and a part of one, which the remainder compares with a half. -/
theorem exists_part (numerator : Nat) {denominator : Nat} (positive : 0 < denominator) :
    ∃ part : ℚ, (numerator / denominator : ℚ) = (numerator / denominator : ℕ) + part ∧
      0 ≤ part ∧ part < 1 ∧
      (2 * (numerator % denominator) ≤ denominator → 2 * part ≤ 1) ∧
      (denominator ≤ 2 * (numerator % denominator) → 1 ≤ 2 * part) := by
  have base : (0 : ℚ) < denominator := Nat.cast_pos.mpr positive
  have whole : (numerator : ℚ) = (numerator / denominator : ℕ) * denominator +
      (numerator % denominator : ℕ) := by
    exact_mod_cast (Nat.div_add_mod' numerator denominator).symm
  have small := Nat.mod_lt numerator positive
  generalize numerator / denominator = below, numerator % denominator = rest at whole small
  refine ⟨rest / denominator, ?_, div_nonneg (Nat.cast_nonneg _) base.le, ?_, fun near => ?_,
    fun near => ?_⟩
  · rw [whole, add_div, mul_div_cancel_right₀ _ base.ne']
  · rw [div_lt_one base]
    exact_mod_cast small
  · rw [← mul_div_assoc, div_le_one base]
    exact_mod_cast near
  · rw [← mul_div_assoc, one_le_div base]
    exact_mod_cast near

theorem enclosed_of_quotient {magnitude : ℚ} {scale : Int} {numerator denominator : Nat}
    (positive : 0 < denominator) (quotient : magnitude = numerator / denominator * 10 ^ scale)
    (first second : Scientific)
    (ordered : 2 * (numerator % denominator) ≤ denominator ∧
        first = ⟨numerator / denominator, scale⟩ ∧ second = ⟨numerator / denominator + 1, scale⟩ ∨
      denominator ≤ 2 * (numerator % denominator) ∧
        first = ⟨numerator / denominator + 1, scale⟩ ∧ second = ⟨numerator / denominator, scale⟩) :
    Enclosed magnitude scale (numerator / denominator) first second := by
  obtain ⟨part, split, nonneg, small, down, up⟩ := exists_part numerator positive
  have grid := ten_zpow_pos scale
  rw [split] at quotient
  generalize numerator / denominator = below at quotient ordered
  have lowDistance : |magnitude - (⟨below, scale⟩ : Scientific).toRat| = part * 10 ^ scale := by
    rw [Scientific.toRat, quotient, ← sub_mul, add_sub_cancel_left,
      abs_of_nonneg (mul_nonneg nonneg grid.le)]
  have highDistance :
      |magnitude - (⟨below + 1, scale⟩ : Scientific).toRat| = (1 - part) * 10 ^ scale := by
    have opposite : (below + part) * 10 ^ scale - ((below + 1 : ℕ) : ℚ) * 10 ^ scale =
        -((1 - part) * 10 ^ scale) := by
      push_cast
      ring
    rw [Scientific.toRat, quotient, opposite, abs_neg,
      abs_of_nonneg (mul_nonneg (by linarith) grid.le)]
  refine ⟨?_, ?_, ordered.imp And.right And.right, ?_⟩
  · rw [quotient]
    exact mul_le_mul_of_nonneg_right (by linarith) grid.le
  · rw [quotient]
    push_cast
    exact mul_lt_mul_of_pos_right (by linarith) grid
  · rcases ordered with ⟨near, rfl, rfl⟩ | ⟨near, rfl, rfl⟩
    · have half := down near
      rw [lowDistance, highDistance]
      exact mul_le_mul_of_nonneg_right (by linarith) grid.le
    · have half := up near
      rw [lowDistance, highDistance]
      exact mul_le_mul_of_nonneg_right (by linarith) grid.le

theorem exists_neighbours (units : Nat) (scale : Int) :
    ∃ below first second, neighbours units scale = [first, second] ∧
      Enclosed (magnitudeOf units) scale below first second := by
  obtain ⟨exponent, last⟩ : ∃ exponent, exponent = 1074 := ⟨_, rfl⟩
  have quotient := magnitudeOf_eq units scale last
  have positive : 0 < 2 ^ exponent * 10 ^ scale.toNat := by positivity
  simp only [neighbours, ← last, Nat.pow_eq]
  generalize units * 10 ^ (-scale).toNat = numerator at quotient
  generalize 2 ^ exponent * 10 ^ scale.toNat = denominator at quotient positive
  split
  · next near =>
    refine ⟨_, _, _, rfl, enclosed_of_quotient positive quotient _ _ (.inl ⟨?_, rfl, rfl⟩)⟩
    simp only [Bool.or_eq_true, Bool.and_eq_true, decide_eq_true_iff] at near
    omega
  · next far =>
    refine ⟨_, _, _, rfl, enclosed_of_quotient positive quotient _ _ (.inr ⟨?_, rfl, rfl⟩)⟩
    simp only [Bool.or_eq_true, Bool.and_eq_true, decide_eq_true_iff] at far
    omega

/-! ### The search on one grid -/

/-- What the search finds on a grid: the nearer neighbour that reads back. -/
def candidate? (rank : Nat) (scale : Int) : Option Scientific :=
  (neighbours (rankUnits rank) scale).find? (·.reads rank)

theorem find?_pair_of_neg {belongs : Scientific → Bool} {first second : Scientific}
    (other : ¬ belongs first) (kept : belongs second) :
    [first, second].find? belongs = some second := by
  rw [List.find?_cons_of_neg other]
  exact List.find?_cons_of_pos kept

theorem Enclosed.toRat_le {magnitude : ℚ} {scale : Int} {below : Nat} {first second : Scientific}
    (enclosed : Enclosed magnitude scale below first second) {decimal : Scientific}
    (among : decimal = first ∨ decimal = second) :
    decimal.scale = scale ∧ decimal.toRat ≤ magnitude + 10 ^ scale := by
  have lower := enclosed.lower
  have grid := ten_zpow_pos scale
  obtain rfl | rfl : decimal = ⟨below, scale⟩ ∨ decimal = ⟨below + 1, scale⟩ := by
    rcases enclosed.both with ⟨rfl, rfl⟩ | ⟨rfl, rfl⟩
    · exact among
    · exact among.symm
  · refine ⟨rfl, ?_⟩
    rw [Scientific.toRat]
    linarith
  · refine ⟨rfl, ?_⟩
    rw [Scientific.toRat]
    push_cast
    linarith

section Grid

variable {rank : Nat} {scale : Int}

theorem candidate_spec {decimal : Scientific} (found : candidate? rank scale = some decimal) :
    decimal.reads rank ∧ decimal.scale = scale ∧
      decimal.toRat ≤ magnitudeOf (rankUnits rank) + 10 ^ scale := by
  obtain ⟨below, first, second, split, enclosed⟩ := exists_neighbours (rankUnits rank) scale
  rw [candidate?, split] at found
  have member := List.mem_of_find?_eq_some found
  rw [List.mem_pair] at member
  have kept := List.find?_some found
  exact ⟨kept, enclosed.toRat_le member⟩

/-- A multiple that reads back is no nearer than one of the neighbours, which reads back too. -/
theorem Enclosed.exists_reads {below : Nat} {first second : Scientific}
    (enclosed : Enclosed (magnitudeOf (rankUnits rank)) scale below first second) {multiple : Nat}
    (reads : (⟨multiple, scale⟩ : Scientific).reads rank) :
    ∃ neighbour, (neighbour = first ∨ neighbour = second) ∧ neighbour.reads rank ∧
      |magnitudeOf (rankUnits rank) - neighbour.toRat| ≤
        |magnitudeOf (rankUnits rank) - (⟨multiple, scale⟩ : Scientific).toRat| := by
  have grid := ten_zpow_pos scale
  have lower := enclosed.lower
  have upper := enclosed.upper
  by_cases before : multiple ≤ below
  · have less : (multiple : ℚ) * 10 ^ scale ≤ below * 10 ^ scale :=
      mul_le_mul_of_nonneg_right (Nat.cast_le.mpr before) grid.le
    refine ⟨⟨below, scale⟩, ?_, Scientific.reads_of_ge reads less lower, ?_⟩
    · rcases enclosed.both with ⟨rfl, rfl⟩ | ⟨rfl, rfl⟩
      · exact .inl rfl
      · exact .inr rfl
    · rw [Scientific.toRat, Scientific.toRat, abs_of_nonneg (by linarith),
        abs_of_nonneg (by linarith)]
      linarith
  · have more : ((below + 1 : ℕ) : ℚ) * 10 ^ scale ≤ multiple * 10 ^ scale :=
      mul_le_mul_of_nonneg_right (Nat.cast_le.mpr (Nat.lt_of_not_le before)) grid.le
    refine ⟨⟨below + 1, scale⟩, ?_, Scientific.reads_of_le reads upper.le more, ?_⟩
    · rcases enclosed.both with ⟨rfl, rfl⟩ | ⟨rfl, rfl⟩
      · exact .inr rfl
      · exact .inl rfl
    · rw [Scientific.toRat, Scientific.toRat, abs_of_nonpos (by linarith),
        abs_of_nonpos (by linarith)]
      linarith

/-- If a multiple reads back, the search finds one on this grid, and none that is farther. -/
theorem exists_candidate {multiple : Nat} (reads : (⟨multiple, scale⟩ : Scientific).reads rank) :
    ∃ decimal, candidate? rank scale = some decimal ∧
      |magnitudeOf (rankUnits rank) - decimal.toRat| ≤
        |magnitudeOf (rankUnits rank) - (⟨multiple, scale⟩ : Scientific).toRat| := by
  obtain ⟨below, first, second, split, enclosed⟩ := exists_neighbours (rankUnits rank) scale
  obtain ⟨neighbour, among, kept, near⟩ := enclosed.exists_reads reads
  rw [candidate?, split]
  by_cases firstReads : first.reads rank
  · refine ⟨first, List.find?_cons_of_pos firstReads, ?_⟩
    rcases among with rfl | rfl
    · exact near
    · exact enclosed.nearer.trans near
  · obtain rfl : neighbour = second := among.resolve_left fun same => firstReads (same ▸ kept)
    exact ⟨neighbour, find?_pair_of_neg firstReads kept, near⟩

end Grid

/-! ### The search -/

/-- The search stops on the first grid that has a candidate. -/
theorem exists_first_candidate {rank steps : Nat} {fuel : Nat} {scale : Int} (within : steps < fuel)
    {decimal : Scientific} (found : candidate? rank (scale - steps) = some decimal) :
    ∃ first ≤ steps,
      candidate? rank (scale - first) = some (searchShortest rank (rankUnits rank) fuel scale) := by
  induction fuel generalizing steps scale with
  | zero => exact absurd within (Nat.not_lt_zero _)
  | succ fuel induction =>
    have unfolded : searchShortest rank (rankUnits rank) (fuel + 1) scale =
        (candidate? rank scale).getD (searchShortest rank (rankUnits rank) fuel (scale - 1)) := rfl
    rw [unfolded]
    cases here : candidate? rank scale with
    | some decimal =>
      refine ⟨0, Nat.zero_le _, ?_⟩
      rw [Nat.cast_zero, sub_zero, here]
      rfl
    | none =>
      cases steps with
      | zero =>
        rw [Nat.cast_zero, sub_zero, here] at found
        cases found
      | succ steps =>
        have shifted (count : Nat) : scale - (count + 1 : ℕ) = scale - 1 - count := by
          push_cast
          ring
        rw [shifted] at found
        obtain ⟨first, least, same⟩ := induction (Nat.lt_of_succ_lt_succ within) found
        refine ⟨first + 1, Nat.succ_le_succ least, ?_⟩
        rw [shifted, same]
        rfl

/-! ### The leading digit -/

/-- One unit is more than `10 ^ -324`. -/
theorem two_pow_le_ten_pow : 2 ^ 1074 ≤ 10 ^ 324 := by
  decide +kernel

/-- A positive number lies between two powers of ten, which the number of its digits tells. -/
theorem pow_le_of_length_toDigits {number : Nat} (positive : 0 < number) :
    10 ^ ((Nat.toDigits 10 number).length - 1) ≤ number ∧
      number < 10 ^ (Nat.toDigits 10 number).length := by
  have some : 0 < (Nat.toDigits 10 number).length := List.length_pos_iff.mpr Nat.toDigits_ne_nil
  refine ⟨?_, (Nat.length_toDigits_le_iff (by decide) some).mp le_rfl⟩
  by_cases single : (Nat.toDigits 10 number).length - 1 = 0
  · rw [single]
    exact positive
  · refine Nat.le_of_not_lt fun small => ?_
    have short := (Nat.length_toDigits_le_iff (by decide) (Nat.pos_of_ne_zero single)).mpr small
    omega

/-- The decimal exponent counts the digits of the magnitude in units of `10 ^ -324`. -/
theorem exists_count {units exponent places : Nat} (positive : 0 < units) (last : exponent = 1074)
    (spelled : places = 324) :
    ∃ count : Nat, decimalExponent units = count - places ∧
      10 ^ count * 2 ^ exponent ≤ units * 10 ^ places ∧
      units * 10 ^ places < 10 ^ (count + 1) * 2 ^ exponent := by
  obtain ⟨scaled, scaled_eq⟩ :
      ∃ scaled, scaled = units * 10 ^ places / 2 ^ exponent := ⟨_, rfl⟩
  have enough : 2 ^ exponent ≤ 10 ^ places := by
    rw [last, spelled]
    exact two_pow_le_ten_pow
  have some : 0 < scaled := by
    rw [scaled_eq]
    exact Nat.div_pos (enough.trans (Nat.le_mul_of_pos_left _ positive)) (Nat.two_pow_pos _)
  obtain ⟨count, length⟩ : ∃ count, (Nat.toDigits 10 scaled).length = count + 1 :=
    Nat.exists_eq_add_one_of_ne_zero (List.length_pos_iff.mpr Nat.toDigits_ne_nil).ne'
  obtain ⟨least, most⟩ := pow_le_of_length_toDigits some
  rw [length, Nat.add_sub_cancel] at least
  rw [length] at most
  refine ⟨count, ?_, ?_, ?_⟩
  · have digits : decimalExponent units = (Nat.toDigits 10 scaled).length - 325 := by
      rw [decimalExponent, scaled_eq, ← last, ← spelled]
      rfl
    rw [digits, length, spelled]
    push_cast
    ring
  · exact (Nat.mul_le_mul_right (2 ^ exponent) least).trans
      (scaled_eq ▸ Nat.div_mul_le_self (units * 10 ^ places) (2 ^ exponent))
  · exact (Nat.div_lt_iff_lt_mul (Nat.two_pow_pos _)).mp (scaled_eq ▸ most)

/-- The decimal exponent of a magnitude is that of its leading digit. -/
theorem decimalExponent_spec {units : Nat} (positive : 0 < units) :
    10 ^ decimalExponent units ≤ magnitudeOf units ∧
      magnitudeOf units < 10 ^ (decimalExponent units + 1) := by
  obtain ⟨exponent, last⟩ : ∃ exponent, exponent = 1074 := ⟨_, rfl⟩
  obtain ⟨places, spelled⟩ : ∃ places, places = 324 := ⟨_, rfl⟩
  obtain ⟨count, power, lower, upper⟩ := exists_count positive last spelled
  have grid : (0 : ℚ) < 10 ^ places := by positivity
  have spacing : (0 : ℚ) < 2 ^ exponent := by positivity
  have shifted : magnitudeOf units * 10 ^ places = units * 10 ^ places / 2 ^ exponent := by
    rw [magnitudeOf, eq_div_iff spacing.ne']
    calc units * unit * 10 ^ places * 2 ^ exponent
        = units * 10 ^ places * (unit * 2 ^ exponent) := by ring
      _ = units * 10 ^ places := by rw [unit_mul_pow last, mul_one]
  rw [power]
  constructor
  · rw [zpow_sub₀ (by norm_num), zpow_natCast, zpow_natCast, div_le_iff₀ grid, shifted,
      le_div_iff₀ spacing]
    exact_mod_cast lower
  · have next : (count - places + 1 : ℤ) = (count + 1 : ℕ) - places := by
      push_cast
      ring
    rw [next, zpow_sub₀ (by norm_num), zpow_natCast, zpow_natCast, lt_div_iff₀ grid, shifted,
      div_lt_iff₀ spacing]
    exact_mod_cast upper

/-! ### Seventeen digits -/

/-- A magnitude is below the next binade but one. -/
theorem rankUnits_le (rank : Nat) :
    rankUnits (rank + 1) ≤ 2 ^ 53 * 2 ^ (rank / 2 ^ 52 - 1) := by
  obtain ⟨shift, passed⟩ : ∃ shift, shift = rank / 2 ^ 52 - 1 := ⟨_, rfl⟩
  obtain ⟨mantissa, split⟩ : ∃ mantissa, rank + 1 = shift * 2 ^ 52 + mantissa :=
    ⟨rank + 1 - shift * 2 ^ 52, by omega⟩
  have short : mantissa ≤ 2 ^ 53 := by omega
  rw [← passed, split, rankUnits_add short (by omega)]
  exact Nat.mul_le_mul_right _ short

/-- What differs from the magnitude of a rank by less than its 54th binary digit rounds to it. -/
theorem roundsTo_of_close {rank : Nat} {magnitude : ℚ}
    (close : |magnitude - rankUnits rank| * 2 ^ 54 < rankUnits rank) : RoundsTo magnitude rank := by
  have spacing (step : Nat) :
      (rankUnits (step + 1) : ℚ) = rankUnits step + 2 ^ (step / 2 ^ 52 - 1) ∧
        (rankUnits (step + 1) : ℚ) ≤ 2 ^ 53 * 2 ^ (step / 2 ^ 52 - 1) :=
    ⟨by exact_mod_cast rankUnits_succ step, by exact_mod_cast rankUnits_le step⟩
  obtain ⟨above, below⟩ := abs_le.mp (le_refl |magnitude - rankUnits rank|)
  refine .of_lt ?_ ?_
  · obtain ⟨next, bound⟩ := spacing rank
    have positive : (0 : ℚ) < 2 ^ (rank / 2 ^ 52 - 1) := by positivity
    rw [midpoint, next]
    rw [next] at bound
    linarith
  · rintro previous rfl
    obtain ⟨next, bound⟩ := spacing previous
    rw [midpoint]
    linarith

/-- The nearer neighbour is no farther than half of the spacing. -/
theorem Enclosed.half {magnitude : ℚ} {scale : Int} {below : Nat} {first second : Scientific}
    (enclosed : Enclosed magnitude scale below first second) :
    2 * |magnitude - first.toRat| ≤ 10 ^ scale := by
  have lower := enclosed.lower
  have upper := enclosed.upper
  have nearer := enclosed.nearer
  have low : |magnitude - (⟨below, scale⟩ : Scientific).toRat| = magnitude - below * 10 ^ scale :=
    abs_of_nonneg (by rw [Scientific.toRat]; linarith)
  have high : |magnitude - (⟨below + 1, scale⟩ : Scientific).toRat| =
      (below + 1 : ℕ) * 10 ^ scale - magnitude := by
    rw [abs_sub_comm]
    exact abs_of_nonneg (by rw [Scientific.toRat]; linarith)
  push_cast at high
  rcases enclosed.both with ⟨rfl, rfl⟩ | ⟨rfl, rfl⟩
  · rw [low, high] at nearer
    rw [low]
    linarith
  · rw [low, high] at nearer
    rw [high]
    linarith

/-- On the grid of seventeen digits a neighbour reads back. -/
theorem exists_seventeen {rank : Nat} (positive : 0 < rankUnits rank) :
    ∃ multiple,
      (⟨multiple, decimalExponent (rankUnits rank) - (16 : ℕ)⟩ : Scientific).reads rank := by
  obtain ⟨scale, grid⟩ :
      ∃ scale, scale = decimalExponent (rankUnits rank) - (16 : ℕ) := ⟨_, rfl⟩
  obtain ⟨below, first, second, -, enclosed⟩ := exists_neighbours (rankUnits rank) scale
  have power : decimalExponent (rankUnits rank) = (16 : ℕ) + scale := by
    rw [grid]
    ring
  have leading := (decimalExponent_spec positive).1
  rw [power, zpow_add₀ (by norm_num), zpow_natCast] at leading
  have spacing := ten_zpow_pos scale
  have half := enclosed.half
  have distance : |first.toRat / unit - rankUnits rank| * unit =
      |magnitudeOf (rankUnits rank) - first.toRat| := by
    rw [abs_sub_comm, ← abs_of_pos unit_pos, ← abs_mul, abs_of_pos unit_pos, sub_mul,
      div_mul_cancel₀ _ unit_pos.ne', magnitudeOf]
  have close : |first.toRat / unit - rankUnits rank| * 2 ^ 54 < rankUnits rank := by
    refine lt_of_mul_lt_mul_right ?_ unit_pos.le
    calc |first.toRat / unit - rankUnits rank| * 2 ^ 54 * unit
        = |first.toRat / unit - rankUnits rank| * unit * 2 ^ 54 := by ring
      _ = 2 * |magnitudeOf (rankUnits rank) - first.toRat| * 2 ^ 53 := by
        rw [distance]
        ring
      _ ≤ 10 ^ scale * 2 ^ 53 := mul_le_mul_of_nonneg_right half (by norm_num)
      _ < 10 ^ 16 * 10 ^ scale := by linarith
      _ ≤ rankUnits rank * unit := leading
  have scaled : first.scale = scale := (enclosed.toRat_le (.inl rfl)).1
  refine ⟨first.digits, ?_⟩
  rw [← grid, ← scaled]
  exact Scientific.reads_iff.mpr (roundsTo_of_close close)

/-! ### Few digits -/

/-- A decimal of few digits that reads back is on a coarse grid, or it is below the power of ten of
the leading digit; in both cases a coarse grid has a multiple that reads back and is as near. -/
theorem exists_multiple {rank : Nat} (positive : 0 < rankUnits rank) {decimal : Scientific}
    (reads : decimal.reads rank) {count : Nat} (few : decimal.digits < 10 ^ (count + 1)) :
    ∃ steps ≤ count, ∃ multiple,
      (⟨multiple, decimalExponent (rankUnits rank) - steps⟩ : Scientific).reads rank ∧
        |magnitudeOf (rankUnits rank) -
            (⟨multiple, decimalExponent (rankUnits rank) - steps⟩ : Scientific).toRat| ≤
          |magnitudeOf (rankUnits rank) - decimal.toRat| := by
  obtain ⟨exponent, known⟩ : ∃ exponent, exponent = decimalExponent (rankUnits rank) := ⟨_, rfl⟩
  have leading := (decimalExponent_spec positive).1
  rw [← known] at leading ⊢
  by_cases coarse : exponent - count ≤ decimal.scale
  · obtain ⟨zeros, shifted⟩ : ∃ zeros : Nat, decimal.scale = exponent - count + zeros :=
      ⟨(decimal.scale - (exponent - count)).toNat, by omega⟩
    have same : (⟨decimal.digits * 10 ^ zeros, exponent - count⟩ : Scientific).toRat =
        decimal.toRat := by
      rw [Scientific.toRat, Scientific.toRat, shifted, zpow_add₀ (by norm_num), zpow_natCast]
      push_cast
      ring
    refine ⟨count, le_rfl, decimal.digits * 10 ^ zeros, ?_, by rw [same]⟩
    rw [Scientific.reads_iff] at reads ⊢
    rwa [same]
  · have small : decimal.toRat < 10 ^ exponent := by
      have digits : (decimal.digits : ℚ) < 10 ^ (count + 1) := by exact_mod_cast few
      calc decimal.toRat < 10 ^ (count + 1) * 10 ^ decimal.scale :=
            mul_lt_mul_of_pos_right digits (ten_zpow_pos _)
        _ = 10 ^ ((count + 1 : ℕ) + decimal.scale) := by
            rw [zpow_add₀ (by norm_num), zpow_natCast]
        _ ≤ 10 ^ exponent := zpow_le_zpow_right₀ (by norm_num) (by push_cast; omega)
    have first : (⟨1, exponent - (0 : ℕ)⟩ : Scientific).toRat = 10 ^ exponent := by
      rw [Scientific.toRat, Nat.cast_one, one_mul, Nat.cast_zero, sub_zero]
    refine ⟨0, Nat.zero_le _, 1, Scientific.reads_of_ge reads ?_ ?_, ?_⟩
    · rw [first]
      exact small.le
    · rwa [first]
    · rw [first, abs_of_nonneg (by linarith), abs_of_nonneg (by linarith)]
      linarith

/-! ### Significant digits -/

/-- The number of digits that a decimal is written with. -/
def Scientific.width (decimal : Scientific) : Nat :=
  (significantDigits decimal.digits).length

theorem toDigits_pow (count : Nat) :
    Nat.toDigits 10 (10 ^ count) = '1' :: List.replicate count '0' := by
  induction count with
  | zero => rfl
  | succ count induction =>
    have split := @Nat.toDigits_append_toDigits 10 (10 ^ count) 0 (by decide)
      (Nat.pow_pos (by decide)) (by decide)
    rw [Nat.add_zero, ← Nat.pow_succ', induction] at split
    rw [← split, List.replicate_succ']
    rfl

theorem significantDigits_pow (count : Nat) : significantDigits (10 ^ count) = ['1'] := by
  rw [significantDigits, digitsOf, toDigits_pow, List.reverse_cons, List.reverse_replicate,
    List.dropWhile_append_of_pos (fun digit member => by
      rw [List.eq_of_mem_replicate member]
      rfl)]
  rfl

/-- A number up to a power of ten needs no more digits than the power has zeros. -/
theorem length_significantDigits_le {number count : Nat} (bounded : number ≤ 10 ^ (count + 1)) :
    (significantDigits number).length ≤ count + 1 := by
  rcases Nat.lt_or_eq_of_le bounded with less | rfl
  · obtain ⟨zeros, split⟩ := digitsOf_eq number
    have all := (Nat.length_toDigits_le_iff (by decide) (Nat.succ_pos count)).mpr less
    rw [← digitsOf, split, List.length_append] at all
    omega
  · rw [significantDigits_pow, List.length_singleton]
    omega

/-- A decimal is that of its significant digits, with another scale. -/
theorem Scientific.exists_significant (decimal : Scientific) :
    ∃ other : Scientific, other.toRat = decimal.toRat ∧ other.digits < 10 ^ decimal.width := by
  obtain ⟨zeros, split⟩ := digitsOf_eq decimal.digits
  have value : digitsValue (digitsOf decimal.digits) = decimal.digits := digitsValue_toDigits _
  rw [split, digitsValue_append_zeros] at value
  refine ⟨⟨digitsValue (significantDigits decimal.digits), zeros + decimal.scale⟩, ?_,
    digitsValue_lt fun digit => isDigit_of_mem_significantDigits⟩
  rw [toRat, toRat, zpow_add₀ (by norm_num), zpow_natCast, ← mul_assoc]
  congr 1
  exact_mod_cast value

/-! ### The shortest decimal -/

section Shortest

variable {value : Finite}

theorem rankUnits_pos {rank : Nat} (nonzero : rank ≠ 0) : 0 < rankUnits rank :=
  rankUnits_strictMono (Nat.pos_of_ne_zero nonzero)

/-- The search ends on the first grid that has a candidate. -/
theorem Finite.exists_steps (nonzero : value.rank ≠ 0) :
    ∃ steps : Nat, candidate? value.rank (decimalExponent (rankUnits value.rank) - steps) =
        some value.shortest ∧
      ∀ (other : Nat) (decimal : Scientific),
        candidate? value.rank (decimalExponent (rankUnits value.rank) - other) = some decimal →
          steps ≤ other := by
  have first {steps : Nat} (within : steps < 17) {decimal : Scientific}
      (found : candidate? value.rank (decimalExponent (rankUnits value.rank) - steps) =
        some decimal) :
      ∃ first ≤ steps, candidate? value.rank (decimalExponent (rankUnits value.rank) - first) =
        some value.shortest := exists_first_candidate within found
  obtain ⟨multiple, reads⟩ := exists_seventeen (rankUnits_pos nonzero)
  obtain ⟨decimal, found, -⟩ := exists_candidate reads
  obtain ⟨steps, bounded, same⟩ := first (Nat.lt_succ_self 16) found
  refine ⟨steps, same, fun other decimal foundOther => ?_⟩
  by_cases within : other < 17
  · obtain ⟨earliest, least, sameEarliest⟩ := first within foundOther
    have scale := (candidate_spec same).2.1
    rw [(candidate_spec sameEarliest).2.1] at scale
    omega
  · omega

theorem Finite.width_shortest_le (nonzero : value.rank ≠ 0) {steps : Nat}
    (found : candidate? value.rank (decimalExponent (rankUnits value.rank) - steps) =
      some value.shortest) : value.shortest.width ≤ steps + 1 := by
  obtain ⟨-, scale, bounded⟩ := candidate_spec found
  have upper := (decimalExponent_spec (rankUnits_pos nonzero)).2
  obtain ⟨grid, known⟩ :
      ∃ grid, grid = decimalExponent (rankUnits value.rank) - steps := ⟨_, rfl⟩
  have top : decimalExponent (rankUnits value.rank) + 1 = (steps + 1 : ℕ) + grid := by
    rw [known]
    push_cast
    ring
  rw [top, zpow_add₀ (by norm_num), zpow_natCast] at upper
  rw [← known] at scale bounded
  rw [Scientific.toRat, scale] at bounded
  have spacing := ten_zpow_pos grid
  have less : (value.shortest.digits : ℚ) < (10 ^ (steps + 1) + 1 : ℕ) := by
    refine lt_of_mul_lt_mul_right ?_ spacing.le
    push_cast
    linarith
  exact length_significantDigits_le (Nat.le_of_lt_succ (Nat.cast_lt.mp less))

theorem Scientific.digits_ne_zero {decimal : Scientific} (nonzero : value.rank ≠ 0)
    (reads : decimal.reads value.rank) : decimal.digits ≠ 0 := by
  intro nothing
  have same : decimalRank decimal.digits decimal.scale = value.rank := beq_iff_eq.mp reads
  rw [nothing, decimalRank_zero] at same
  exact nonzero same.symm

/-- Every decimal that reads back as a double has as many digits as the shortest one at least; and
if it has not more, the shortest one is as near to the double at least. -/
theorem Finite.shortest_least (nonzero : value.rank ≠ 0) {other : Scientific}
    (reads : other.reads value.rank) :
    value.shortest.width ≤ other.width ∧
      (other.width ≤ value.shortest.width →
        |magnitudeOf (rankUnits value.rank) - value.shortest.toRat| ≤
          |magnitudeOf (rankUnits value.rank) - other.toRat|) := by
  obtain ⟨steps, found, least⟩ := exists_steps nonzero
  have width := width_shortest_le nonzero found
  obtain ⟨significant, same, few⟩ := other.exists_significant
  have significantReads : significant.reads value.rank := by
    rw [Scientific.reads_iff] at reads ⊢
    rwa [same]
  -- a bound on the digits gives a grid, and the search goes no farther than this grid
  have reached {count : Nat} (bound : other.width ≤ count + 1) : ∃ final ≤ count, steps ≤ final ∧
      (final = steps → |magnitudeOf (rankUnits value.rank) - value.shortest.toRat| ≤
        |magnitudeOf (rankUnits value.rank) - other.toRat|) := by
    obtain ⟨final, within, multiple, kept, near⟩ := exists_multiple (rankUnits_pos nonzero)
      significantReads (few.trans_le (Nat.pow_le_pow_right (by decide) bound))
    obtain ⟨decimal, there, nearer⟩ := exists_candidate kept
    refine ⟨final, within, least final decimal there, fun last => ?_⟩
    rw [last, found] at there
    rw [same] at near
    rw [Option.some.inj there]
    exact nearer.trans near
  have some : other.width ≠ 0 := by
    have digits := Scientific.digits_ne_zero nonzero reads
    exact (List.length_pos_iff.mpr (significantDigits_ne_nil (Nat.pos_of_ne_zero digits))).ne'
  obtain ⟨count, counted⟩ := Nat.exists_eq_add_one_of_ne_zero some
  refine ⟨?_, fun short => ?_⟩
  · obtain ⟨final, within, bound, -⟩ := reached counted.le
    omega
  · obtain ⟨final, within, bound, near⟩ := reached (short.trans width)
    exact near (by omega)

/-- A decimal that reads back as a double: none that does has fewer digits, and none with as few
digits is nearer to the double. -/
structure Finite.IsShortest (value : Finite) (decimal : Scientific) : Prop where
  reads : decimal.reads value.rank
  fewest : ∀ other : Scientific, other.reads value.rank → decimal.width ≤ other.width
  nearest : ∀ other : Scientific, other.reads value.rank → other.width ≤ decimal.width →
    |magnitudeOf (rankUnits value.rank) - decimal.toRat| ≤
      |magnitudeOf (rankUnits value.rank) - other.toRat|

/-- A double is written with the shortest decimal. -/
theorem Finite.isShortest_shortest (nonzero : value.rank ≠ 0) :
    value.IsShortest value.shortest where
  reads := reads_searchShortest value 17 _
  fewest := fun _ reads => (shortest_least nonzero reads).1
  nearest := fun _ reads => (shortest_least nonzero reads).2

end Shortest

end ScenarioTree.Number
