/-
This file says what rounding to a double means. The magnitudes of the doubles, in units of
`2 ^ -1074`, grow with their ranks, and the magnitudes that round to one rank lie between the
midpoints to its neighbours; a midpoint itself goes to the even rank. Every magnitude has exactly
one such rank, a larger magnitude has no smaller one, and rounding a ratio computes it.

The ranks go on where the finite doubles end, so a magnitude is too large exactly when it reaches
the last midpoint.
-/

import Mathlib.Data.Rat.Cast.Order
import Mathlib.Order.Monotone.Basic
import Mathlib.Tactic.FieldSimp
import Mathlib.Tactic.Linarith
import Mathlib.Tactic.Positivity
import ScenarioTree.Proofs.Ratio

namespace ScenarioTree.Number

/-! ### The magnitudes of ranks -/

/-- The magnitude of a rank in units of `2 ^ -1074`, whether or not a double has the rank. -/
def rankUnits (rank : Nat) : Nat :=
  (rank - (rank / Nat.pow 2 52 - 1) * Nat.pow 2 52) * Nat.pow 2 (rank / Nat.pow 2 52 - 1)

/-- A mantissa that fills up is the first one of the next binade. -/
theorem rankUnits_add {shift mantissa : Nat} (upper : mantissa ≤ 2 ^ 53)
    (normal : shift = 0 ∨ 2 ^ 52 ≤ mantissa) :
    rankUnits (shift * 2 ^ 52 + mantissa) = mantissa * 2 ^ shift := by
  rw [rankUnits, Nat.pow_eq, Nat.pow_eq]
  rcases Nat.lt_or_eq_of_le upper with below | rfl
  · have binade : (shift * 2 ^ 52 + mantissa) / 2 ^ 52 - 1 = shift := by omega
    rw [binade, Nat.add_sub_cancel_left]
  · have binade : (shift * 2 ^ 52 + 2 ^ 53) / 2 ^ 52 - 1 = shift + 1 := by omega
    have first : shift * 2 ^ 52 + 2 ^ 53 - (shift + 1) * 2 ^ 52 = 2 ^ 52 := by omega
    rw [binade, first, Nat.pow_succ 2 shift]
    ring

/-- One rank further is one spacing further. -/
theorem rankUnits_succ (rank : Nat) :
    rankUnits (rank + 1) = rankUnits rank + 2 ^ (rank / 2 ^ 52 - 1) := by
  obtain ⟨shift, passed⟩ : ∃ shift, shift = rank / 2 ^ 52 - 1 := ⟨_, rfl⟩
  obtain ⟨mantissa, split⟩ : ∃ mantissa, rank = shift * 2 ^ 52 + mantissa :=
    ⟨rank - shift * 2 ^ 52, by omega⟩
  have next : rankUnits (shift * 2 ^ 52 + (mantissa + 1)) = (mantissa + 1) * 2 ^ shift :=
    rankUnits_add (by omega) (by omega)
  rw [← passed, split, Nat.add_assoc, next, rankUnits_add (by omega) (by omega), Nat.succ_mul]

theorem rankUnits_strictMono : StrictMono rankUnits :=
  strictMono_nat_of_lt_succ fun rank => by
    rw [rankUnits_succ]
    exact Nat.lt_add_of_pos_right (Nat.two_pow_pos _)

theorem rankUnits_lt_succ (rank : Nat) : (rankUnits rank : ℚ) < rankUnits (rank + 1) :=
  Nat.cast_lt.mpr (rankUnits_strictMono (Nat.lt_succ_self rank))

/-! ### Rounding to integers -/

/-- Rounding errs by half of the denominator at most, and by half of it only to the even side. -/
structure HalfEven (numerator denominator rounded : Nat) : Prop where
  upper : 2 * numerator ≤ 2 * (rounded * denominator) + denominator
  lower : 2 * (rounded * denominator) ≤ 2 * numerator + denominator
  even : 2 * numerator = 2 * (rounded * denominator) + denominator ∨
    2 * (rounded * denominator) = 2 * numerator + denominator → rounded % 2 = 0

theorem halfEven_roundHalfEven (numerator : Nat) {denominator : Nat} (positive : 0 < denominator) :
    HalfEven numerator denominator (roundHalfEven numerator denominator) := by
  obtain ⟨quotient, divided⟩ : ∃ quotient, quotient = numerator / denominator := ⟨_, rfl⟩
  obtain ⟨rest, left⟩ : ∃ rest, rest = numerator % denominator := ⟨_, rfl⟩
  have whole : quotient * denominator + rest = numerator := by
    rw [divided, left, Nat.mul_comm, Nat.div_add_mod]
  have small : rest < denominator := left ▸ Nat.mod_lt _ positive
  have down (near : 2 * rest ≤ denominator) (even : 2 * rest = denominator → quotient % 2 = 0) :
      HalfEven numerator denominator quotient := by
    constructor <;> omega
  have up (near : denominator ≤ 2 * rest) (even : 2 * rest = denominator → quotient % 2 = 1) :
      HalfEven numerator denominator (quotient + 1) := by
    have next : (quotient + 1) * denominator = quotient * denominator + denominator :=
      Nat.succ_mul _ _
    constructor <;> omega
  simp only [roundHalfEven, ← divided, ← left]
  split
  · exact down (by omega) (by omega)
  · split
    · exact up (by omega) (by omega)
    · split
      · next even => exact down (by omega) fun _ => even
      · exact up (by omega) (by omega)

/-! ### Midpoints -/

/-- The magnitude halfway between a rank and the next. -/
def midpoint (rank : Nat) : ℚ :=
  (rankUnits rank + rankUnits (rank + 1)) / 2

theorem midpoint_strictMono : StrictMono midpoint :=
  strictMono_nat_of_lt_succ fun rank => by
    have first := rankUnits_lt_succ rank
    have second := rankUnits_lt_succ (rank + 1)
    rw [midpoint, midpoint]
    linarith

/-- The rank that a magnitude rounds to: the magnitude lies between the midpoints on both sides, and
on one of them only if the rank is even. -/
structure RoundsTo (magnitude : ℚ) (rank : Nat) : Prop where
  upper : magnitude ≤ midpoint rank
  lower : ∀ previous, rank = previous + 1 → midpoint previous ≤ magnitude
  even : magnitude = midpoint rank ∨
    (∃ previous, rank = previous + 1 ∧ midpoint previous = magnitude) → rank % 2 = 0

/-- What is larger does not round to less. -/
theorem RoundsTo.mono {magnitude other : ℚ} {rank higher : Nat} (first : RoundsTo magnitude rank)
    (second : RoundsTo other higher) (le : magnitude ≤ other) : rank ≤ higher := by
  refine Nat.le_of_not_lt fun less => ?_
  obtain ⟨previous, split⟩ := Nat.exists_eq_add_one_of_ne_zero (Nat.ne_zero_of_lt less)
  have between : midpoint previous ≤ midpoint higher :=
    ((first.lower previous split).trans le).trans second.upper
  obtain rfl : higher = previous := by
    have reached := midpoint_strictMono.le_iff_le.mp between
    omega
  -- both are the midpoint between the two ranks, of which one is odd
  have same : magnitude = other :=
    le_antisymm le (second.upper.trans (first.lower _ split))
  have exact : midpoint higher = magnitude :=
    le_antisymm (first.lower _ split) (le.trans second.upper)
  have even := first.even (.inr ⟨higher, split, exact⟩)
  have other := second.even (.inl (same ▸ exact.symm))
  omega

/-- A magnitude rounds to one rank only. -/
theorem RoundsTo.unique {magnitude : ℚ} {rank other : Nat} (first : RoundsTo magnitude rank)
    (second : RoundsTo magnitude other) : rank = other :=
  Nat.le_antisymm (first.mono second le_rfl) (second.mono first le_rfl)

/-- What lies between two magnitudes of one rank has the same rank. -/
theorem RoundsTo.between {low middle high : ℚ} {rank other : Nat} (first : RoundsTo low rank)
    (second : RoundsTo high rank) (rounded : RoundsTo middle other) (above : low ≤ middle)
    (below : middle ≤ high) : other = rank :=
  Nat.le_antisymm (rounded.mono second below) (first.mono rounded above)

/-- A magnitude strictly between the midpoints rounds to the rank. -/
theorem RoundsTo.of_lt {magnitude : ℚ} {rank : Nat} (upper : magnitude < midpoint rank)
    (lower : ∀ previous, rank = previous + 1 → midpoint previous < magnitude) :
    RoundsTo magnitude rank := by
  refine ⟨upper.le, fun previous split => (lower previous split).le, ?_⟩
  rintro (same | ⟨previous, split, same⟩)
  · exact absurd same upper.ne
  · exact absurd same (lower previous split).ne

/-- The magnitude of a rank rounds to the rank. -/
theorem roundsTo_rankUnits (rank : Nat) : RoundsTo (rankUnits rank) rank := by
  refine .of_lt ?_ ?_
  · have next := rankUnits_lt_succ rank
    rw [midpoint]
    linarith
  · rintro previous rfl
    have next := rankUnits_lt_succ previous
    rw [midpoint]
    linarith

/-! ### Rounding a ratio -/

/-- A magnitude rounded to the spacing of its binade: the mantissa is the nearest integer. -/
structure ScaledTo (magnitude : ℚ) (shift mantissa : Nat) : Prop where
  short : mantissa ≤ 2 ^ 53
  normal : shift = 0 ∨ 2 ^ 52 ≤ mantissa ∧ 2 ^ 52 * 2 ^ shift ≤ magnitude
  upper : magnitude ≤ mantissa * 2 ^ shift + 2 ^ shift / 2
  lower : mantissa * 2 ^ shift ≤ magnitude + 2 ^ shift / 2
  even : magnitude = mantissa * 2 ^ shift + 2 ^ shift / 2 ∨
    mantissa * 2 ^ shift = magnitude + 2 ^ shift / 2 → mantissa % 2 = 0

theorem ScaledTo.roundsTo {magnitude : ℚ} {shift mantissa : Nat}
    (scaled : ScaledTo magnitude shift mantissa) :
    RoundsTo magnitude (shift * 2 ^ 52 + mantissa) := by
  have spacing : (0 : ℚ) < 2 ^ shift := by positivity
  have here : (rankUnits (shift * 2 ^ 52 + mantissa) : ℚ) = mantissa * 2 ^ shift := by
    rw [rankUnits_add scaled.short (scaled.normal.imp_right And.left)]
    push_cast
    rfl
  -- the spacing above a rank is that of its binade, or larger if the mantissa has filled up
  have after : mantissa * 2 ^ shift + 2 ^ shift / 2 ≤ midpoint (shift * 2 ^ 52 + mantissa) := by
    have wider : (2 : ℚ) ^ shift ≤ 2 ^ ((shift * 2 ^ 52 + mantissa) / 2 ^ 52 - 1) := by
      have normal := scaled.normal.imp_right And.left
      exact pow_le_pow_right₀ one_le_two (by omega)
    rw [midpoint, rankUnits_succ, Nat.cast_add, here, Nat.cast_pow, Nat.cast_ofNat]
    linarith
  -- below the first rank of a binade there is another spacing, but also no magnitude to round
  have before : ∀ previous, shift * 2 ^ 52 + mantissa = previous + 1 →
      midpoint previous = mantissa * 2 ^ shift - 2 ^ shift / 2 ∨ midpoint previous < magnitude := by
    intro previous split
    by_cases first : shift ≠ 0 ∧ mantissa = 2 ^ 52
    · right
      have less := rankUnits_lt_succ previous
      have reached := (scaled.normal.resolve_left first.1).2
      rw [← split, here, first.2] at less
      rw [midpoint, ← split, here, first.2]
      push_cast at less ⊢
      linarith
    · left
      have normal := scaled.normal.imp_right And.left
      have short := scaled.short
      obtain ⟨smaller, rfl⟩ : ∃ smaller, mantissa = smaller + 1 :=
        Nat.exists_eq_add_one_of_ne_zero (by omega)
      obtain rfl : previous = shift * 2 ^ 52 + smaller := by omega
      rw [midpoint, ← split, here, rankUnits_add (by omega) (by omega)]
      push_cast
      ring
  have even (mantissaEven : mantissa % 2 = 0) : (shift * 2 ^ 52 + mantissa) % 2 = 0 := by omega
  refine ⟨scaled.upper.trans after, fun previous split => ?_, ?_⟩
  · rcases before previous split with same | less
    · linarith [scaled.lower]
    · exact less.le
  · rintro (same | ⟨previous, split, same⟩)
    · exact even (scaled.even (.inl (le_antisymm scaled.upper (same ▸ after))))
    · rcases before previous split with exact | less
      · exact even (scaled.even (.inr (by linarith)))
      · exact absurd same less.ne

/-- A ratio is rounded to the spacing of its binade by rounding the quotient with that spacing. -/
theorem HalfEven.scaledTo {scaled denominator shift mantissa : Nat} (positive : 0 < denominator)
    (halfEven : HalfEven scaled (denominator * 2 ^ shift) mantissa) (short : mantissa ≤ 2 ^ 53)
    (large : shift = 0 ∨
      2 ^ 52 ≤ mantissa ∧ 2 ^ 52 * (denominator * 2 ^ shift) ≤ scaled) :
    ScaledTo (scaled / denominator) shift mantissa := by
  have base : (0 : ℚ) < denominator := Nat.cast_pos.mpr positive
  have upper : (2 * scaled : ℚ) ≤ 2 * (mantissa * (denominator * 2 ^ shift)) +
      denominator * 2 ^ shift := by exact_mod_cast halfEven.upper
  have lower : (2 * (mantissa * (denominator * 2 ^ shift)) : ℚ) ≤
      2 * scaled + denominator * 2 ^ shift := by exact_mod_cast halfEven.lower
  refine ⟨short, large.imp_right fun normal => ⟨normal.1, ?_⟩, ?_, ?_, ?_⟩
  · have reached : (2 ^ 52 * (denominator * 2 ^ shift) : ℚ) ≤ scaled := by exact_mod_cast normal.2
    rw [le_div_iff₀ base]
    linarith
  · rw [div_le_iff₀ base]
    linarith
  · rw [← sub_le_iff_le_add, le_div_iff₀ base]
    linarith
  · rintro (same | same)
    · rw [div_eq_iff base.ne'] at same
      refine halfEven.even (.inl ?_)
      have exact : (2 * scaled : ℚ) = 2 * (mantissa * (denominator * 2 ^ shift)) +
          denominator * 2 ^ shift := by linarith
      exact_mod_cast exact
    · rw [← sub_eq_iff_eq_add, eq_div_iff base.ne'] at same
      refine halfEven.even (.inr ?_)
      have exact : (2 * (mantissa * (denominator * 2 ^ shift)) : ℚ) =
          2 * scaled + denominator * 2 ^ shift := by linarith
      exact_mod_cast exact

section Quotient

variable {scaled denominator shift : Nat}

/-- At most 53 binary digits of the quotient are left before those that the shift drops. -/
theorem lt_of_shift_eq (positive : 0 < denominator)
    (passed : shift = (scaled / denominator).log2 - 52) :
    scaled < 2 ^ 53 * (denominator * 2 ^ shift) := by
  have binade : scaled / denominator < 2 ^ ((scaled / denominator).log2 + 1) := Nat.lt_log2_self
  have wide : 2 ^ ((scaled / denominator).log2 + 1) ≤ 2 ^ (53 + shift) :=
    Nat.pow_le_pow_right (by decide) (by omega)
  calc scaled < 2 ^ (53 + shift) * denominator :=
        (Nat.div_lt_iff_lt_mul positive).mp (binade.trans_le wide)
    _ = 2 ^ 53 * (denominator * 2 ^ shift) := by ring

/-- All 53 of them are left if the shift drops any. -/
theorem le_of_shift_eq (positive : 0 < denominator)
    (passed : shift = (scaled / denominator).log2 - 52) (later : shift ≠ 0) :
    2 ^ 52 * (denominator * 2 ^ shift) ≤ scaled := by
  have nonzero : scaled / denominator ≠ 0 := by
    intro zero
    rw [zero] at passed
    exact later passed
  have leading := Nat.log2_self_le nonzero
  obtain binade : (scaled / denominator).log2 = 52 + shift := by omega
  rw [binade] at leading
  calc 2 ^ 52 * (denominator * 2 ^ shift) = 2 ^ (52 + shift) * denominator := by ring
    _ ≤ scaled := (Nat.le_div_iff_mul_le positive).mp leading

end Quotient

/-- The rank of a ratio is the one that it rounds to. -/
theorem roundsTo_nearestRank (numerator : Nat) {denominator exponent : Nat}
    (positive : 0 < denominator) (last : exponent = 1074) :
    RoundsTo (numerator * 2 ^ exponent / denominator) (nearestRank numerator denominator) := by
  obtain ⟨scaled, product⟩ : ∃ scaled, scaled = numerator * 2 ^ exponent := ⟨_, rfl⟩
  obtain ⟨shift, passed⟩ : ∃ shift, shift = (scaled / denominator).log2 - 52 := ⟨_, rfl⟩
  obtain ⟨mantissa, rounded⟩ :
      ∃ mantissa, mantissa = roundHalfEven scaled (denominator * 2 ^ shift) := ⟨_, rfl⟩
  have rank : nearestRank numerator denominator = shift * 2 ^ 52 + mantissa := by
    rw [rounded, passed, product, nearestRank, ← last]
    rfl
  have magnitude : (numerator * 2 ^ exponent / denominator : ℚ) = scaled / denominator := by
    rw [product]
    push_cast
    rfl
  have spacing : 0 < denominator * 2 ^ shift := Nat.mul_pos positive (Nat.two_pow_pos _)
  have halfEven := halfEven_roundHalfEven scaled spacing
  have above := le_roundHalfEven scaled (denominator * 2 ^ shift)
  rw [← rounded] at halfEven above
  have short : mantissa ≤ 2 ^ 53 := by
    refine Nat.le_of_not_lt fun long => ?_
    have product : (2 ^ 53 + 1) * (denominator * 2 ^ shift) ≤
        mantissa * (denominator * 2 ^ shift) := Nat.mul_le_mul_right _ long
    have lower := halfEven.lower
    have small := lt_of_shift_eq positive passed
    omega
  rw [rank, magnitude]
  refine (halfEven.scaledTo positive short (or_iff_not_imp_left.mpr fun later => ?_)).roundsTo
  have reached := le_of_shift_eq positive passed later
  exact ⟨((Nat.le_div_iff_mul_le spacing).mpr reached).trans above, reached⟩

/-! ### Nearness -/

section Nearness

variable {magnitude : ℚ} {rank : Nat}

/-- No later rank is nearer, and one that is as near is the next one over the midpoint. -/
theorem RoundsTo.near_of_lt (rounds : RoundsTo magnitude rank) {later : Nat} (less : rank < later) :
    |magnitude - rankUnits rank| ≤ |magnitude - rankUnits later| ∧
      (|magnitude - rankUnits later| = |magnitude - rankUnits rank| → rank % 2 = 0) := by
  have next : (rankUnits (rank + 1) : ℚ) ≤ rankUnits later :=
    Nat.cast_le.mpr (rankUnits_strictMono.monotone less)
  have here : (rankUnits rank : ℚ) < rankUnits later :=
    Nat.cast_lt.mpr (rankUnits_strictMono less)
  have upper := rounds.upper
  rw [midpoint] at upper
  rw [abs_of_nonpos (a := magnitude - rankUnits later) (by linarith)]
  refine ⟨abs_le.mpr ⟨by linarith, by linarith⟩, fun same => rounds.even (.inl ?_)⟩
  rw [midpoint]
  rcases abs_cases (magnitude - rankUnits rank) with ⟨distance, _⟩ | ⟨distance, _⟩
  · rw [distance] at same
    linarith
  · rw [distance] at same
    linarith

/-- No earlier rank is nearer, and one that is as near is the previous one over the midpoint. -/
theorem RoundsTo.near_of_gt (rounds : RoundsTo magnitude rank) {earlier : Nat}
    (less : earlier < rank) :
    |magnitude - rankUnits rank| ≤ |magnitude - rankUnits earlier| ∧
      (|magnitude - rankUnits earlier| = |magnitude - rankUnits rank| → rank % 2 = 0) := by
  obtain ⟨previous, split⟩ := Nat.exists_eq_add_one_of_ne_zero (Nat.ne_zero_of_lt less)
  have before : (rankUnits earlier : ℚ) ≤ rankUnits previous :=
    Nat.cast_le.mpr (rankUnits_strictMono.monotone (by omega))
  have here : (rankUnits earlier : ℚ) < rankUnits rank :=
    Nat.cast_lt.mpr (rankUnits_strictMono less)
  have lower := rounds.lower previous split
  rw [midpoint, ← split] at lower
  rw [abs_of_nonneg (a := magnitude - rankUnits earlier) (by linarith)]
  refine ⟨abs_le.mpr ⟨by linarith, by linarith⟩,
    fun same => rounds.even (.inr ⟨previous, split, ?_⟩)⟩
  rw [midpoint, ← split]
  rcases abs_cases (magnitude - rankUnits rank) with ⟨distance, _⟩ | ⟨distance, _⟩
  · rw [distance] at same
    linarith
  · rw [distance] at same
    linarith

/-- No other rank is nearer, and if one is as near then the rank is even. -/
theorem RoundsTo.near (rounds : RoundsTo magnitude rank) (other : Nat) :
    |magnitude - rankUnits rank| ≤ |magnitude - rankUnits other| ∧
      (other ≠ rank → |magnitude - rankUnits other| = |magnitude - rankUnits rank| →
        rank % 2 = 0) := by
  rcases lt_trichotomy rank other with less | rfl | less
  · exact (rounds.near_of_lt less).imp_right fun even _ => even
  · exact ⟨le_rfl, fun different => absurd rfl different⟩
  · exact (rounds.near_of_gt less).imp_right fun even _ => even

/-- A magnitude is on the near side of a midpoint if the rank on that side is the nearer one. -/
theorem le_midpoint_of_near
    (near : |magnitude - rankUnits rank| ≤ |magnitude - rankUnits (rank + 1)|) :
    magnitude ≤ midpoint rank := by
  have less := rankUnits_lt_succ rank
  refine le_of_not_gt fun beyond => ?_
  rw [midpoint] at beyond
  rw [abs_of_nonneg (by linarith)] at near
  rcases abs_cases (magnitude - rankUnits (rank + 1)) with ⟨distance, _⟩ | ⟨distance, _⟩
  · linarith
  · linarith

theorem midpoint_le_of_near
    (near : |magnitude - rankUnits (rank + 1)| ≤ |magnitude - rankUnits rank|) :
    midpoint rank ≤ magnitude := by
  have less := rankUnits_lt_succ rank
  refine le_of_not_gt fun before => ?_
  rw [midpoint] at before
  rw [abs_of_nonpos (a := magnitude - rankUnits (rank + 1)) (by linarith)] at near
  rcases abs_cases (magnitude - rankUnits rank) with ⟨distance, _⟩ | ⟨distance, _⟩
  · linarith
  · linarith

/-- Both neighbours of a midpoint are equally near to it. -/
theorem abs_midpoint_sub (rank : Nat) :
    |midpoint rank - rankUnits rank| = |midpoint rank - rankUnits (rank + 1)| := by
  have opposite : midpoint rank - rankUnits (rank + 1) = -(midpoint rank - rankUnits rank) := by
    rw [midpoint]
    ring
  rw [opposite, abs_neg]

end Nearness

end ScenarioTree.Number
