/-
This file models double-precision numbers over the integers. A finite double is a sign and a rank:
the ranks number the non-negative finite doubles in increasing order, zero first, so that every
rank below the bound is exactly one double and rounding to the nearest double is rounding to a rank.

A rank splits into a binade and a position in it. With `s` the number of binades passed after the
first two, the value is `mantissa * 2 ^ s` units of `2 ^ -1074`, and the mantissa is below `2 ^ 53`.
-/

namespace ScenarioTree.Number

/-- The number of non-negative finite doubles. -/
def rankCount : Nat := 2047 * Nat.pow 2 52

/-- A finite double. -/
structure Finite where
  negative : Bool
  rank : Nat
  rank_lt : rank < rankCount
  deriving DecidableEq

/-- A double: finite, infinite, or no number at all. -/
inductive Double where
  | finite (value : Finite)
  | infinite (negative : Bool)
  | undefined
  deriving DecidableEq

namespace Finite

/-- The number of binades passed beyond the first two, which share one spacing. -/
def shift (value : Finite) : Nat :=
  value.rank / Nat.pow 2 52 - 1

/-- The significant digits, in binary. -/
def mantissa (value : Finite) : Nat :=
  value.rank - value.shift * Nat.pow 2 52

/-- The magnitude in units of `2 ^ -1074`. -/
def units (value : Finite) : Nat :=
  value.mantissa * Nat.pow 2 value.shift

/-- The value in units of `2 ^ -1074`. -/
def signedUnits (value : Finite) : Int :=
  if value.negative then -(value.units : Int) else value.units

end Finite

/-! ### Rounding -/

/-- The integer nearest to `numerator / denominator`; a half goes to the even neighbour. -/
def roundHalfEven (numerator denominator : Nat) : Nat :=
  let quotient := numerator / denominator
  let twice := 2 * (numerator % denominator)
  if twice < denominator then quotient
  else if denominator < twice then quotient + 1
  else if quotient % 2 = 0 then quotient
  else quotient + 1

/-- The rank nearest to `numerator / denominator`, ties going to the even mantissa. The mantissa is
the value rounded to the spacing of its binade; one that fills up carries into the next binade by
itself, and a rank of at least `rankCount` is an overflow. -/
def nearestRank (numerator denominator : Nat) : Nat :=
  let scaled := numerator * Nat.pow 2 1074
  let shift := (scaled / denominator).log2 - 52
  shift * Nat.pow 2 52 + roundHalfEven scaled (denominator * Nat.pow 2 shift)

/-- The double nearest to a signed ratio, if it is finite. -/
def Finite.nearest? (negative : Bool) (numerator denominator : Nat) : Option Finite :=
  let rank := nearestRank numerator denominator
  if bounded : rank < rankCount then some ⟨negative, rank, bounded⟩ else none

end ScenarioTree.Number
