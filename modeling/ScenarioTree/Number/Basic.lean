/-
This file holds the numbers of a numeric literal: integers of any size and doubles. Two numbers are
the same when their exact values are, whichever way they are held, so an integer beyond `2 ^ 53` is
never confused with the double next to it.
-/

import ScenarioTree.Number.Binary64

namespace ScenarioTree

/-- A number as a literal denotes it: without a point or an exponent it is an integer. -/
inductive Number where
  | integer (value : Int)
  | real (value : Number.Double)
  deriving DecidableEq

namespace Number

/-- What comparing numbers looks at. -/
inductive Measure where
  | units (value : Int)
  | infinite (negative : Bool)
  | undefined
  deriving DecidableEq

/-- The exact value, finite ones in units of `2 ^ -1074`. -/
def measure : Number → Measure
  | .integer value => .units (value * Nat.pow 2 1074)
  | .real (.finite value) => .units value.signedUnits
  | .real (.infinite negative) => .infinite negative
  | .real .undefined => .undefined

/-- The same exact value. What is no number is the same as nothing, itself included. -/
def Measure.same : Measure → Measure → Bool
  | .units left, .units right => left == right
  | .infinite left, .infinite right => left == right
  | _, _ => false

/-- The same number. -/
def same (left right : Number) : Bool :=
  left.measure.same right.measure

end Number

end ScenarioTree
