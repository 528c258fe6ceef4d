/-
This file writes numbers. A double is written with the fewest digits that read back as the same
double, and of the shortest candidates with the one nearest to it, a tie going to the even digit.
It is written with a point and at least one digit on each side of it while its decimal exponent is
from -4 to 15, and otherwise with an exponent of a sign and at least two digits.

Candidates are the two neighbours of the value on the grid of one digit count after another, and a
candidate counts only if rounding it gives the double again. A double whose expansion ends is its
own candidate in the end, so the search may stop there.
-/

import ScenarioTree.Number.Basic

namespace ScenarioTree.Number

/-- A positive decimal: `digits * 10 ^ scale`. -/
structure Scientific where
  digits : Nat
  scale : Int
  deriving DecidableEq

namespace Scientific

/-- Whether rounding the decimal gives the rank. -/
def reads (decimal : Scientific) (rank : Nat) : Bool :=
  nearestRank (decimal.digits * Nat.pow 10 decimal.scale.toNat)
    (Nat.pow 10 (-decimal.scale).toNat) == rank

end Scientific

/-! ### The search -/

/-- The decimal exponent of `units * 2 ^ -1074`: the power of ten of its first digit, searched
upwards from the smallest. -/
def decimalExponent (units : Nat) : Int :=
  let scaled := units * Nat.pow 10 324 / Nat.pow 2 1074
  (Nat.toDigits 10 scaled).length - 325

/-- The neighbours of `units * 2 ^ -1074` among the multiples of `10 ^ scale`, the nearer first. -/
def neighbours (units : Nat) (scale : Int) : List Scientific :=
  let numerator := units * Nat.pow 10 (-scale).toNat
  let denominator := Nat.pow 2 1074 * Nat.pow 10 scale.toNat
  let below := numerator / denominator
  let twice := 2 * (numerator % denominator)
  if twice < denominator || (twice = denominator && below % 2 = 0) then
    [⟨below, scale⟩, ⟨below + 1, scale⟩]
  else
    [⟨below + 1, scale⟩, ⟨below, scale⟩]

/-- The first candidate that reads back, from `scale` downwards through `fuel` grids, and the exact
expansion if none does. -/
def searchShortest (rank units : Nat) : Nat → Int → Scientific
  | 0, _ => ⟨units * Nat.pow 5 1074, -1074⟩
  | fuel + 1, scale =>
    ((neighbours units scale).find? (·.reads rank)).getD
      (searchShortest rank units fuel (scale - 1))

/-- The shortest decimal that reads back as a positive double. -/
def Finite.shortest (value : Finite) : Scientific :=
  searchShortest value.rank value.units 17 (decimalExponent value.units)

/-! ### Layout -/

/-- The digits of a number, most significant first. -/
def digitsOf (number : Nat) : List Char :=
  Nat.toDigits 10 number

/-- The digits of a number without the zeros that end it. -/
def significantDigits (number : Nat) : List Char :=
  ((digitsOf number).reverse.dropWhile (· == '0')).reverse

/-- The exponent part: a sign and at least two digits. -/
def exponentText (exponent : Int) : List Char :=
  let digits := digitsOf exponent.natAbs
  'e' :: (if exponent < 0 then '-' else '+') ::
    (if digits.length < 2 then '0' :: digits else digits)

/-- Digits `d₁d₂…` of the value `d₁.d₂… * 10 ^ exponent`, laid out. -/
def layout (digits : List Char) (exponent : Int) : List Char :=
  if exponent < -4 || 15 < exponent then
    let fraction := digits.drop 1
    digits.take 1 ++ (if fraction.isEmpty then [] else '.' :: fraction) ++ exponentText exponent
  else if exponent < 0 then
    '0' :: '.' :: (List.replicate ((-exponent).toNat - 1) '0' ++ digits)
  else
    let wholeLength := exponent.toNat + 1
    let fraction := digits.drop wholeLength
    digits.take wholeLength ++ List.replicate (wholeLength - digits.length) '0' ++
      '.' :: (if fraction.isEmpty then ['0'] else fraction)

/-- The characters of a positive decimal. -/
def Scientific.characters (decimal : Scientific) : List Char :=
  layout (significantDigits decimal.digits)
    (((digitsOf decimal.digits).length : Int) - 1 + decimal.scale)

/-- The characters of a finite double. -/
def Finite.characters (value : Finite) : List Char :=
  let magnitude :=
    if value.rank = 0 then ['0', '.', '0'] else value.shortest.characters
  if value.negative then '-' :: magnitude else magnitude

/-- The text of a double. -/
def Double.text : Double → String
  | .finite value => String.ofList value.characters
  | .infinite false => "inf"
  | .infinite true => "-inf"
  | .undefined => "nan"

/-- The characters of an integer. -/
def integerCharacters (value : Int) : List Char :=
  if value < 0 then '-' :: digitsOf value.natAbs else digitsOf value.natAbs

/-- The text of a number. -/
def text : Number → String
  | .integer value => String.ofList (integerCharacters value)
  | .real value => value.text

end ScenarioTree.Number
