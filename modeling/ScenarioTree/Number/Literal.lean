/-
This file reads numeric literals. Without the blanks around it, a literal is a signed run of digits,
which denotes an integer, or a signed decimal with a point or an exponent or both, which denotes the
nearest double. Digits are the ASCII ones.

A run of digits longer than `digitLimit` is refused, and so is a decimal too large for a finite
double; everything else that is not of these forms is no number.
-/

import ScenarioTree.Text.Blank
import ScenarioTree.Number.Basic

namespace ScenarioTree.Number

open ScenarioTree.Text

/-! ### Digits -/

/-- The ten ASCII digits. -/
def isDigit (character : Char) : Bool :=
  '0' ≤ character && character ≤ '9'

/-- The value of a digit. -/
def digitValue (character : Char) : Nat :=
  character.toNat - 48

/-- The positional value of a run of digits. -/
def digitsValue (digits : List Char) : Nat :=
  digits.foldl (fun value digit => 10 * value + digitValue digit) 0

/-- An optional sign in front: whether it is a minus, and the rest. -/
def splitSign : List Char → Bool × List Char
  | '-' :: rest => (true, rest)
  | '+' :: rest => (false, rest)
  | rest => (false, rest)

/-- An integer of a sign and a magnitude. -/
def signed (negative : Bool) (magnitude : Nat) : Int :=
  if negative then -(magnitude : Int) else magnitude

/-! ### Decimals -/

/-- A decimal as it is written: the digits before and after the point, and the exponent. -/
structure Decimal where
  negative : Bool
  whole : List Char
  fraction : List Char
  exponent : Int

/-- A nonempty run of digits with an optional sign. -/
def exponentOf? (characters : List Char) : Option Int :=
  let (negative, digits) := splitSign characters
  if digits.isEmpty || !digits.all isDigit then none
  else some (signed negative (digitsValue digits))

/-- What may follow the digits of a decimal: nothing, or an exponent. -/
def suffixOf? : List Char → Option Int
  | [] => some 0
  | marker :: rest => if marker == 'e' || marker == 'E' then exponentOf? rest else none

/-- The parts of a decimal. There are digits before the point, after it, or both. -/
def Decimal.ofCharacters? (characters : List Char) : Option Decimal :=
  let (negative, body) := splitSign characters
  let whole := body.takeWhile isDigit
  match body.dropWhile isDigit with
  | '.' :: rest =>
    let fraction := rest.takeWhile isDigit
    if whole.isEmpty && fraction.isEmpty then none
    else (suffixOf? (rest.dropWhile isDigit)).map (⟨negative, whole, fraction, ·⟩)
  | rest => if whole.isEmpty then none else (suffixOf? rest).map (⟨negative, whole, [], ·⟩)

namespace Decimal

/-- All digits as one number; the value is this times ten to the power `scale`. -/
def coefficient (decimal : Decimal) : Nat :=
  digitsValue (decimal.whole ++ decimal.fraction)

/-- The power of ten that goes with `coefficient`. -/
def scale (decimal : Decimal) : Int :=
  decimal.exponent - decimal.fraction.length

/-- The number of digits, a bound for the size of the coefficient. -/
def width (decimal : Decimal) : Nat :=
  decimal.whole.length + decimal.fraction.length

/-- The nearest finite double. A value below `10 ^ -330` rounds to zero and one of at least
`10 ^ 310` is too large, so neither power of ten has to be computed. -/
def nearest? (decimal : Decimal) : Option Finite :=
  if decimal.coefficient = 0 || decimal.width + decimal.scale < -330 then
    Finite.nearest? decimal.negative 0 1
  else if 310 < decimal.scale then
    none
  else
    Finite.nearest? decimal.negative (decimal.coefficient * Nat.pow 10 decimal.scale.toNat)
      (Nat.pow 10 (-decimal.scale).toNat)

/-- The nearest double; beyond the finite ones it is infinite. -/
def toDouble (decimal : Decimal) : Double :=
  match decimal.nearest? with
  | some value => .finite value
  | none => .infinite decimal.negative

end Decimal

/-- The double that its own text denotes. -/
def Double.ofText? (text : String) : Option Double :=
  if text == "inf" then some (.infinite false)
  else if text == "-inf" then some (.infinite true)
  else if text == "nan" then some .undefined
  else (Decimal.ofCharacters? text.toList).map Decimal.toDouble

/-! ### Literals -/

/-- The most digits an integer literal may have. -/
def digitLimit : Nat := 4300

/-- Why a text denotes no number. -/
inductive Refusal where
  | notNumber
  | notFinite
  | tooLong (digits : Nat)
  deriving DecidableEq

/-- The digits of an integer literal, with its sign. -/
def integerDigits? (characters : List Char) : Option (Bool × List Char) :=
  let (negative, digits) := splitSign characters
  if digits.isEmpty || !digits.all isDigit then none else some (negative, digits)

/-- The number that characters without blanks around them denote. -/
def ofCharacters (characters : List Char) : Except Refusal Number :=
  match integerDigits? characters with
  | some (negative, digits) =>
    if digitLimit < digits.length then .error (.tooLong digits.length)
    else .ok (.integer (signed negative (digitsValue digits)))
  | none =>
    match Decimal.ofCharacters? characters with
    | none => .error .notNumber
    | some decimal =>
      match decimal.nearest? with
      | none => .error .notFinite
      | some value => .ok (.real (.finite value))

/-- The number that a text denotes, blanks around it aside. -/
def ofText (text : String) : Except Refusal Number :=
  ofCharacters (trim text.toList)

end ScenarioTree.Number
