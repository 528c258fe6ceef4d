/-
This file says which numbers a text can denote: the integers that can be written with as many digits
as a literal may have, and every finite double.

A double is written as an integer with the exponent of its last possible decimal. One unit of
`2 ^ -1074` is `5 ^ 1074` times `10 ^ -1074`, so this text denotes the double exactly, and what is
exact is not rounded.
-/

import ScenarioTree.Number.Literal
import ScenarioTree.Number.Shortest
import ScenarioTree.Proofs.Blank
import ScenarioTree.Proofs.Rounding

namespace ScenarioTree.Number

/-! ### Digits -/

theorem isDigit_eq (character : Char) : isDigit character = character.isDigit := rfl

theorem digitsValue_eq (digits : List Char) :
    digitsValue digits = Nat.ofDigitChars 10 digits 0 := rfl

theorem isDigit_of_mem_toDigits {value : Nat} {character : Char}
    (member : character ∈ Nat.toDigits 10 value) : isDigit character :=
  Nat.isDigit_of_mem_toDigits (by decide) (by decide) member

@[simp]
theorem digitsValue_toDigits (value : Nat) : digitsValue (Nat.toDigits 10 value) = value :=
  Nat.ofDigitChars_toDigits (by decide) (by decide)

/-- So many digits denote a number below the power of ten with as many zeros. -/
theorem digitsValue_lt {digits : List Char} (all : ∀ digit ∈ digits, isDigit digit) :
    digitsValue digits < 10 ^ digits.length := by
  induction digits with
  | nil => exact Nat.one_pos
  | cons digit rest induction =>
    have smaller := induction fun other member => all other (List.mem_cons_of_mem _ member)
    have bound : digit.toNat - 48 ≤ 9 := by
      have upper := all digit List.mem_cons_self
      rw [isDigit_eq, Char.isDigit, Bool.and_eq_true, decide_eq_true_iff,
        decide_eq_true_iff] at upper
      have upper : digit.toNat ≤ 57 := upper.2
      omega
    have leading : 10 ^ rest.length * (digit.toNat - 48) ≤ 10 ^ rest.length * 9 :=
      Nat.mul_le_mul_left _ bound
    have split : digitsValue (digit :: rest) =
        10 ^ rest.length * (digit.toNat - 48) + digitsValue rest := by
      rw [digitsValue_eq, digitsValue_eq, Nat.ofDigitChars_cons,
        Nat.ofDigitChars_eq_ofDigitChars_zero, Nat.mul_zero, Nat.zero_add]
      rfl
    rw [split, List.length_cons, Nat.pow_succ]
    omega

theorem visible_of_isDigit {character : Char} (digit : isDigit character) :
    Text.isBlank character = false := by
  rw [isDigit_eq, Char.isDigit, Bool.and_eq_true, decide_eq_true_iff, decide_eq_true_iff] at digit
  have lower : 48 ≤ character.toNat := digit.1
  have upper : character.toNat ≤ 57 := digit.2
  simp [Text.isBlank]
  omega

/-- What does not go on with characters of a sort. -/
def Ends (belongs : Char → Bool) (rest : List Char) : Prop :=
  rest = [] ∨ ∃ first others, rest = first :: others ∧ belongs first = false

/-- Characters of a sort are told apart from what follows. -/
theorem span_append {belongs : Char → Bool} {text rest : List Char}
    (all : ∀ character ∈ text, belongs character) (ends : Ends belongs rest) :
    (text ++ rest).takeWhile belongs = text ∧ (text ++ rest).dropWhile belongs = rest := by
  rw [List.takeWhile_append_of_pos all, List.dropWhile_append_of_pos all]
  rcases ends with rfl | ⟨first, others, rfl, other⟩
  · simp
  · simp [other]

/-! ### Signs -/

/-- Characters with a minus in front if the number is negative. -/
def withSign (negative : Bool) (characters : List Char) : List Char :=
  if negative then '-' :: characters else characters

theorem splitSign_withSign (negative : Bool) {first : Char} (rest : List Char)
    (digit : isDigit first) :
    splitSign (withSign negative (first :: rest)) = (negative, first :: rest) := by
  cases negative with
  | true => rfl
  | false =>
    rw [withSign, if_neg Bool.false_ne_true, splitSign.eq_def]
    split
    · next same => rw [(List.cons.inj same).1] at digit; cases digit
    · next same => rw [(List.cons.inj same).1] at digit; cases digit
    · rfl

theorem splitSign_toDigits (negative : Bool) (value : Nat) (rest : List Char) :
    splitSign (withSign negative (Nat.toDigits 10 value ++ rest)) =
      (negative, Nat.toDigits 10 value ++ rest) := by
  cases digits : Nat.toDigits 10 value with
  | nil => exact absurd digits Nat.toDigits_ne_nil
  | cons first others =>
    have member : first ∈ Nat.toDigits 10 value := digits ▸ List.mem_cons_self
    exact splitSign_withSign negative _ (isDigit_of_mem_toDigits member)

theorem visible_withSign {negative : Bool} {characters : List Char}
    (visible : ∀ character ∈ characters, Text.isBlank character = false) :
    ∀ character ∈ withSign negative characters, Text.isBlank character = false := by
  intro character member
  rw [withSign] at member
  split at member
  · rcases List.mem_cons.mp member with rfl | member
    · rfl
    · exact visible character member
  · exact visible character member

/-! ### Integers -/

theorem integerCharacters_eq (value : Int) :
    integerCharacters value = withSign (value < 0) (Nat.toDigits 10 value.natAbs) := by
  by_cases negative : value < 0
  · simp only [integerCharacters, withSign, negative, if_true, decide_true, digitsOf]
  · simp only [integerCharacters, withSign, negative, if_false, decide_false, digitsOf,
      Bool.false_eq_true]

theorem integerDigits?_integerCharacters (value : Int) :
    integerDigits? (integerCharacters value) =
      some (decide (value < 0), Nat.toDigits 10 value.natAbs) := by
  have sign := splitSign_toDigits (value < 0) value.natAbs []
  rw [List.append_nil] at sign
  have digits : (Nat.toDigits 10 value.natAbs).all isDigit = true :=
    List.all_eq_true.mpr fun _ member => isDigit_of_mem_toDigits member
  simp [integerDigits?, integerCharacters_eq, sign, digits, Nat.toDigits_ne_nil]

theorem signed_natAbs (value : Int) : signed (value < 0) value.natAbs = value := by
  rw [signed]
  split
  · next negative =>
    have below := of_decide_eq_true negative
    omega
  · next other =>
    have above : ¬ value < 0 := fun below => other (decide_eq_true below)
    omega

/-- A short integer is read back as it was written. -/
theorem ofCharacters_integerCharacters {value : Int} (short : value.natAbs < 10 ^ digitLimit) :
    ofCharacters (integerCharacters value) = .ok (.integer value) := by
  have length : (Nat.toDigits 10 value.natAbs).length ≤ digitLimit :=
    (Nat.length_toDigits_le_iff (by decide) (by decide)).mpr short
  rw [ofCharacters, integerDigits?_integerCharacters]
  simp only [if_neg (Nat.not_lt_of_ge length), digitsValue_toDigits, signed_natAbs]

theorem visible_integerCharacters (value : Int) :
    ∀ character ∈ integerCharacters value, Text.isBlank character = false := by
  rw [integerCharacters_eq]
  exact visible_withSign fun _ member => visible_of_isDigit (isDigit_of_mem_toDigits member)

theorem natAbs_signed (negative : Bool) (magnitude : Nat) :
    (signed negative magnitude).natAbs = magnitude := by
  cases negative with
  | true => exact Int.natAbs_neg _
  | false => rfl

/-! ### Decimals with an exponent -/

/-- The exponent of the last decimal that a double can have. -/
def lastExponent : List Char := ['e', '-', '1', '0', '7', '4']

/-- The characters of an integer with this exponent. -/
def exactCharacters (negative : Bool) (coefficient : Nat) : List Char :=
  withSign negative (Nat.toDigits 10 coefficient ++ lastExponent)

/-- The decimal that these characters are. -/
def exactDecimal (negative : Bool) (coefficient : Nat) : Decimal where
  negative := negative
  whole := Nat.toDigits 10 coefficient
  fraction := []
  exponent := -1074

theorem integerDigits?_exact (negative : Bool) (coefficient : Nat) :
    integerDigits? (exactCharacters negative coefficient) = none := by
  have letter : isDigit 'e' = false := rfl
  simp [integerDigits?, exactCharacters, splitSign_toDigits, lastExponent, letter]

theorem ofCharacters?_exact (negative : Bool) (coefficient : Nat) :
    Decimal.ofCharacters? (exactCharacters negative coefficient) =
      some (exactDecimal negative coefficient) := by
  have digits : ∀ digit ∈ Nat.toDigits 10 coefficient, isDigit digit :=
    fun _ member => isDigit_of_mem_toDigits member
  obtain ⟨taken, left⟩ := @span_append isDigit _ lastExponent digits (.inr ⟨'e', _, rfl, rfl⟩)
  have exponent : suffixOf? lastExponent = some (-1074) := by decide
  rw [Decimal.ofCharacters?, exactCharacters, splitSign_toDigits]
  simp only [taken, left]
  rw [lastExponent] at exponent ⊢
  simp [exponent, Nat.toDigits_ne_nil, exactDecimal]

theorem visible_exact (negative : Bool) (coefficient : Nat) :
    ∀ character ∈ exactCharacters negative coefficient,
      Text.isBlank character = false := by
  have letters : ∀ character ∈ lastExponent, Text.isBlank character = false := by
    simp [lastExponent, Text.isBlank]
  refine visible_withSign fun character member => ?_
  rcases List.mem_append.mp member with member | member
  · exact visible_of_isDigit (isDigit_of_mem_toDigits member)
  · exact letters character member

/-! ### Doubles -/

theorem coefficient_exact (negative : Bool) (coefficient : Nat) :
    (exactDecimal negative coefficient).coefficient = coefficient := by
  rw [Decimal.coefficient, exactDecimal, List.append_nil, digitsValue_toDigits]

/-- A decimal has as many digits as its size demands. -/
theorem width_exact (negative : Bool) {coefficient count : Nat} (positive : 0 < count)
    (large : 10 ^ count ≤ coefficient) : count < (exactDecimal negative coefficient).width := by
  refine Nat.lt_of_not_ge fun short => ?_
  have small := (Nat.length_toDigits_le_iff (by decide) positive).mp short
  exact Nat.not_le_of_gt small large

theorem nearest?_of_zero (negative : Bool) :
    (exactDecimal negative 0).nearest? = Finite.nearest? negative 0 1 := by
  simp only [Decimal.nearest?, coefficient_exact, decide_true, Bool.true_or, if_true]
  rfl

theorem nearest?_of_wide {decimal : Decimal} (nonzero : decimal.coefficient ≠ 0)
    (near : -330 ≤ decimal.width + decimal.scale) (bounded : decimal.scale ≤ 310) :
    decimal.nearest? =
      Finite.nearest? decimal.negative (decimal.coefficient * Nat.pow 10 decimal.scale.toNat)
        (Nat.pow 10 (-decimal.scale).toNat) := by
  have kept : ¬ (decide (decimal.coefficient = 0) ||
      decide ((decimal.width : Int) + decimal.scale < -330)) = true := by
    simp [nonzero, near]
  rw [Decimal.nearest?, if_neg kept, if_neg (Int.not_lt.mpr bounded)]

/-- So many units of `2 ^ -exponent`, in units of `10 ^ -exponent`. -/
def decimalUnits (units exponent : Nat) : Nat :=
  units * Nat.pow 5 exponent

theorem decimalUnits_mul (units exponent : Nat) :
    decimalUnits units exponent * Nat.pow 10 (-exponent : Int).toNat * Nat.pow 2 exponent =
      units * Nat.pow 10 (- -exponent : Int).toNat := by
  have up : (-exponent : Int).toNat = 0 := by omega
  have down : (- -exponent : Int).toNat = exponent := by omega
  rw [decimalUnits, up, down, Nat.pow_eq, Nat.pow_eq, Nat.pow_eq, Nat.pow_eq, Nat.pow_zero,
    Nat.mul_one, Nat.mul_assoc, ← Nat.mul_pow]

/-- One unit is a decimal of some length, and more units are not shorter. -/
theorem pow_le_decimalUnits : 10 ^ 743 ≤ decimalUnits 1 1074 := by
  decide +kernel

theorem decimalUnits_le {units exponent : Nat} (positive : 0 < units) :
    decimalUnits 1 exponent ≤ decimalUnits units exponent :=
  Nat.mul_le_mul_right _ positive

theorem pow_toNat_pos (exponent : Int) : 0 < Nat.pow 10 exponent.toNat :=
  Nat.pow_pos (by decide)

/-- A double is the decimal that its units make when each is written out in full. -/
theorem nearest?_exact {value : Finite} {coefficient exponent : Nat} (last : exponent = 1074)
    (written : coefficient = decimalUnits value.units exponent) :
    (exactDecimal value.negative coefficient).nearest? = some value := by
  rcases Nat.eq_zero_or_pos value.units with zero | positive
  -- zero is read by a branch of its own, which does not look at the exponent
  · have nothing : coefficient = 0 := by simp only [written, zero, decimalUnits, Nat.zero_mul]
    have exact : 0 * Nat.pow 2 exponent = value.units * 1 := by simp only [zero, Nat.zero_mul]
    rw [nothing, nearest?_of_zero]
    exact nearest?_eq Nat.one_pos last exact
  · have unit : 10 ^ 743 ≤ decimalUnits 1 exponent := last ▸ pow_le_decimalUnits
    have large : 10 ^ 743 ≤ coefficient := written ▸ unit.trans (decimalUnits_le positive)
    have nonzero := (Nat.pow_pos (by decide)).trans_le large
    have wide := width_exact value.negative (by decide) large
    have scale : (exactDecimal value.negative coefficient).scale = -(exponent : Int) := by
      rw [last]
      rfl
    have same := coefficient_exact value.negative coefficient
    have exact := decimalUnits_mul value.units exponent
    rw [← written, ← same, ← scale] at exact
    rw [nearest?_of_wide (by rw [same]; exact nonzero.ne') (by omega) (by omega)]
    exact nearest?_eq (pow_toNat_pos _) last exact

/-! ### What can be denoted -/

/-- The numbers that literals denote. -/
def Denotable : Number → Prop
  | .integer value => value.natAbs < 10 ^ digitLimit
  | .real (.finite _) => True
  | .real _ => False

theorem digits_of_integerDigits? {characters digits : List Char} {negative : Bool}
    (found : integerDigits? characters = some (negative, digits)) :
    ∀ digit ∈ digits, isDigit digit := by
  rw [integerDigits?] at found
  obtain ⟨sign, rest⟩ := splitSign characters
  simp only at found
  split at found
  · cases found
  · next kept =>
    cases found
    simp only [Bool.or_eq_true, not_or, Bool.not_eq_true', Bool.not_eq_false] at kept
    exact List.all_eq_true.mp kept.2

theorem denotable_of_ofCharacters {characters : List Char} {number : Number}
    (read : ofCharacters characters = .ok number) : number.Denotable := by
  rw [ofCharacters] at read
  split at read
  · next negative digits found =>
    split at read
    · cases read
    · next short =>
      cases read
      have digits := digits_of_integerDigits? found
      rw [Denotable, natAbs_signed]
      exact (digitsValue_lt digits).trans_le
        (Nat.pow_le_pow_right (by decide) (Nat.le_of_not_lt short))
  · split at read
    · cases read
    · split at read
      · cases read
      · cases read
        trivial

/-- A text denotes a short integer or a finite double, and each of them is denoted by some text. -/
theorem exists_ofText_iff {number : Number} :
    (∃ text, ofText text = .ok number) ↔ number.Denotable := by
  constructor
  · rintro ⟨text, read⟩
    exact denotable_of_ofCharacters read
  · intro denotable
    obtain ⟨characters, visible, read⟩ : ∃ characters : List Char,
        (∀ character ∈ characters, Text.isBlank character = false) ∧
          ofCharacters characters = .ok number := by
      cases number with
      | integer value =>
        exact ⟨integerCharacters value, visible_integerCharacters value,
          ofCharacters_integerCharacters denotable⟩
      | real value =>
        cases value with
        | finite value =>
          obtain ⟨coefficient, written⟩ :
              ∃ coefficient, coefficient = decimalUnits value.units 1074 := ⟨_, rfl⟩
          refine ⟨exactCharacters value.negative coefficient, visible_exact _ _, ?_⟩
          simp only [ofCharacters, integerDigits?_exact, ofCharacters?_exact,
            nearest?_exact rfl written]
        | infinite negative => exact denotable.elim
        | undefined => exact denotable.elim
    refine ⟨String.ofList characters, ?_⟩
    rw [ofText, String.toList_ofList, Text.trim_of_visible visible, read]

end ScenarioTree.Number
